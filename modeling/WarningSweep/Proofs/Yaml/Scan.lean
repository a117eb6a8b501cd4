import WarningSweep.Proofs.Yaml.Scalar
import WarningSweep.Yaml.Token.Scan

/-!
# Steps of a scan

A scan skips to the next token, reads it and gives out what cannot become a key any more.  Each kind
of token is told by its first characters.
-/

namespace WarningSweep.Yaml

namespace Scan

/-- A scan inside a block mapping, or before one, that has read these tokens. -/
structure Between (s : Scan) (opened : Bool) (tokens : List Token) : Prop where
  depth_eq : s.depth = 0
  indent_eq : s.indent = if opened then 0 else -1
  outer_eq : s.outer = if opened then [-1] else []
  done_eq : s.done = false
  barrier_eq : s.barrier = none
  tokens_eq : s.given.reverse ++ s.queue = tokens

/-- From one scan another is reached with steps to spare. -/
def Leads (s t : Scan) : Prop :=
  ∀ steps, s.here.rest.length + 1 < steps →
    ∃ fewer, t.here.rest.length + 1 < fewer ∧ scanFrom steps s = scanFrom fewer t

theorem Leads.refl (s : Scan) : Leads s s := fun steps enough => ⟨steps, enough, rfl⟩

theorem Leads.trans {s t u : Scan} (first : Leads s t) (second : Leads t u) : Leads s u := by
  intro steps enough
  obtain ⟨fewer, between, same⟩ := first steps enough
  obtain ⟨fewest, last, further⟩ := second fewer between
  exact ⟨fewest, last, same.trans further⟩

theorem leads_of_fetch {s t u : Scan} (going : s.done = false) (fetched : s.fetch = .ok t)
    (fresh : t.dropStale = .ok u) (shorter : u.here.rest.length < s.here.rest.length) :
    Leads s u.deliver := by
  intro steps enough
  obtain ⟨steps, rfl⟩ := Nat.exists_eq_succ_of_ne_zero (Nat.ne_of_gt (Nat.zero_lt_of_lt enough))
  refine ⟨steps, ?_, ?_⟩
  · change u.here.rest.length + 1 < steps
    omega
  · rw [scanFrom, going, fetched]
    simp only [bind, Except.bind, fresh, Bool.false_eq_true, if_false]

def settle (s : Scan) : Except TokenFault Scan :=
  (toNextToken (s.here.rest.length + 1) s).withinReach >>= dropStale

theorem fetch_of_settle {s t u : Scan} (settled : s.settle = .ok t)
    (found : (t.unwind t.here.column).fetchHere = .ok u) (readable : u.barrier = none) :
    s.fetch = .ok u := by
  have split : s.fetch = s.settle >>= fun t =>
      (t.unwind t.here.column).fetchHere >>= fun u => u.withinReach := by
    rw [fetch, settle]
    cases (toNextToken (s.here.rest.length + 1) s).withinReach <;> rfl
  rw [split, settled]
  simp [bind, Except.bind, found, withinReach, readable]

theorem leads_of_token {s t u v : Scan} (going : s.done = false) (settled : s.settle = .ok t)
    (level : t.unwind t.here.column = t) (found : t.fetchHere = .ok u) (readable : u.barrier = none)
    (fresh : u.dropStale = .ok v) (shorter : v.here.rest.length < s.here.rest.length) :
    Leads s v.deliver :=
  leads_of_fetch going (fetch_of_settle settled (by rw [level, found]) readable) fresh shorter

section

variable {s : Scan} {rest : List Char}

theorem toNextToken_of_starts (steps : Nat) (solid : ∀ c ∈ s.here.rest.head?, IsSolid c)
    (noComment : s.here.rest.head? ≠ some '#') : toNextToken (steps + 1) s = s := by
  have spaces : s.here.skipSpaces = s.here := by
    rw [Cursor.skipSpaces, Cursor.skipWhile, Cursor.span_of_stop fun c member => by
      simp [(solid c member).ne_space]]
  have comment : s.here.skipComment = s.here := by
    rw [Cursor.skipComment, if_neg]
    intro hash
    apply noComment
    cases text : s.here.rest with
    | nil =>
        rw [Cursor.peek, text] at hash
        exact absurd hash (by decide)
    | cons c more =>
        rw [Cursor.peek_eq text] at hash
        rw [hash]
        rfl
  have noBreak : s.here.lineBreak? = none := by
    cases text : s.here.rest with
    | nil => rw [Cursor.lineBreak?, text]
    | cons c more =>
        exact Cursor.lineBreak?_of_printable text (solid c (by rw [text]; rfl)).printable
  rw [toNextToken, spaces, comment, noBreak]

theorem toNextToken_of_space (steps : Nat) {c : Char} (start : s.here.rest = ' ' :: c :: rest)
    (solid : IsSolid c) (noComment : c ≠ '#') :
    toNextToken (steps + 1) s = { s with here := s.here.past 1 (c :: rest) } := by
  have spaces : s.here.skipSpaces = s.here.past 1 (c :: rest) := by
    rw [Cursor.skipSpaces, Cursor.skipWhile, Cursor.span_of_spaces 1 start (by decide)
      (by simp [solid.ne_space])]
  have comment : (s.here.past 1 (c :: rest)).skipComment = s.here.past 1 (c :: rest) := by
    rw [Cursor.skipComment, Cursor.peek_eq rfl, if_neg noComment]
  rw [toNextToken, spaces, comment, Cursor.lineBreak?_of_printable rfl solid.printable]

theorem toNextToken_of_break (steps : Nat) (start : s.here.rest = '\n' :: rest)
    (block : s.depth = 0) (starts : StartsLine rest) :
    toNextToken (steps + 2) s = { s with here := s.here.below rest, keyAllowed := true } := by
  have spaces : s.here.skipSpaces = s.here := by
    rw [Cursor.skipSpaces, Cursor.skipWhile, Cursor.span_of_stop (by rw [start]; simp)]
  have comment : s.here.skipComment = s.here := by
    rw [Cursor.skipComment, Cursor.peek_eq start, if_neg (by decide)]
  have open' : (s.keyAllowed || !s.inFlow) = true := by simp [inFlow, block]
  rw [toNextToken, spaces, comment, Cursor.lineBreak?_of_break start]
  simp only [open']
  exact toNextToken_of_starts steps starts.solid starts.no_comment

theorem unwind_of_le {column : Int} (shallow : s.indent ≤ column) : s.unwind column = s := by
  rw [unwind]
  split
  · rfl
  · cases s.outer with
    | nil => rfl
    | cons parent outer => rw [unwindFrom, if_neg (Int.not_lt.mpr shallow)]

theorem dropStale_of_none (vacant : s.candidates = []) : s.dropStale = .ok s := by
  obtain ⟨here, depth, given, queue, indent, outer, keyAllowed, candidates, done, barrier⟩ := s
  cases vacant
  rfl

theorem dropStale_of_free (free : ∀ entry ∈ s.candidates, entry.2.required = false) :
    s.dropStale = .ok { s with candidates := s.candidates.filter fun entry =>
      !(entry.2.line ≠ s.here.line || 1024 < s.here.index - entry.2.index) } := by
  have unneeded : (s.candidates.any fun entry =>
      (entry.2.line ≠ s.here.line || 1024 < s.here.index - entry.2.index) && entry.2.required) =
      false := by
    rw [List.any_eq_false]
    intro entry member
    simp [free entry member]
  rw [dropStale, unneeded]
  rfl

theorem dropStale_of_left
    (left : ∀ entry ∈ s.candidates, entry.2.required = false ∧ entry.2.line < s.here.line) :
    s.dropStale = .ok { s with candidates := [] } := by
  rw [dropStale_of_free fun entry member => (left entry member).1, List.filter_eq_nil_iff.mpr]
  intro entry member
  simp [Nat.ne_of_lt (left entry member).2]

theorem dropCandidate_of_none (vacant : s.candidates = []) : s.dropCandidate = .ok s := by
  obtain ⟨here, depth, given, queue, indent, outer, keyAllowed, candidates, done, barrier⟩ := s
  cases vacant
  rfl

theorem withinReach_of_none (readable : s.barrier = none) : s.withinReach = .ok s := by
  rw [withinReach, readable]

/-- Before a sign that is neither a blank nor a comment nothing is skipped. -/
theorem settle_of_starts (readable : s.barrier = none) (solid : ∀ c ∈ s.here.rest.head?, IsSolid c)
    (noComment : s.here.rest.head? ≠ some '#') : s.settle = s.dropStale := by
  rw [settle, toNextToken_of_starts _ solid noComment, withinReach_of_none readable]
  rfl

theorem Between.deliver {opened : Bool} {tokens : List Token} (between : s.Between opened tokens) :
    s.deliver.Between opened tokens where
  depth_eq := between.depth_eq
  indent_eq := between.indent_eq
  outer_eq := between.outer_eq
  done_eq := between.done_eq
  barrier_eq := between.barrier_eq
  tokens_eq := by
    rw [← between.tokens_eq, Scan.deliver]
    simp

/-- Where the scan stands, and what may be a key, does not matter to what it has read. -/
theorem Between.move {opened : Bool} {tokens : List Token} (between : s.Between opened tokens)
    (here : Cursor) (keyAllowed : Bool) (candidates : List (Nat × Candidate)) :
    Scan.Between { s with here, keyAllowed, candidates } opened tokens :=
  ⟨between.depth_eq, between.indent_eq, between.outer_eq, between.done_eq, between.barrier_eq,
    between.tokens_eq⟩

theorem Between.push {opened : Bool} {tokens : List Token} (between : s.Between opened tokens)
    (token : Token) : (s.push token).Between opened (tokens ++ [token]) where
  depth_eq := between.depth_eq
  indent_eq := between.indent_eq
  outer_eq := between.outer_eq
  done_eq := between.done_eq
  barrier_eq := between.barrier_eq
  tokens_eq := by
    rw [← between.tokens_eq, List.append_assoc]
    rfl

theorem Between.unwind_eq {opened : Bool} {tokens : List Token} (between : s.Between opened tokens)
    (column : Nat) : s.unwind column = s := by
  apply unwind_of_le
  rw [between.indent_eq]
  split <;> omega

structure AtStart (s : Scan) (rest : List Char) : Prop where
  rest_eq : s.here.rest = rest
  column_eq : s.here.column = 0
  keyAllowed_eq : s.keyAllowed = true
  vacant : s.candidates = []

structure AtEnd (s : Scan) (rest : List Char) : Prop where
  rest_eq : s.here.rest = '\n' :: rest
  free : ∀ entry ∈ s.candidates, entry.2.required = false ∧ entry.2.line ≤ s.here.line

theorem exists_settle {opened : Bool} {tokens : List Token} (between : s.Between opened tokens)
    (starts : StartsLine rest) (place : s.AtStart rest ∨ s.AtEnd rest) :
    ∃ t, s.settle = .ok t ∧ t.Between opened tokens ∧ t.AtStart rest ∧
      rest.length ≤ s.here.rest.length := by
  rcases place with start | atEnd
  · refine ⟨s, ?_, between, start, Nat.le_of_eq (by rw [start.rest_eq])⟩
    rw [settle_of_starts between.barrier_eq (by rw [start.rest_eq]; exact starts.solid)
      (by rw [start.rest_eq]; exact starts.no_comment)]
    exact dropStale_of_none start.vacant
  · obtain ⟨t, t_eq⟩ : ∃ t, t = { s with here := s.here.below rest, keyAllowed := true } := ⟨_, rfl⟩
    have skipped : toNextToken (s.here.rest.length + 1) s = t := by
      have length : s.here.rest.length = rest.length + 1 := by rw [atEnd.rest_eq, List.length_cons]
      rw [t_eq, length]
      exact toNextToken_of_break _ atEnd.rest_eq between.depth_eq starts
    have free : ∀ entry ∈ t.candidates, entry.2.required = false ∧ entry.2.line < t.here.line := by
      rw [t_eq]
      intro entry member
      exact ⟨(atEnd.free entry member).1, Nat.lt_succ_of_le (atEnd.free entry member).2⟩
    have betweenNext : t.Between opened tokens := by
      rw [t_eq]
      exact between.move _ _ _
    refine ⟨{ t with candidates := [] }, ?_, betweenNext.move _ _ _, ?_, ?_⟩
    · rw [settle, skipped, withinReach_of_none betweenNext.barrier_eq]
      exact dropStale_of_left free
    · rw [t_eq]
      exact ⟨rfl, rfl, rfl, rfl⟩
    · rw [atEnd.rest_eq]
      exact Nat.le_succ _

theorem settle_of_space {opened : Bool} {tokens : List Token} {c : Char}
    (between : s.Between opened tokens) (vacant : s.candidates = [])
    (start : s.here.rest = ' ' :: c :: rest) (solid : IsSolid c) (noComment : c ≠ '#') :
    s.settle = .ok { s with here := s.here.past 1 (c :: rest) } := by
  rw [settle, toNextToken_of_space _ start solid noComment]
  have reached : Scan.withinReach { s with here := s.here.past 1 (c :: rest) } =
      .ok { s with here := s.here.past 1 (c :: rest) } := withinReach_of_none between.barrier_eq
  rw [reached]
  exact dropStale_of_none vacant

/-! ## Tokens that start here -/

theorem fetchHere_of_opens {word : List Char} (block : s.depth = 0)
    (start : s.here.rest = word ++ rest) (opens : OpensPlain word)
    (inside : s.here.column = 0 → word.head? ≠ some '-' ∧ word.head? ≠ some '.') :
    s.fetchHere = s.fetchPlain := by
  obtain ⟨c, more, rfl⟩ := List.exists_cons_of_ne_nil opens.ne_nil
  have solid := opens.solid c List.mem_cons_self
  have first : s.here.peek = c := Cursor.peek_eq start
  have notEnd := solid.printable.ne (by decide : ¬ IsPrintable endMark)
  have other := opens.opens c more rfl
  have signs : ∀ d ∈ "#,[]\x7b\x7d&*!|>'\"%@`".toList, c ≠ d := by
    rintro d member rfl
    rw [startsOther, List.contains_iff_mem.mpr member] at other
    cases other
  -- A sign that opens a collection before a blank is followed by something else here.
  have next (sign : c = '-' ∨ c = '?' ∨ c = ':') : isBlankOrEnd (s.here.peekAt 1) = false := by
    cases more with
    | nil =>
        rcases sign with rfl | rfl | rfl <;> cases other
    | cons d more =>
        rw [Cursor.peekAt, start]
        exact (opens.solid d (by simp)).isBlankOrEnd_eq
  have dashes : (s.here.column = 0 && s.here.atMark ['-', '-', '-']) = false := by
    by_cases column : s.here.column = 0
    · have dash : c ≠ '-' := fun same => (inside column).1 (by rw [same]; rfl)
      simp [Cursor.atMark, start, dash]
    · simp [column]
  have dots : (s.here.column = 0 && s.here.atMark ['.', '.', '.']) = false := by
    by_cases column : s.here.column = 0
    · have dot : c ≠ '.' := fun same => (inside column).2 (by rw [same]; rfl)
      simp [Cursor.atMark, start, dot]
    · simp [column]
  have starts : s.plainStarts = true := by
    rw [plainStarts, first]
    by_cases sign : c = '-' ∨ c = '?' ∨ c = ':'
    · simp [next sign, inFlow, block]
      right
      tauto
    · simp only [not_or] at sign
      simp [solid.isBlankOrEnd_eq, sign] at signs ⊢
      simp [signs]
  simp only [String.reduceToList, List.mem_cons, List.not_mem_nil, or_false, ne_eq,
    forall_eq_or_imp, forall_eq] at signs
  have dash : (c = '-' && isBlankOrEnd (s.here.peekAt 1)) = false := by
    by_cases same : c = '-'
    · rw [next (.inl same), Bool.and_false]
    · simp [same]
  have query : (c = '?' && (s.inFlow || isBlankOrEnd (s.here.peekAt 1))) = false := by
    by_cases same : c = '?'
    · rw [next (.inr (.inl same))]
      simp [inFlow, block]
    · simp [same]
  have colon : (c = ':' && (s.inFlow || isBlankOrEnd (s.here.peekAt 1))) = false := by
    by_cases same : c = ':'
    · rw [next (.inr (.inr same))]
      simp [inFlow, block]
    · simp [same]
  rw [fetchHere, first]
  simp only [notEnd, dashes, dots, dash, query, colon, starts, signs, decide_false, Bool.false_and,
    Bool.false_eq_true, if_false, if_true]

theorem fetchHere_of_quote (start : s.here.rest = '\'' :: rest) :
    s.fetchHere = s.fetchQuoted false := by
  rw [fetchHere, Cursor.peek_eq start]
  simp [endMark, Cursor.atMark, start]

theorem fetchHere_of_colon {c : Char} (start : s.here.rest = ':' :: c :: rest)
    (blank : isBlankOrEnd c = true) : s.fetchHere = s.fetchValue := by
  have next : s.here.peekAt 1 = c := by
    rw [Cursor.peekAt, start]
    rfl
  rw [fetchHere, Cursor.peek_eq start, next, blank]
  simp [endMark, Cursor.atMark, start]

theorem fetchHere_of_dash (start : s.here.rest = '-' :: ' ' :: rest) :
    s.fetchHere = s.fetchBlockEntry := by
  have next : s.here.peekAt 1 = ' ' := by
    rw [Cursor.peekAt, start]
    rfl
  rw [fetchHere, Cursor.peek_eq start, next]
  simp [endMark, Cursor.atMark, start, isBlankOrEnd, isSpaceOrEnd]

theorem fetchHere_of_bracket (start : s.here.rest = '[' :: rest) :
    s.fetchHere = s.fetchFlowStart .flowSequenceStart := by
  rw [fetchHere, Cursor.peek_eq start]
  simp [endMark, Cursor.atMark, start]

theorem fetchHere_of_closing (start : s.here.rest = ']' :: rest) :
    s.fetchHere = s.fetchFlowEnd .flowSequenceEnd := by
  rw [fetchHere, Cursor.peek_eq start]
  simp [endMark, Cursor.atMark, start]

theorem fetchHere_of_end (start : s.here.rest = []) : s.fetchHere = s.fetchStreamEnd := by
  have first : s.here.peek = endMark := by
    rw [Cursor.peek, start]
    rfl
  rw [fetchHere, first, if_pos rfl]

theorem saveCandidate_of_closed (closed : s.keyAllowed = false) : s.saveCandidate = .ok s := by
  rw [saveCandidate, closed]
  rfl

def candidateHere (s : Scan) : Candidate :=
  ⟨s.nextNumber, !s.inFlow && s.indent = (s.here.column : Int), s.here.index, s.here.line,
    s.here.column⟩

theorem saveCandidate_of_allowed (allowed : s.keyAllowed = true) (vacant : s.candidates = []) :
    s.saveCandidate = .ok { s with candidates := [(s.depth, s.candidateHere)] } := by
  rw [saveCandidate, if_pos allowed, dropCandidate_of_none vacant]
  simp [bind, Except.bind, pure, Except.pure, vacant, candidateHere]

/-- Where no key is required, a candidate is one that can be dropped. -/
theorem exists_saveCandidate (vacant : s.candidates = []) (deeper : s.indent < s.here.column) :
    ∃ candidates, s.saveCandidate = .ok { s with candidates } ∧
      ∀ entry ∈ candidates, entry.2.required = false ∧ entry.2.line ≤ s.here.line := by
  by_cases allowed : s.keyAllowed = true
  · refine ⟨_, saveCandidate_of_allowed allowed vacant, ?_⟩
    intro entry member
    rw [List.mem_singleton.mp member]
    exact ⟨by simp [candidateHere, Int.ne_of_lt deeper], Nat.le_refl _⟩
  · refine ⟨[], ?_, by simp⟩
    rw [saveCandidate_of_closed (Bool.eq_false_iff.mpr allowed), ← vacant]

theorem dropStale_of_current {entry : Nat × Candidate} (only : s.candidates = [entry])
    (line : entry.2.line = s.here.line) (near : s.here.index ≤ entry.2.index + 1024) :
    s.dropStale = .ok s := by
  obtain ⟨here, depth, given, queue, indent, outer, keyAllowed, candidates, done, barrier⟩ := s
  cases only
  have close : ¬ 1024 < here.index - entry.2.index := by
    simp only at near
    omega
  simp [dropStale, line, close]

/-- A candidate that waits alone keeps its token and gives out those before it. -/
theorem deliver_of_candidate {entry : Nat × Candidate} {before : List Token} {token : Token}
    (only : s.candidates = [entry]) (queue_eq : s.queue = before ++ [token])
    (number : entry.2.number = s.given.length + before.length) :
    s.deliver = { s with given := before.reverse ++ s.given, queue := [token] } := by
  obtain ⟨here, depth, given, queue, indent, outer, keyAllowed, candidates, done, barrier⟩ := s
  cases only
  cases queue_eq
  simp [Scan.deliver, nextNumber, number]

end

end Scan

end WarningSweep.Yaml
