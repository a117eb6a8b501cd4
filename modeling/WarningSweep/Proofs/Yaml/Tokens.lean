import WarningSweep.Proofs.Yaml.Scan

/-!
# Tokens of a block mapping

A document of lines, each with a key and its value or with an item of a sequence, is read token by
token.  A key is known as such only at its colon; an item could be a key as well, until its line
ends.
-/

namespace WarningSweep.Yaml

/-! ## Lines -/

structure IsKey (key : List Char) : Prop where
  ne_nil : key ≠ []
  letters : ∀ c ∈ key, c.isLower = true ∨ c = '_'
  short : key.length ≤ 100

theorem isSolid_of_letter {c : Char} (letter : c.isLower = true ∨ c = '_') : IsSolid c := by
  rcases letter with lower | rfl
  · have bounds : (c.val ≥ 'a'.val && c.val ≤ 'z'.val) = true := lower
    simp only [Bool.and_eq_true, decide_eq_true_eq] at bounds
    have least : 97 ≤ c.toNat := bounds.1
    have most : c.toNat ≤ 122 := bounds.2
    refine ⟨⟨by omega, by omega⟩, ?_⟩
    rintro rfl
    exact absurd least (by decide)
  · exact ⟨by decide, by decide⟩

theorem ne_of_letter {c d : Char} (letter : c.isLower = true ∨ c = '_')
    (other : ¬ (d.isLower = true ∨ d = '_')) : c ≠ d := by
  rintro rfl
  exact other letter

theorem IsKey.opensPlain {key : List Char} (isKey : IsKey key) : OpensPlain key where
  ne_nil := isKey.ne_nil
  solid := fun c member => isSolid_of_letter (isKey.letters c member)
  no_colon := fun last =>
    ne_of_letter (isKey.letters ':' (List.mem_of_getLast? last)) (by decide) rfl
  opens := by
    rintro c more rfl
    have letter := isKey.letters c List.mem_cons_self
    have apart : ∀ d ∈ "#,[]\x7b\x7d&*!|>'\"%@`?:-".toList, c ≠ d := fun d member =>
      ne_of_letter letter (by revert d; decide +kernel)
    simp [startsOther] at apart ⊢
    simp [apart]

/-- What follows the colon of a key, with the end of its line, and its tokens. -/
inductive ValueLine : List Char → List Token → Prop
  | scalar {text written : List Char} {plain : Bool} : ScalarForm text plain written →
      ValueLine (' ' :: (written ++ ['\n'])) [.scalar (String.ofList text) plain]
  | empty : ValueLine [' ', '[', ']', '\n'] [.flowSequenceStart, .flowSequenceEnd]
  /-- The value is a sequence, whose items follow on lines of their own. -/
  | heading : ValueLine ['\n'] []

inductive Lines : List Char → List Token → Prop
  | nil : Lines [] []
  | entry {key line rest : List Char} {value tokens : List Token} : IsKey key →
      ValueLine line value → Lines rest tokens →
      Lines (key ++ ':' :: (line ++ rest))
        (.key :: .scalar (String.ofList key) true :: .value :: (value ++ tokens))
  | item {text written rest : List Char} {plain : Bool} {tokens : List Token} :
      ScalarForm text plain written → Lines rest tokens →
      Lines ('-' :: ' ' :: (written ++ '\n' :: rest))
        (.blockEntry :: .scalar (String.ofList text) plain :: tokens)

theorem startsLine_of_key {key rest : List Char} (isKey : IsKey key) :
    StartsLine (key ++ rest) := by
  obtain ⟨c, more, rfl⟩ := List.exists_cons_of_ne_nil isKey.ne_nil
  have letter := isKey.letters c List.mem_cons_self
  refine ⟨?_, ?_, ?_, ?_⟩
  · rintro _ ⟨⟩
    exact isSolid_of_letter letter
  · rintro ⟨⟩
    exact absurd letter (by decide)
  · intro same
    exact ne_of_letter letter (by decide) (List.cons.inj same).1
  · intro same
    exact ne_of_letter letter (by decide) (List.cons.inj same).1

theorem startsLine_of_item (rest : List Char) : StartsLine ('-' :: ' ' :: rest) := by
  refine ⟨?_, by simp, by simp, by simp⟩
  rintro _ ⟨⟩
  exact ⟨by decide, by decide⟩

theorem Lines.startsLine {rest : List Char} {tokens : List Token} (lines : Lines rest tokens) :
    StartsLine rest := by
  cases lines with
  | nil => exact ⟨by simp, by simp, by simp, by simp⟩
  | entry isKey _ _ => exact startsLine_of_key isKey
  | item _ _ => exact startsLine_of_item _

theorem ScalarForm.startsLine {text written : List Char} {plain : Bool}
    (form : ScalarForm text plain written) (rest : List Char) :
    ∃ c more, written ++ rest = c :: more ∧ IsSolid c ∧ c ≠ '#' := by
  cases form with
  | plain form =>
      obtain ⟨opens, -⟩ := form
      rename_i word _ _
      obtain ⟨c, more, rfl⟩ := List.exists_cons_of_ne_nil opens.ne_nil
      refine ⟨c, _, rfl, opens.solid c List.mem_cons_self, ?_⟩
      rintro rfl
      cases opens.opens '#' more rfl
  | quoted form => exact ⟨_, _, rfl, ⟨by decide, by decide⟩, by decide⟩

namespace Scan

section

variable {s : Scan} {rest : List Char}

/-! ## Keys -/

theorem plainScalar_of_key {here : Cursor} {key : List Char} {c : Char} {indent : Int}
    (isKey : IsKey key)
    (start : here.rest = key ++ ':' :: c :: rest) (blank : isBlankOrEnd c = true) :
    plainScalar false indent here =
      ⟨key, false, here.past key.length (':' :: c :: rest)⟩ := by
  have opens := isKey.opensPlain
  have noHash : key.head? ≠ some '#' := by
    intro hash
    exact ne_of_letter (isKey.letters '#' (List.mem_of_mem_head? hash)) (by decide) rfl
  exact plainFrom_last opens.toIsWord noHash start (by
    rintro _ _ ⟨⟩
    simp [plainStopsAt, blank]) (plainGap_of_solid rfl ⟨by decide, by decide⟩) (.inl rfl)

/-- The colon makes a key of the candidate that waits, and a block mapping if none is open. -/
theorem fetchValue_of_candidate {opened : Bool} {tokens : List Token} {candidate : Candidate}
    {token : Token} {c : Char} (between : s.Between opened tokens)
    (only : s.candidates = [(0, candidate)]) (column : candidate.column = 0)
    (number : candidate.number = s.given.length) (queue_eq : s.queue = [token])
    (start : s.here.rest = c :: rest) (printable : IsPrintable c) :
    s.fetchValue = .ok { s with
      here := s.here.past 1 rest
      queue := (if opened then [] else [.blockMappingStart]) ++ [.key, token, .value]
      indent := 0
      outer := [-1]
      keyAllowed := false
      candidates := [] } := by
  have next := Cursor.next_of_printable start printable
  obtain ⟨here, depth, given, queue, indent, outer, keyAllowed, candidates, done, barrier⟩ := s
  obtain ⟨depth_eq, indent_eq, outer_eq, done_eq, barrier_eq, tokens_eq⟩ := between
  dsimp only at depth_eq indent_eq outer_eq only queue_eq number next
  subst depth_eq indent_eq outer_eq only queue_eq
  cases opened <;> simp [fetchValue, inFlow, openBlock, column, number, insertAt, emit, next]

/-- A scan at the colon of a key, which still waits. -/
structure AtColon (s : Scan) (key rest : List Char) : Prop where
  rest_eq : s.here.rest = ':' :: rest
  queue_eq : s.queue = [.scalar (String.ofList key) true]
  waits : ∃ candidate, s.candidates = [(0, candidate)] ∧ candidate.column = 0 ∧
    candidate.number = s.given.length ∧ candidate.line = s.here.line ∧
    s.here.index ≤ candidate.index + 1024

theorem leads_of_word {t : Scan} {opened : Bool} {tokens : List Token} {key : List Char} {c : Char}
    (settled : s.settle = .ok t) (going : s.done = false)
    (within : t.here.rest.length ≤ s.here.rest.length) (between : t.Between opened tokens)
    (isKey : IsKey key) (atStart : t.AtStart (key ++ ':' :: c :: rest))
    (blank : isBlankOrEnd c = true) :
    ∃ u, Leads s u ∧ u.Between opened (tokens ++ [.scalar (String.ofList key) true]) ∧
      u.AtColon key (c :: rest) := by
  obtain ⟨start, column, allowed, vacant⟩ := atStart
  have positive := List.length_pos_iff.mpr isKey.ne_nil
  have short := isKey.short
  obtain ⟨waiting, waiting_eq⟩ : ∃ waiting : Scan, waiting =
      Scan.push
        { t with
          here := t.here.past key.length (':' :: c :: rest)
          keyAllowed := false
          candidates := [(0, t.candidateHere)] }
        (.scalar (String.ofList key) true) := ⟨_, rfl⟩
  have betweenWaiting : waiting.Between opened (tokens ++ [.scalar (String.ofList key) true]) := by
    rw [waiting_eq]
    exact (between.move _ _ _).push _
  have found : t.fetchHere = .ok waiting := by
    have marks : t.here.column = 0 → key.head? ≠ some '-' ∧ key.head? ≠ some '.' := fun _ =>
      ⟨fun dash => ne_of_letter (isKey.letters _ (List.mem_of_mem_head? dash)) (by decide) rfl,
        fun dot => ne_of_letter (isKey.letters _ (List.mem_of_mem_head? dot)) (by decide) rfl⟩
    have flow : Scan.inFlow { t with candidates := [(t.depth, t.candidateHere)] } = false := by
      simp [inFlow, between.depth_eq]
    rw [fetchHere_of_opens between.depth_eq start isKey.opensPlain marks, fetchPlain,
      saveCandidate_of_allowed allowed vacant]
    simp only [bind, Except.bind, pure, Except.pure]
    rw [flow, plainScalar_of_key isKey start blank, waiting_eq, between.depth_eq]
    rfl
  have current : waiting.dropStale = .ok waiting := by
    rw [waiting_eq]
    refine dropStale_of_current rfl rfl ?_
    simp only [candidateHere, Cursor.past, push]
    omega
  have delivered : waiting.deliver =
      { waiting with
        given := t.queue.reverse ++ t.given
        queue := [.scalar (String.ofList key) true] } := by
    rw [waiting_eq]
    exact deliver_of_candidate rfl rfl rfl
  refine ⟨waiting.deliver, leads_of_token going settled (between.unwind_eq _) found
    betweenWaiting.barrier_eq current ?_, betweenWaiting.deliver, ?_⟩
  · rw [start] at within
    rw [waiting_eq]
    simp only [push, Cursor.rest_past, List.length_append, List.length_cons] at within ⊢
    omega
  · rw [delivered, waiting_eq]
    refine ⟨rfl, rfl, t.candidateHere, rfl, column, ?_, rfl, ?_⟩
    · simp [candidateHere, nextNumber, Nat.add_comm]
    · simp only [candidateHere, Cursor.past, push]
      omega

theorem leads_of_colon {opened : Bool} {tokens : List Token} {key : List Char} {c : Char}
    (between : s.Between opened (tokens ++ [.scalar (String.ofList key) true]))
    (atColon : s.AtColon key (c :: rest)) (blank : isBlankOrEnd c = true) :
    ∃ u, Leads s u ∧
      u.Between true (tokens ++ (if opened then [] else [.blockMappingStart]) ++
        [.key, .scalar (String.ofList key) true, .value]) ∧
      u.here.rest = c :: rest ∧ u.keyAllowed = false ∧ u.candidates = [] := by
  obtain ⟨start, queue_eq, candidate, only, column, number, line, near⟩ := atColon
  have settled : s.settle = .ok s := by
    rw [settle_of_starts between.barrier_eq
      (by rw [start]; rintro _ ⟨⟩; exact ⟨by decide, by decide⟩) (by rw [start]; simp)]
    exact dropStale_of_current only line near
  obtain ⟨valued, valued_eq⟩ : ∃ valued : Scan, valued =
      { s with
        here := s.here.past 1 (c :: rest)
        queue := (if opened then [] else [.blockMappingStart]) ++
          [.key, .scalar (String.ofList key) true, .value]
        indent := 0
        outer := [-1]
        keyAllowed := false
        candidates := [] } := ⟨_, rfl⟩
  have found : s.fetchHere = .ok valued := by
    rw [fetchHere_of_colon start blank, valued_eq]
    exact fetchValue_of_candidate between only column number queue_eq start (by decide)
  have given_eq : s.given.reverse = tokens := by
    have tokens_eq := between.tokens_eq
    rw [queue_eq] at tokens_eq
    exact List.append_cancel_right tokens_eq
  have betweenValued : valued.Between true
      (tokens ++ (if opened then [] else [.blockMappingStart]) ++
      [.key, .scalar (String.ofList key) true, .value]) := by
    rw [valued_eq]
    refine ⟨between.depth_eq, rfl, rfl, between.done_eq, between.barrier_eq, ?_⟩
    rw [given_eq, List.append_assoc]
  refine ⟨valued.deliver, leads_of_token between.done_eq settled (between.unwind_eq _) found
    betweenValued.barrier_eq (dropStale_of_none (by rw [valued_eq])) ?_,
      betweenValued.deliver, ?_, ?_,
    ?_⟩
  · rw [valued_eq, start]
    exact Nat.lt_succ_self _
  · rw [valued_eq]
    rfl
  · rw [valued_eq]
    rfl
  · rw [valued_eq]
    rfl

/-! ## Values and items -/

theorem exists_fetchHere_plain {tokens : List Token} {text written : List Char}
    (between : s.Between true tokens) (vacant : s.candidates = []) (deeper : 0 < s.here.column)
    (form : PlainForm text written) (start : s.here.rest = written ++ '\n' :: rest)
    (starts : StartsLine rest) :
    ∃ t u, s.fetchHere = .ok t ∧ t.dropStale = .ok u ∧ t.barrier = none ∧
      u.Between true (tokens ++ [.scalar (String.ofList text) true]) ∧ u.AtStart rest := by
  obtain ⟨opens, tailForm⟩ := form
  rename_i word tail written
  have noHash : word.head? ≠ some '#' := by
    intro hash
    obtain ⟨more, rfl⟩ := List.head?_eq_some_iff.mp hash
    cases opens.opens '#' more rfl
  have level : s.indent = 0 := between.indent_eq
  obtain ⟨candidates, saved, free⟩ := exists_saveCandidate vacant (by omega)
  rw [List.append_assoc] at start
  obtain ⟨after, read, rest_eq, column_eq, later⟩ := @plainFrom_of_tail tail written tailForm word
    rest [] opens.toIsWord noHash starts s.here false (s.here.rest.length + 1) start
    (by rw [start]; simp; omega)
  obtain ⟨t, t_eq⟩ : ∃ t : Scan, t =
      Scan.push { s with here := after, keyAllowed := true, candidates }
        (.scalar (String.ofList (word ++ tail)) true) := ⟨_, rfl⟩
  have betweenAfter : t.Between true (tokens ++ [.scalar (String.ofList (word ++ tail)) true]) := by
    rw [t_eq]
    exact (between.move _ _ _).push _
  refine ⟨t, { t with candidates := [] }, ?_, ?_, betweenAfter.barrier_eq,
    betweenAfter.move _ _ _, ?_⟩
  · have flow : Scan.inFlow { s with candidates } = false := by simp [inFlow, between.depth_eq]
    rw [fetchHere_of_opens between.depth_eq start opens fun first => by omega, fetchPlain, saved]
    simp only [bind, Except.bind, pure, Except.pure]
    rw [flow, plainScalar, (by omega : s.indent + 1 = 1), read, t_eq]
    rfl
  · apply dropStale_of_left
    rw [t_eq]
    intro entry member
    exact ⟨(free entry member).1, Nat.lt_of_le_of_lt (free entry member).2 later⟩
  · rw [t_eq]
    exact ⟨rest_eq, column_eq, rfl, rfl⟩

theorem exists_fetchHere_quoted {tokens : List Token} {text written : List Char}
    (between : s.Between true tokens) (vacant : s.candidates = []) (deeper : 0 < s.here.column)
    (form : QuotedForm text written)
    (start : s.here.rest = '\'' :: (written ++ '\'' :: '\n' :: rest)) :
    ∃ t u, s.fetchHere = .ok t ∧ t.dropStale = .ok u ∧ t.barrier = none ∧
      u.Between true (tokens ++ [.scalar (String.ofList text) false]) ∧ u.AtEnd rest := by
  have level : s.indent = 0 := between.indent_eq
  obtain ⟨candidates, saved, free⟩ := exists_saveCandidate vacant (by omega)
  have next := Cursor.next_of_printable start (by decide)
  obtain ⟨after, read, rest_eq, line_le⟩ := @quotedFrom_of_form text written form
    (s.here.past 1 (written ++ '\'' :: '\n' :: rest)) ('\n' :: rest)
    ((written ++ '\'' :: '\n' :: rest).length + 1) rfl (by simp)
    (by simp only [List.length_append, List.length_cons]; omega)
  obtain ⟨t, t_eq⟩ : ∃ t : Scan, t =
      Scan.push { s with here := after, keyAllowed := false, candidates }
        (.scalar (String.ofList text) false) := ⟨_, rfl⟩
  have betweenAfter : t.Between true (tokens ++ [.scalar (String.ofList text) false]) := by
    rw [t_eq]
    exact (between.move _ _ _).push _
  have freeAfter : ∀ entry ∈ t.candidates, entry.2.required = false ∧
      entry.2.line ≤ t.here.line := by
    rw [t_eq]
    intro entry member
    exact ⟨(free entry member).1, Nat.le_trans (free entry member).2 line_le⟩
  refine ⟨t, _, ?_, dropStale_of_free fun entry member => (freeAfter entry member).1,
    betweenAfter.barrier_eq, betweenAfter.move _ _ _, ?_, ?_⟩
  · rw [fetchHere_of_quote start, fetchQuoted, saved]
    simp only [bind, Except.bind, pure, Except.pure]
    rw [next, quotedScalar, Cursor.rest_past, read, t_eq]
    rfl
  · rw [t_eq]
    exact rest_eq
  · intro entry member
    exact freeAfter entry (List.mem_of_mem_filter member)

theorem leads_of_scalar {tokens : List Token} {text written : List Char} {plain : Bool}
    (between : s.Between true tokens) (vacant : s.candidates = [])
    (form : ScalarForm text plain written) (start : s.here.rest = ' ' :: (written ++ '\n' :: rest))
    (starts : StartsLine rest) :
    ∃ u, Leads s u ∧ u.Between true (tokens ++ [.scalar (String.ofList text) plain]) ∧
      (u.AtStart rest ∨ u.AtEnd rest) := by
  obtain ⟨c, more, ahead, solid, noComment⟩ := form.startsLine ('\n' :: rest)
  obtain ⟨t, t_eq⟩ : ∃ t, t = { s with here := s.here.past 1 (written ++ '\n' :: rest) } := ⟨_, rfl⟩
  have settled : s.settle = .ok t := by
    rw [ahead] at start t_eq
    rw [t_eq]
    exact settle_of_space between vacant start solid noComment
  have betweenHere : t.Between true tokens := by
    rw [t_eq]
    exact between.move _ _ _
  have vacantHere : t.candidates = [] := by rw [t_eq]; exact vacant
  have here_eq : t.here.rest = written ++ '\n' :: rest := by rw [t_eq, Cursor.rest_past]
  have deeper : 0 < t.here.column := by rw [t_eq]; exact Nat.succ_pos _
  have leads {u v : Scan} (found : t.fetchHere = .ok u) (dropped : u.dropStale = .ok v)
      (readable : u.barrier = none) (place : v.AtStart rest ∨ v.AtEnd rest) :
        Leads s v.deliver := by
    refine leads_of_token between.done_eq settled (betweenHere.unwind_eq _) found
      readable dropped ?_
    rw [start]
    rcases place with atStart | atEnd
    · rw [atStart.rest_eq]
      simp only [List.length_append, List.length_cons]
      omega
    · rw [atEnd.rest_eq]
      simp only [List.length_append, List.length_cons]
      omega
  cases form with
  | plain form =>
      obtain ⟨u, v, found, dropped, readable, after, place⟩ :=
        exists_fetchHere_plain betweenHere vacantHere deeper form here_eq starts
      exact ⟨v.deliver, leads found dropped readable (.inl place), after.deliver,
        .inl ⟨place.rest_eq, place.column_eq, place.keyAllowed_eq, place.vacant⟩⟩
  | quoted form =>
      rw [List.cons_append, List.append_assoc] at here_eq
      obtain ⟨u, v, found, dropped, readable, after, place⟩ :=
        exists_fetchHere_quoted betweenHere vacantHere deeper form here_eq
      exact ⟨v.deliver, leads found dropped readable (.inr place), after.deliver,
        .inr ⟨place.rest_eq, place.free⟩⟩

structure InBrackets (s : Scan) (tokens : List Token) (rest : List Char) : Prop where
  between : Between { s with depth := 0 } true tokens
  depth_eq : s.depth = 1
  vacant : s.candidates = []
  rest_eq : s.here.rest = ']' :: rest

theorem leads_of_bracket {tokens : List Token} (between : s.Between true tokens)
    (vacant : s.candidates = []) (closed : s.keyAllowed = false)
    (start : s.here.rest = ' ' :: '[' :: ']' :: rest) :
    ∃ u, Leads s u ∧ u.InBrackets (tokens ++ [.flowSequenceStart]) rest := by
  obtain ⟨t, t_eq⟩ : ∃ t, t = { s with here := s.here.past 1 ('[' :: ']' :: rest) } := ⟨_, rfl⟩
  have settled : s.settle = .ok t := by
    rw [t_eq]
    exact settle_of_space between vacant start ⟨by decide, by decide⟩ (by decide)
  have betweenHere : t.Between true tokens := by
    rw [t_eq]
    exact between.move _ _ _
  have here_eq : t.here.rest = '[' :: ']' :: rest := by rw [t_eq, Cursor.rest_past]
  obtain ⟨inner, inner_eq⟩ : ∃ inner : Scan, inner =
      { t.push .flowSequenceStart with
        here := t.here.past 1 (']' :: rest)
        depth := 1
        keyAllowed := true } := ⟨_, rfl⟩
  have found : t.fetchHere = .ok inner := by
    rw [fetchHere_of_bracket here_eq, fetchFlowStart,
      saveCandidate_of_closed (by rw [t_eq]; exact closed)]
    simp only [bind, Except.bind, pure, Except.pure]
    rw [Cursor.next_of_printable here_eq (by decide), inner_eq, betweenHere.depth_eq]
    rfl
  have innerVacant : inner.candidates = [] := by
    rw [inner_eq, t_eq]
    exact vacant
  refine ⟨inner.deliver, leads_of_token between.done_eq settled (betweenHere.unwind_eq _) found
    (by rw [inner_eq]; exact betweenHere.barrier_eq) (dropStale_of_none innerVacant) ?_, ?_, ?_,
    innerVacant, ?_⟩
  · rw [inner_eq, start]
    exact Nat.lt_of_lt_of_le (Nat.lt_succ_self _) (Nat.le_succ _)
  · rw [inner_eq, ← betweenHere.depth_eq]
    exact ((betweenHere.push _).move _ _ _).deliver
  · rw [inner_eq]
    rfl
  · rw [inner_eq]
    rfl

theorem leads_of_closing {tokens : List Token} (inside : s.InBrackets tokens ('\n' :: rest)) :
    ∃ u, Leads s u ∧ u.Between true (tokens ++ [.flowSequenceEnd]) ∧ u.AtEnd rest := by
  obtain ⟨between, depth_eq, vacant, start⟩ := inside
  have readable : s.barrier = none := between.barrier_eq
  have settled : s.settle = .ok s := by
    rw [settle_of_starts readable (by rw [start]; rintro _ ⟨⟩; exact ⟨by decide, by decide⟩)
      (by rw [start]; simp)]
    exact dropStale_of_none vacant
  have unwound : s.unwind s.here.column = s := by
    rw [unwind, inFlow, depth_eq]
    rfl
  obtain ⟨outside, outside_eq⟩ : ∃ outside : Scan, outside =
      { s.push .flowSequenceEnd with
        here := s.here.past 1 ('\n' :: rest)
        depth := 0
        keyAllowed := false } := ⟨_, rfl⟩
  have betweenOutside : outside.Between true (tokens ++ [.flowSequenceEnd]) := by
    rw [outside_eq]
    exact (between.push .flowSequenceEnd).move (s.here.past 1 ('\n' :: rest)) false s.candidates
  have found : s.fetchHere = .ok outside := by
    rw [fetchHere_of_closing start, fetchFlowEnd, dropCandidate_of_none vacant]
    simp only [bind, Except.bind, pure, Except.pure]
    rw [Cursor.next_of_printable start (by decide), outside_eq, depth_eq]
    rfl
  have outsideVacant : outside.candidates = [] := by rw [outside_eq]; exact vacant
  refine ⟨outside.deliver, leads_of_token between.done_eq settled unwound found
    betweenOutside.barrier_eq (dropStale_of_none outsideVacant) ?_, betweenOutside.deliver, ?_, ?_⟩
  · rw [outside_eq, start]
    exact Nat.lt_succ_self _
  · rw [outside_eq]
    rfl
  · intro entry member
    change entry ∈ outside.candidates at member
    rw [outsideVacant] at member
    cases member

theorem leads_of_value {tokens value : List Token} {line : List Char}
    (between : s.Between true tokens)
    (vacant : s.candidates = []) (closed : s.keyAllowed = false) (valueLine : ValueLine line value)
    (start : s.here.rest = line ++ rest) (starts : StartsLine rest) :
    ∃ u, Leads s u ∧ u.Between true (tokens ++ value) ∧ (u.AtStart rest ∨ u.AtEnd rest) := by
  cases valueLine with
  | scalar form =>
      refine leads_of_scalar between vacant form ?_ starts
      rw [start]
      simp
  | empty =>
      obtain ⟨u, toBracket, inside⟩ := leads_of_bracket between vacant closed start
      obtain ⟨v, toEnd, after, place⟩ := leads_of_closing inside
      rw [List.append_assoc] at after
      exact ⟨v, toBracket.trans toEnd, after, .inr place⟩
  | heading =>
      refine ⟨s, .refl s, by simpa using between, .inr ⟨start, ?_⟩⟩
      rw [vacant]
      simp

/-- A line with a key and its value, after which a block mapping is open. -/
theorem leads_of_entry {opened : Bool} {tokens value : List Token} {key line : List Char}
    (between : s.Between opened tokens) (isKey : IsKey key) (valueLine : ValueLine line value)
    (starts : StartsLine rest)
    (place : s.AtStart (key ++ ':' :: (line ++ rest)) ∨ s.AtEnd (key ++ ':' :: (line ++ rest))) :
    ∃ u, Leads s u ∧
      u.Between true (tokens ++ (if opened then [] else [.blockMappingStart]) ++
        .key :: .scalar (String.ofList key) true :: .value :: value) ∧
      (u.AtStart rest ∨ u.AtEnd rest) := by
  obtain ⟨c, more, line_eq, blank⟩ : ∃ c more, line = c :: more ∧ isBlankOrEnd c = true := by
    cases valueLine with
    | scalar _ => exact ⟨_, _, rfl, by decide⟩
    | empty => exact ⟨_, _, rfl, by decide⟩
    | heading => exact ⟨_, _, rfl, by decide⟩
  obtain ⟨t, settled, betweenHere, atStart, within⟩ :=
    exists_settle between (startsLine_of_key isKey) place
  rw [← atStart.rest_eq] at within
  rw [line_eq, List.cons_append] at atStart
  obtain ⟨u, toColon, betweenColon, atColon⟩ :=
    leads_of_word settled between.done_eq within betweenHere isKey atStart blank
  obtain ⟨v, toValue, betweenValue, rest_eq, closed, vacant⟩ :=
    leads_of_colon betweenColon atColon blank
  rw [← List.cons_append, ← line_eq] at rest_eq
  obtain ⟨w, toNext, after, placeNext⟩ :=
    leads_of_value betweenValue vacant closed valueLine rest_eq starts
  refine ⟨w, (toColon.trans toValue).trans toNext, ?_, placeNext⟩
  rw [List.append_assoc] at after
  exact after

theorem leads_of_item {tokens : List Token} {text written : List Char} {plain : Bool}
    (between : s.Between true tokens) (form : ScalarForm text plain written)
    (starts : StartsLine rest)
    (place : s.AtStart ('-' :: ' ' :: (written ++ '\n' :: rest)) ∨
      s.AtEnd ('-' :: ' ' :: (written ++ '\n' :: rest))) :
    ∃ u, Leads s u ∧ u.Between true (tokens ++ [.blockEntry, .scalar (String.ofList text) plain]) ∧
      (u.AtStart rest ∨ u.AtEnd rest) := by
  obtain ⟨t, settled, betweenHere, atStart, within⟩ :=
    exists_settle between (startsLine_of_item _) place
  obtain ⟨dashed, dashed_eq⟩ : ∃ dashed : Scan, dashed =
      Scan.push
        { t with here := t.here.past 1 (' ' :: (written ++ '\n' :: rest)), keyAllowed := true }
        .blockEntry := ⟨_, rfl⟩
  have betweenDashed : dashed.Between true (tokens ++ [.blockEntry]) := by
    rw [dashed_eq]
    exact (betweenHere.move _ _ _).push _
  have vacant : dashed.candidates = [] := by
    rw [dashed_eq]
    exact atStart.vacant
  have found : t.fetchHere = .ok dashed := by
    have level : t.indent = 0 := betweenHere.indent_eq
    have noBlock : t.openBlockHere .blockSequenceStart = t := by
      rw [openBlockHere, openBlock, level, atStart.column_eq]
      rfl
    have flow : t.inFlow = false := by simp [inFlow, betweenHere.depth_eq]
    rw [fetchHere_of_dash atStart.rest_eq, fetchBlockEntry]
    simp only [flow, atStart.keyAllowed_eq, noBlock, bind, Except.bind,
      dropCandidate_of_none atStart.vacant, Cursor.next_of_printable atStart.rest_eq (by decide),
      Bool.not_true, Bool.and_false, Bool.false_eq_true, if_false]
    rw [dashed_eq]
    rfl
  obtain ⟨u, toNext, after, placeNext⟩ := leads_of_scalar betweenDashed.deliver vacant form
    (by rw [dashed_eq]; rfl) starts
  refine ⟨u, (leads_of_token between.done_eq settled (betweenHere.unwind_eq _) found
    betweenDashed.barrier_eq (dropStale_of_none vacant) ?_).trans toNext, ?_, placeNext⟩
  · rw [dashed_eq]
    exact Nat.lt_of_lt_of_le (Nat.lt_succ_self _) within
  · rw [List.append_assoc] at after
    exact after

/-! ## The whole document -/

theorem scanFrom_of_end {tokens : List Token} {steps : Nat} (between : s.Between true tokens)
    (place : s.AtStart [] ∨ s.AtEnd []) (enough : 1 < steps) :
    scanFrom steps s = ⟨tokens ++ [.blockEnd, .streamEnd], none⟩ := by
  obtain ⟨steps, rfl⟩ : ∃ fewer, steps = fewer + 2 := ⟨steps - 2, by omega⟩
  obtain ⟨t, settled, betweenHere, atStart, -⟩ :=
    exists_settle between ⟨by simp, by simp, by simp, by simp⟩ place
  have level : t.indent = 0 := betweenHere.indent_eq
  obtain ⟨last, last_eq⟩ : ∃ last : Scan, last =
      { (t.push .blockEnd).push .streamEnd with
        indent := -1, outer := [], keyAllowed := false, candidates := [], done := true } := ⟨_, rfl⟩
  have fetched : s.fetch = .ok last := by
    apply fetch_of_settle settled
    · have unwound : t.unwind (-1) = { t.push .blockEnd with indent := -1, outer := [] } := by
        rw [unwind, inFlow, betweenHere.depth_eq, betweenHere.outer_eq]
        simp only [if_true, unwindFrom, level]
        rfl
      have kept : Scan.dropCandidate { t.push .blockEnd with indent := -1, outer := [] } =
          .ok { t.push .blockEnd with indent := -1, outer := [] } :=
        dropCandidate_of_none atStart.vacant
      rw [betweenHere.unwind_eq, fetchHere_of_end atStart.rest_eq, fetchStreamEnd, unwound,
        kept, last_eq]
      rfl
    · rw [last_eq]
      exact betweenHere.barrier_eq
  have dropped : last.dropStale = .ok last := dropStale_of_none (by rw [last_eq])
  rw [scanFrom, between.done_eq, fetched]
  simp only [bind, Except.bind, dropped, Bool.false_eq_true, if_false]
  have finished : last.deliver.done = true := by rw [last_eq]; rfl
  have given_eq : last.deliver.given.reverse = tokens ++ [.blockEnd, .streamEnd] := by
    rw [last_eq, Scan.deliver, ← betweenHere.tokens_eq]
    simp [nextNumber, push]
  rw [scanFrom, finished, given_eq]
  rfl

theorem scanFrom_of_lines {tokens more : List Token} {steps : Nat} (lines : Lines rest more)
    (between : s.Between true tokens) (place : s.AtStart rest ∨ s.AtEnd rest)
    (enough : s.here.rest.length + 1 < steps) :
    scanFrom steps s = ⟨tokens ++ more ++ [.blockEnd, .streamEnd], none⟩ := by
  induction lines generalizing s tokens steps with
  | nil =>
      rw [List.append_nil]
      exact scanFrom_of_end between place (by omega)
  | entry isKey valueLine later inductionHypothesis =>
      obtain ⟨u, leads, after, placeNext⟩ :=
        leads_of_entry between isKey valueLine later.startsLine place
      obtain ⟨fewer, enoughNext, same⟩ := leads steps enough
      rw [same, inductionHypothesis after placeNext enoughNext]
      simp
  | item form later inductionHypothesis =>
      obtain ⟨u, leads, after, placeNext⟩ := leads_of_item between form later.startsLine place
      obtain ⟨fewer, enoughNext, same⟩ := leads steps enough
      rw [same, inductionHypothesis after placeNext enoughNext]
      simp

end

end Scan

theorem TokenStream.ofDocument_of_lines {cs : List Char} {tokens : List Token}
    (lines : Lines cs (.key :: tokens)) :
    TokenStream.ofDocument cs none =
      ⟨.blockMappingStart :: (.key :: tokens ++ [.blockEnd, .streamEnd]), none⟩ := by
  obtain ⟨key, line, rest, value, later, cs_eq, tokens_eq, isKey, valueLine, linesLater⟩ :
      ∃ key line rest value later, cs = key ++ ':' :: (line ++ rest) ∧
        tokens = .scalar (String.ofList key) true :: .value :: (value ++ later) ∧
        IsKey key ∧ ValueLine line value ∧ Lines rest later := by
    cases lines with
    | entry isKey valueLine later => exact ⟨_, _, _, _, _, rfl, rfl, isKey, valueLine, later⟩
  have unmarked : (⟨cs, 0, 0, 0⟩ : Cursor).peek ≠ '\ufeff' := by
    obtain ⟨c, more, rfl⟩ := List.exists_cons_of_ne_nil isKey.ne_nil
    rw [cs_eq]
    exact ne_of_letter (isKey.letters c List.mem_cons_self) (by decide)
  have between : Scan.Between { here := ⟨cs, 0, 0, 0⟩ } false [] := ⟨rfl, rfl, rfl, rfl, rfl, rfl⟩
  obtain ⟨u, leads, after, place⟩ :=
    Scan.leads_of_entry between isKey valueLine linesLater.startsLine
    (.inl ⟨cs_eq, rfl, rfl, rfl⟩)
  obtain ⟨fewer, enough, same⟩ := leads (cs.length + 2) (Nat.lt_succ_self _)
  rw [TokenStream.ofDocument]
  simp only [unmarked, if_false, Option.map_none]
  rw [same, Scan.scanFrom_of_lines linesLater after place enough, tokens_eq]
  simp

end WarningSweep.Yaml
