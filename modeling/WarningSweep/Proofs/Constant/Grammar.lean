import WarningSweep.Proofs.Constant.Declaration

/-!
# Which reading of a line is taken

A declaration is a line cut in a certain way: a keyword, a name, an equals sign, a value, and a
designation with a type.  A line may have many cuts.  It is read by the one whose keyword comes
first, of these by the one whose semicolon comes last, and of these by the one whose type ends last.
Blanks are given back where nothing else is left, but that shows only in parts that are blank
altogether.
-/

namespace WarningSweep

theorem isWordChar_of_isBlank {c : Char} (blank : isBlank c = true) : isWordChar c = false := by
  have table : ∀ range ∈ blankRanges, ∀ step < range.2 + 1 - range.1,
      wordCodes.contains (range.1 + step) = false := by decide +kernel
  obtain ⟨range, member, within⟩ := List.any_eq_true.mp blank
  simp only [Bool.and_eq_true, decide_eq_true_eq] at within
  have outside := table range member (c.toNat - range.1) (by omega)
  rwa [Nat.add_sub_cancel' within.1] at outside

namespace Declaration

def AreBlank (cs : List Char) : Prop := ∀ c ∈ cs, isBlank c = true

theorem afterBlanks?_eq_some_iff {mark : Char} {front cs rest : List Char}
    (solid : isBlank mark = false) :
    afterBlanks? (mark :: front) cs = some rest ↔
      ∃ blanks, AreBlank blanks ∧ cs = blanks ++ mark :: (front ++ rest) := by
  rw [afterBlanks?, after?_eq_some_iff, dropBlanks]
  constructor
  · intro split
    refine ⟨cs.takeWhile isBlank, fun c member => List.mem_takeWhile_imp member, ?_⟩
    have whole := List.takeWhile_append_dropWhile (p := isBlank) (l := cs)
    rw [split] at whole
    simpa using whole.symm
  · rintro ⟨blanks, blank, rfl⟩
    rw [List.dropWhile_append_of_pos blank, List.dropWhile_cons_of_neg (by simp [solid])]
    rfl

section

variable {α β : Type} {close? : List Char → Option β}

structure Splits (close? : List Char → Option β) (cs front : List Char) (closed : β) : Prop where
  ne_nil : front ≠ []
  closes : ∃ rest, cs = front ++ rest ∧ close? rest = some closed

structure SplitsLongest (close? : List Char → Option β) (cs front : List Char) (closed : β) : Prop
    extends Splits close? cs front closed where
  longest : ∀ other closed', Splits close? cs other closed' → other.length ≤ front.length

theorem not_splits_nil (front : List Char) (closed : β) : ¬ Splits close? [] front closed := by
  rintro ⟨nonempty, rest, split, -⟩
  exact nonempty (List.append_eq_nil_iff.mp split.symm).1

theorem splits_cons_iff {c : Char} {cs front : List Char} {closed : β} :
    Splits close? (c :: cs) front closed ↔
      (front = [c] ∧ close? cs = some closed) ∨
        ∃ others, front = c :: others ∧ Splits close? cs others closed := by
  constructor
  · rintro ⟨nonempty, rest, split, closes⟩
    obtain ⟨d, others, rfl⟩ := List.exists_cons_of_ne_nil nonempty
    obtain ⟨rfl, rfl⟩ := List.cons.inj split
    by_cases last : others = []
    · subst last
      exact .inl ⟨rfl, closes⟩
    · exact .inr ⟨others, rfl, last, rest, rfl, closes⟩
  · rintro (⟨rfl, closes⟩ | ⟨others, rfl, -, rest, rfl, closes⟩)
    · exact ⟨by simp, cs, rfl, closes⟩
    · exact ⟨by simp, rest, rfl, closes⟩

theorem SplitsLongest.cons {cs front : List Char} {closed : β}
    (longest : SplitsLongest close? cs front closed) (c : Char) :
    SplitsLongest close? (c :: cs) (c :: front) closed where
  toSplits := splits_cons_iff.mpr (.inr ⟨front, rfl, longest.toSplits⟩)
  longest := by
    intro other closed' splits
    rcases splits_cons_iff.mp splits with ⟨rfl, -⟩ | ⟨others, rfl, shorter⟩
    · simp
    · simpa using longest.longest others closed' shorter

theorem splitsLongest_singleton {c : Char} {cs : List Char} {closed : β}
    (closes : close? cs = some closed)
    (none : ∀ front closed, ¬ Splits close? cs front closed) :
    SplitsLongest close? (c :: cs) [c] closed where
  toSplits := splits_cons_iff.mpr (.inl ⟨rfl, closes⟩)
  longest := by
    intro other closed' splits
    rcases splits_cons_iff.mp splits with ⟨rfl, -⟩ | ⟨others, -, splits⟩
    · simp
    · exact absurd splits (none others closed')

theorem not_splits_cons {c : Char} {cs : List Char} (closes : close? cs = none)
    (none : ∀ front closed, ¬ Splits close? cs front closed) (front : List Char) (closed : β) :
    ¬ Splits close? (c :: cs) front closed := by
  intro splits
  rcases splits_cons_iff.mp splits with ⟨-, closes'⟩ | ⟨others, -, splits⟩
  · rw [closes] at closes'
    cases closes'
  · exact none others closed splits

variable (close?) (build : List Char → β → α)

def closing (close? : List Char → Option β) (build : List Char → β → α)
    (front rest : List Char) : Option α :=
  (close? rest).map (build front.reverse)

theorem longestFront_closing {cs : List Char} (oneLine : '\n' ∉ cs) (taken : List Char) :
    (longestFront (closing close? build) taken cs = none ∧
      ∀ front closed, ¬ Splits close? cs front closed) ∨
    ∃ front closed, longestFront (closing close? build) taken cs =
        some (build (taken.reverse ++ front) closed) ∧
      SplitsLongest close? cs front closed := by
  induction cs generalizing taken with
  | nil => exact .inl ⟨rfl, not_splits_nil⟩
  | cons c rest inductionHypothesis =>
      rw [List.mem_cons, not_or] at oneLine
      rw [longestFront, if_neg (Ne.symm oneLine.1)]
      rcases inductionHypothesis oneLine.2 (c :: taken) with
        ⟨shorter, none⟩ | ⟨front, closed, found, longest⟩
      · rw [shorter]
        cases closes : close? rest with
        | none => exact .inl ⟨by simp [closing, closes], not_splits_cons closes none⟩
        | some closed =>
            exact .inr ⟨[c], closed, by simp [closing, closes], splitsLongest_singleton closes none⟩
      · rw [found]
        exact .inr ⟨c :: front, closed, by simp, longest.cons c⟩

/-- The front that is taken is the longest one, but for blanks at its start. -/
theorem frontAfterBlanks_closing {cs : List Char} (oneLine : '\n' ∉ cs) :
    (frontAfterBlanks (closing close? build) cs = none ∧
      ∀ front closed, ¬ Splits close? cs front closed) ∨
    ∃ taken front closed, frontAfterBlanks (closing close? build) cs = some (build taken closed) ∧
      SplitsLongest close? cs front closed ∧ dropBlanks taken = dropBlanks front := by
  induction cs with
  | nil => exact .inl ⟨rfl, not_splits_nil⟩
  | cons c rest inductionHypothesis =>
      rw [frontAfterBlanks]
      split
      next blank =>
        rw [List.mem_cons, not_or] at oneLine
        rcases inductionHypothesis oneLine.2 with
          ⟨shorter, none⟩ | ⟨taken, front, closed, found, longest, same⟩
        · rw [shorter]
          cases closes : close? rest with
          | none =>
              exact .inl ⟨by simp [closing, closes], not_splits_cons closes none⟩
          | some closed =>
              exact .inr ⟨[c], [c], closed, by simp [closing, closes, Ne.symm oneLine.1],
                splitsLongest_singleton closes none, rfl⟩
        · rw [found]
          refine .inr ⟨taken, c :: front, closed, rfl, longest.cons c, ?_⟩
          rw [same, dropBlanks, dropBlanks, List.dropWhile_cons_of_pos blank]
      next =>
        rcases longestFront_closing close? build oneLine [] with
            none | ⟨front, closed, found, longest⟩
        · exact .inl none
        · exact .inr ⟨front, front, closed, by simpa using found, longest, rfl⟩

variable {close?}

theorem SplitsLongest.eq_nil_of_closes {front blanks rest : List Char} {closed closed' : β}
    (longest : SplitsLongest close? (front ++ (blanks ++ rest)) front closed)
    (closes : close? rest = some closed') : blanks = [] := by
  have splits : Splits close? (front ++ (blanks ++ rest)) (front ++ blanks) closed' :=
    ⟨by simp [longest.ne_nil], rest, by simp, closes⟩
  have bound := longest.longest _ _ splits
  rw [List.length_append] at bound
  exact List.eq_nil_of_length_eq_zero (by omega)

end

theorem afterBlanks?_mark {mark : Char} (solid : isBlank mark = false) (front rest : List Char) :
    afterBlanks? (mark :: front) (mark :: (front ++ rest)) = some rest :=
  (afterBlanks?_eq_some_iff solid).mpr ⟨[], by simp [AreBlank], rfl⟩

structure TypeCut (cs ctype after : List Char) : Prop where
  ne_nil : ctype ≠ []
  split : cs = ctype ++ '*' :: '/' :: after

theorem TypeCut.splits {cs ctype after : List Char} (cut : TypeCut cs ctype after) :
    Splits (afterBlanks? ['*', '/']) cs ctype after :=
  ⟨cut.ne_nil, _, cut.split, afterBlanks?_mark isBlank_star ['/'] after⟩

/-- The type that is read is the longest one, but for blanks at its start. -/
theorem ctype?_cases {cs : List Char} (oneLine : '\n' ∉ cs) :
    (ctype? cs = none ∧ ∀ ctype after, ¬ TypeCut cs ctype after) ∨
    ∃ taken ctype after, ctype? cs = some taken ∧ TypeCut cs ctype after ∧
      (∀ other after', TypeCut cs other after' → other.length ≤ ctype.length) ∧
      dropBlanks taken = dropBlanks ctype := by
  rcases frontAfterBlanks_closing (afterBlanks? ['*', '/']) (fun front _ => front) oneLine with
      ⟨unread, none⟩ | ⟨taken, ctype, after, read, longest, same⟩
  · exact .inl ⟨unread, fun ctype after cut => none ctype after cut.splits⟩
  · refine .inr ⟨taken, ctype, after, read, ⟨longest.ne_nil, ?_⟩,
      fun other after' cut => longest.longest other after' cut.splits, same⟩
    obtain ⟨rest, rfl, closes⟩ := longest.closes
    obtain ⟨blanks, -, rfl⟩ := (afterBlanks?_eq_some_iff isBlank_star).mp closes
    obtain rfl := longest.eq_nil_of_closes (afterBlanks?_mark isBlank_star ['/'] after)
    rfl

def IsMiddle (cs : List Char) : Prop :=
  ∃ first second third, AreBlank first ∧ AreBlank second ∧ AreBlank third ∧
    cs = ';' :: (first ++ '/' :: '*' :: (second ++ 'C' :: (third ++ [':'])))

theorem designation?_eq_some_iff {cs rest : List Char} :
    designation? cs = some rest ↔
      ∃ blanks middle, AreBlank blanks ∧ IsMiddle middle ∧ cs = blanks ++ (middle ++ rest) := by
  have semicolon : isBlank ';' = false := by decide
  have slash : isBlank '/' = false := by decide
  have letter : isBlank 'C' = false := by decide
  have colon : isBlank ':' = false := by decide
  simp only [designation?, Option.bind_eq_bind, Option.bind_eq_some_iff,
    afterBlanks?_eq_some_iff semicolon, afterBlanks?_eq_some_iff slash,
    afterBlanks?_eq_some_iff letter, afterBlanks?_eq_some_iff colon]
  constructor
  · rintro ⟨_, ⟨blanks, blank, rfl⟩, _, ⟨first, one, rfl⟩, _, ⟨second, two, rfl⟩, third, three, rfl⟩
    exact ⟨blanks, _, blank, ⟨first, second, third, one, two, three, rfl⟩, by simp⟩
  · rintro ⟨blanks, _, blank, ⟨first, second, third, one, two, three, rfl⟩, rfl⟩
    exact ⟨_, ⟨blanks, blank, by simp⟩, _, ⟨first, one, rfl⟩, _, ⟨second, two, rfl⟩,
      third, three, rfl⟩

theorem IsMiddle.designation?_append {middle : List Char} (isMiddle : IsMiddle middle)
    (rest : List Char) : designation? (middle ++ rest) = some rest :=
  designation?_eq_some_iff.mpr ⟨[], middle, by simp [AreBlank], isMiddle, rfl⟩

theorem IsMiddle.unique {first second rest rest' : List Char} (one : IsMiddle first)
    (two : IsMiddle second) (same : first ++ rest = second ++ rest') :
    first = second ∧ rest = rest' := by
  have found := one.designation?_append rest
  rw [same, two.designation?_append] at found
  cases found
  exact ⟨List.append_cancel_right same, rfl⟩

def typeAfter? (cs : List Char) : Option (List Char) := (designation? cs).bind ctype?

theorem valueAndType?_eq (cs : List Char) :
    valueAndType? cs = frontAfterBlanks (closing typeAfter? Prod.mk) cs := by
  have same : (fun front rest => do
      let ctype ← ctype? (← designation? rest)
      return (front.reverse, ctype)) = closing typeAfter? Prod.mk := by
    funext front rest
    simp only [closing, typeAfter?]
    cases designation? rest with
    | none => rfl
    | some after => cases typed : ctype? after <;> simp [typed]
  rw [valueAndType?, same]

structure ValueCut (cs value middle ctype after : List Char) : Prop where
  ne_nil : value ≠ []
  isMiddle : IsMiddle middle
  split : ∃ rest, cs = value ++ (middle ++ rest) ∧ TypeCut rest ctype after

theorem ValueCut.exists_splits {cs value middle ctype after : List Char} (oneLine : '\n' ∉ cs)
    (cut : ValueCut cs value middle ctype after) : ∃ taken, Splits typeAfter? cs value taken := by
  obtain ⟨nonempty, isMiddle, rest, rfl, typeCut⟩ := cut
  have single : '\n' ∉ rest := fun member => oneLine (by simp [member])
  rcases ctype?_cases single with ⟨-, none⟩ | ⟨taken, _, _, read, -⟩
  · exact absurd typeCut (none ctype after)
  · exact ⟨taken, nonempty, _, rfl, by simp [typeAfter?, isMiddle.designation?_append, read]⟩

/-- The value that is read is the longest one, and the type the longest one after it, but for blanks
at their starts. -/
theorem valueAndType?_cases {cs : List Char} (oneLine : '\n' ∉ cs) :
    (valueAndType? cs = none ∧ ∀ value middle ctype after, ¬ ValueCut cs value middle ctype after) ∨
    ∃ takenValue takenType value middle ctype after,
      valueAndType? cs = some (takenValue, takenType) ∧ ValueCut cs value middle ctype after ∧
      (∀ value' middle' ctype' after', ValueCut cs value' middle' ctype' after' →
        value'.length ≤ value.length ∧
          (value'.length = value.length → ctype'.length ≤ ctype.length)) ∧
      dropBlanks takenValue = dropBlanks value ∧ dropBlanks takenType = dropBlanks ctype := by
  rw [valueAndType?_eq]
  rcases frontAfterBlanks_closing typeAfter? Prod.mk oneLine with
    ⟨unread, none⟩ | ⟨takenValue, value, takenType, read, longest, sameValue⟩
  · refine .inl ⟨unread, ?_⟩
    intro value middle ctype after cut
    obtain ⟨taken, splits⟩ := cut.exists_splits oneLine
    exact none value taken splits
  · obtain ⟨rest, rfl, closes⟩ := longest.closes
    obtain ⟨behind, designated, typed⟩ := Option.bind_eq_some_iff.mp closes
    obtain ⟨blanks, middle, -, isMiddle, rfl⟩ := designation?_eq_some_iff.mp designated
    have closes' : typeAfter? (middle ++ behind) = some takenType := by
      simp [typeAfter?, isMiddle.designation?_append, typed]
    obtain rfl : blanks = [] := longest.eq_nil_of_closes closes'
    have single : '\n' ∉ behind := fun member => oneLine (by simp [member])
    rcases ctype?_cases single with
      ⟨untyped, -⟩ | ⟨taken, ctype, after, typed', cut, longestType, sameType⟩
    · rw [untyped] at typed
      cases typed
    · obtain rfl : taken = takenType := Option.some.inj (typed'.symm.trans typed)
      refine .inr ⟨takenValue, taken, value, middle, ctype, after, read,
        ⟨longest.ne_nil, isMiddle, behind, rfl, cut⟩, ?_, sameValue, sameType⟩
      intro value' middle' ctype' after' other
      obtain ⟨_, splits⟩ := other.exists_splits oneLine
      refine ⟨longest.longest _ _ splits, ?_⟩
      intro equal
      obtain ⟨rest', split, typeCut⟩ := other.split
      obtain ⟨rfl, tails⟩ := List.append_inj split equal.symm
      obtain ⟨rfl, rfl⟩ := isMiddle.unique other.isMiddle tails
      exact longestType ctype' after' typeCut

/-- The name that a text with a keyword at its start declares, and what follows the equals sign. -/
def declared? (cs : List Char) : Option (List Char × List Char) := do
  let rest ← keywords.findSome? fun keyword => after? keyword cs
  let symbol := (dropBlanks rest).takeWhile isWordChar
  if symbol = [] then none
  let tail ← afterBlanks? ['='] ((dropBlanks rest).dropWhile isWordChar)
  return (symbol, tail)

theorem findSome?_keywords_iff {cs rest : List Char} :
    (keywords.findSome? fun keyword => after? keyword cs) = some rest ↔
      ∃ keyword ∈ keywords, cs = keyword ++ rest := by
  constructor
  · intro found
    obtain ⟨keyword, member, split⟩ := List.exists_of_findSome?_eq_some found
    exact ⟨keyword, member, after?_eq_some_iff.mp split⟩
  · rintro ⟨keyword, member, rfl⟩
    -- no keyword begins with another one
    simp only [keywords, List.mem_cons, List.not_mem_nil, or_false] at member
    rcases member with rfl | rfl | rfl <;> rfl

structure HeadCut (cs keyword gap symbol blanks tail : List Char) : Prop where
  keyword_mem : keyword ∈ keywords
  gap_blank : AreBlank gap
  ne_nil : symbol ≠ []
  word : ∀ c ∈ symbol, isWordChar c = true
  blank : AreBlank blanks
  split : cs = keyword ++ (gap ++ (symbol ++ (blanks ++ '=' :: tail)))

theorem run_of_stop {kind : Char → Bool} {run rest : List Char}
    (inside : ∀ c ∈ run, kind c = true) (outside : ∀ c ∈ rest.head?, kind c = false) :
    (run ++ rest).takeWhile kind = run ∧ (run ++ rest).dropWhile kind = rest := by
  rw [List.takeWhile_append_of_pos inside, List.dropWhile_append_of_pos inside]
  cases rest with
  | nil => simp
  | cons c others =>
      have stop : ¬ kind c = true := by simp [outside c rfl]
      rw [List.takeWhile_cons_of_neg stop, List.dropWhile_cons_of_neg stop]
      simp

theorem declared?_of_headCut {cs keyword gap symbol blanks tail : List Char}
    (cut : HeadCut cs keyword gap symbol blanks tail) : declared? cs = some (symbol, tail) := by
  have equals : isBlank '=' = false := by decide
  have begun := findSome?_keywords_iff.mpr ⟨keyword, cut.keyword_mem, cut.split⟩
  have dropped : dropBlanks (gap ++ (symbol ++ (blanks ++ '=' :: tail))) =
      symbol ++ (blanks ++ '=' :: tail) := by
    refine (run_of_stop cut.gap_blank ?_).2
    obtain ⟨first, others, rfl⟩ := List.exists_cons_of_ne_nil cut.ne_nil
    rintro c ⟨⟩
    have word := cut.word first List.mem_cons_self
    by_contra blank
    rw [isWordChar_of_isBlank (by simpa using blank)] at word
    cases word
  have name : (symbol ++ (blanks ++ '=' :: tail)).takeWhile isWordChar = symbol ∧
      (symbol ++ (blanks ++ '=' :: tail)).dropWhile isWordChar = blanks ++ '=' :: tail := by
    refine run_of_stop cut.word ?_
    cases blanks with
    | nil =>
        rintro c ⟨⟩
        decide +kernel
    | cons first others =>
        rintro c ⟨⟩
        exact isWordChar_of_isBlank (cut.blank first List.mem_cons_self)
  have ended : afterBlanks? ['='] (blanks ++ '=' :: tail) = some tail :=
    (afterBlanks?_eq_some_iff equals).mpr ⟨blanks, cut.blank, rfl⟩
  simp only [declared?, begun, dropped, name, cut.ne_nil, ended, if_false, Option.bind_eq_bind,
    Option.bind_some, Option.pure_def]

theorem exists_headCut_of_declared? {cs symbol tail : List Char}
    (declares : declared? cs = some (symbol, tail)) :
    ∃ keyword gap blanks, HeadCut cs keyword gap symbol blanks tail := by
  have equals : isBlank '=' = false := by decide
  simp only [declared?, Option.bind_eq_bind, Option.bind_eq_some_iff] at declares
  obtain ⟨rest, begun, declares⟩ := declares
  obtain ⟨keyword, member, rfl⟩ := findSome?_keywords_iff.mp begun
  split at declares
  · cases declares
  next nonempty =>
    obtain ⟨tail', ended, same⟩ := Option.bind_eq_some_iff.mp declares
    cases same
    obtain ⟨blanks, blank, split⟩ := (afterBlanks?_eq_some_iff equals).mp ended
    refine ⟨keyword, rest.takeWhile isBlank, blanks, member,
      fun c inside => List.mem_takeWhile_imp inside, nonempty,
      fun c inside => List.mem_takeWhile_imp inside, blank, ?_⟩
    have gap := List.takeWhile_append_dropWhile (p := isBlank) (l := rest)
    have name := List.takeWhile_append_dropWhile (p := isWordChar) (l := dropBlanks rest)
    rw [split] at name
    rw [dropBlanks] at name ⊢
    rw [List.nil_append] at name
    rw [name, gap]

theorem readAt?_eq (cs : List Char) :
    readAt? cs = (declared? cs).bind fun declared =>
      (valueAndType? declared.2).map fun read =>
        ⟨String.ofList declared.1, String.ofList read.1, String.ofList read.2⟩ := by
  simp only [readAt?, named?, declared?, Option.bind_eq_bind]
  cases keywords.findSome? fun keyword => after? keyword cs with
  | none => rfl
  | some rest =>
      simp only [Option.bind_some]
      split
      · rfl
      · cases afterBlanks? ['='] ((dropBlanks rest).dropWhile isWordChar) with
        | none => rfl
        | some tail => cases read : valueAndType? tail <;> simp [read]

theorem read?_cases (cs : List Char) :
    (read? cs = none ∧ ∀ before rest, cs = before ++ rest → readAt? rest = none) ∨
    ∃ before rest reading, cs = before ++ rest ∧ readAt? rest = some reading ∧
      read? cs = some reading ∧ ∀ before' rest', cs = before' ++ rest' →
        before'.length < before.length → readAt? rest' = none := by
  induction cs with
  | nil =>
      refine .inl ⟨rfl, ?_⟩
      intro before rest split
      obtain ⟨rfl, rfl⟩ := List.append_eq_nil_iff.mp split.symm
      rfl
  | cons c cs inductionHypothesis =>
      rw [read?]
      cases here : readAt? (c :: cs) with
      | some reading => exact .inr ⟨[], c :: cs, reading, rfl, here, rfl, by simp⟩
      | none =>
          have elsewhere {P : List Char → List Char → Prop}
              (later : ∀ before rest, cs = before ++ rest → P (c :: before) rest)
              (first : P [] (c :: cs)) :
              ∀ before rest, c :: cs = before ++ rest → P before rest := by
            intro before rest split
            cases before with
            | nil =>
                cases split
                exact first
            | cons d others =>
                obtain ⟨rfl, behind⟩ := List.cons.inj split
                exact later others rest behind
          rcases inductionHypothesis with
            ⟨unread, nowhere⟩ | ⟨before, rest, reading, split, read, same, least⟩
          · exact .inl ⟨unread, elsewhere (P := fun _ rest => readAt? rest = none) nowhere here⟩
          · refine .inr ⟨c :: before, rest, reading, by rw [split]; rfl, read, same, ?_⟩
            refine elsewhere (P := fun before' rest' => before'.length < (c :: before).length →
              readAt? rest' = none) ?_ (fun _ => here)
            intro before' rest' split' shorter
            exact least before' rest' split' (by simpa using shorter)

end Declaration

end WarningSweep
