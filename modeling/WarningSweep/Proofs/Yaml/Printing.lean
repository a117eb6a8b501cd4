import WarningSweep.Proofs.Yaml.Tokens
import WarningSweep.Proofs.Yaml.Values
import WarningSweep.Yaml.Print.Document

/-!
# Printed mappings

A mapping of names to texts, truth values and lists of texts is printed line by line: one line for
each entry, more where a text is folded, and one for each item of a list.
-/

namespace WarningSweep.Yaml

/-- Values that are printed without signs of their own: texts of printable characters, truth values
and lists of such texts. -/
inductive IsBasic : Value → Prop
  | str {s : String} : (∀ c ∈ s.toList, IsPrintable c) → IsBasic (.str s)
  | bool (b : Bool) : IsBasic (.bool b)
  | list {texts : List String} : (∀ s ∈ texts, ∀ c ∈ s.toList, IsPrintable c) →
      IsBasic (.list none (texts.map Value.str))

/-- A page to which a text was added, on a line that is not at its start. -/
structure Page.Adds (p q : Page) (text : List Char) : Prop where
  written_eq : q.written = text.reverse ++ p.written
  blank_eq : q.blank = false
  fresh_eq : q.fresh = false

/-- The next line is begun where the last one does not stand at its start. -/
theorem Page.toIndent_zero {p : Page} (begun : p.fresh = false) :
    p.toIndent 0 = ⟨'\n' :: p.written, 0, true, true⟩ := by
  simp [toIndent, begun, lineBreak]

/-! ## Scalars -/

section

variable {place : Place} {p : Page}

theorem exists_printScalar {tag : Tag} {s : String} (printable : ∀ c ∈ s.toList, IsPrintable c)
    (indent : place.scalarIndent = 2) (notKey : place.isKey = false) (joined : p.blank = false)
    (readable : tag = .str ∨
      tag = Tag.ofPlain s ∧ tag ≠ .null ∧ tag ≠ .binary ∧ (analyse s.toList).plainAllowed = true) :
    ∃ plain written, ScalarForm s.toList plain written ∧ (Leaf.mk s plain).tag = tag ∧
      p.Adds (printScalar place tag s p) (' ' :: written) := by
  have notBinary : tag ≠ .binary := by
    rcases readable with rfl | ⟨-, -, other, -⟩
    · decide
    · exact other
  have style := chooseStyle_of_printable printable (Tag.ofPlain s = tag)
  by_cases isPlain : Tag.ofPlain s = tag ∧ (analyse s.toList).plainAllowed = true
  · obtain ⟨looksRight, allowed⟩ := isPlain
    have nonempty : s.toList ≠ [] := by
      intro none
      obtain rfl := String.toList_eq_nil_iff.mp none
      have isNull : Tag.ofPlain "" = .null := by decide
      rw [isNull] at looksRight
      rcases readable with rfl | ⟨-, other, -⟩
      · cases looksRight
      · exact other looksRight.symm
    obtain ⟨written, form, same, blank, fresh⟩ :=
      Page.written_plain printable nonempty allowed joined
    have printed : printScalar place tag s p = p.plain 2 true s.toList := by
      simp only [looksRight, allowed, decide_true, Bool.and_self, if_true] at style
      simp [printScalar, notKey, indent, notBinary, looksRight, style]
    rw [printed]
    exact ⟨true, written, .plain form, looksRight, same, blank, fresh⟩
  · obtain rfl : tag = .str := by
      rcases readable with isText | ⟨same, -, -, allowed⟩
      · exact isText
      · exact absurd ⟨same.symm, allowed⟩ isPlain
    obtain ⟨written, form, same, blank, fresh⟩ := Page.written_single printable joined
    have printed : printScalar place .str s p = p.single 2 true s.toList := by
      have notPlain : (decide (Tag.ofPlain s = .str) &&
          (analyse s.toList).plainAllowed) = false := by
        simpa using isPlain
      rw [notPlain] at style
      simp [printScalar, notKey, indent, style]
    rw [printed]
    exact ⟨false, _, .quoted form, rfl, same, blank, fresh⟩

theorem printValue_str (s : Printing) (text : String) :
    printValue [] place s (.str text) = { s with page := printScalar place .str text s.page } := by
  rw [printValue]
  simp [objectId?, Value.node?, printContent, scalarForm?]

theorem printValue_bool (s : Printing) (b : Bool) :
    printValue [] place s (.bool b) =
      { s with page := printScalar place .bool (if b then "true" else "false") s.page } := by
  rw [printValue]
  simp [objectId?, Value.node?, printContent, scalarForm?]

theorem exists_printValue_str {s : Printing} {text : String}
    (printable : ∀ c ∈ text.toList, IsPrintable c) (indent : place.scalarIndent = 2)
    (notKey : place.isKey = false) (joined : s.page.blank = false) :
    ∃ (leaf : Leaf) (written : List Char), leaf.Reads (.str text) ∧
      ScalarForm leaf.text.toList leaf.plain written ∧
      s.page.Adds (printValue [] place s (.str text)).page (' ' :: written) := by
  obtain ⟨plain, written, form, tag_eq, adds⟩ :=
    exists_printScalar printable indent notKey joined (.inl rfl)
  refine ⟨⟨text, plain⟩, written, ?_, form, ?_⟩
  · intro object
    rw [tag_eq]
    rfl
  · rw [printValue_str]
    exact adds

theorem exists_printValue_bool {s : Printing} (b : Bool) (indent : place.scalarIndent = 2)
    (notKey : place.isKey = false) (joined : s.page.blank = false) :
    ∃ (leaf : Leaf) (written : List Char), leaf.Reads (.bool b) ∧
      ScalarForm leaf.text.toList leaf.plain written ∧
      s.page.Adds (printValue [] place s (.bool b)).page (' ' :: written) := by
  obtain ⟨word, word_eq⟩ : ∃ word, word = if b then "true" else "false" := ⟨_, rfl⟩
  have readable : Tag.bool = Tag.ofPlain word ∧ (analyse word.toList).plainAllowed = true := by
    rw [word_eq]
    cases b <;> decide
  have printable : ∀ c ∈ word.toList, IsPrintable c := by
    rw [word_eq]
    cases b <;> decide
  obtain ⟨plain, written, form, tag_eq, adds⟩ := exists_printScalar printable indent notKey joined
    (.inr ⟨readable.1, by decide, by decide, readable.2⟩)
  refine ⟨⟨word, plain⟩, written, ?_, form, ?_⟩
  · intro object
    rw [tag_eq, word_eq]
    have small : lowerCase "true" = "true" ∧ lowerCase "false" = "false" := ⟨rfl, rfl⟩
    cases b <;> simp [scalarValue, small, Tag.boolWords]
  · rw [printValue_bool, ← word_eq]
    exact adds

end

/-! ## Keys -/

theorem hidesOther_of_letters {before : Char} {text : List Char}
    (letters : ∀ c ∈ text, c.isLower = true ∨ c = '_') : hidesOther before text = false := by
  induction text generalizing before with
  | nil => rfl
  | cons c rest inductionHypothesis =>
      have letter := letters c List.mem_cons_self
      have colon : c ≠ ':' := ne_of_letter letter (by decide)
      have hash : c ≠ '#' := ne_of_letter letter (by decide)
      rw [hidesOther, inductionHypothesis fun c member => letters c (List.mem_cons_of_mem _ member)]
      simp [colon, hash]

theorem IsKey.analyse_eq {key : List Char} (isKey : IsKey key) :
    (analyse key).plainAllowed = true ∧ (analyse key).multiline = false := by
  have solid := isKey.opensPlain.solid
  have breaks : ∀ c ∈ key, isBreak c = false :=
    fun c member => (solid c member).printable.isBreak_eq
  have noBreak : key.any isBreak = false := by simpa using breaks
  have ordinary : key.all isOrdinary = true :=
    List.all_eq_true.mpr fun c member => isOrdinary_of_printable (solid c member).printable
  obtain ⟨c, rest, rfl⟩ := List.exists_cons_of_ne_nil isKey.ne_nil
  have letter := isKey.letters c List.mem_cons_self
  have dash : c ≠ '-' := ne_of_letter letter (by decide)
  have dot : c ≠ '.' := ne_of_letter letter (by decide)
  have noEdge {d : Char} (member : d ∈ c :: rest) : (d = ' ') = False ∧ isBreak d = false :=
    ⟨by simp [(solid d member).ne_space], breaks d member⟩
  have last : (c :: rest).getLast?.getD c ∈ c :: rest := by
    cases found : (c :: rest).getLast? with
    | none => simp at found
    | some d => exact List.mem_of_getLast? found
  have opens : startsOther c (isBlankOrEnd (rest.headD endMark)) = false := by
    rw [← isKey.opensPlain.opens c rest rfl]
    cases rest with
    | nil => rfl
    | cons d more => rw [List.headD_cons, (solid d (by simp)).isBlankOrEnd_eq]; rfl
  have hides := @hidesOther_of_letters c rest fun d member =>
    isKey.letters d (List.mem_cons_of_mem _ member)
  refine ⟨?_, noBreak⟩
  simp only [analyse, ordinary, hasPair_eq_false (.inr breaks), hasPair_eq_false (.inl breaks),
    noBreak, opens, hides, noEdge List.mem_cons_self, noEdge last]
  simp [dash, dot]

theorem printKey_adds {s : Printing} {key : String} (isKey : IsKey key.toList)
    (isText : Tag.ofPlain key = .str) (starts : (s.page.toIndent 0).blank = true) :
    (s.page.toIndent 0).Adds (printKey [] 0 s (.str key)).page (key.toList ++ [':']) := by
  obtain ⟨allowed, oneLine⟩ := isKey.analyse_eq
  have nonempty : key.toList.isEmpty = false := by simpa using isKey.ne_nil
  have simple : isSimpleKey [] s.printed (.str key) = true := by
    have named : key ≠ "" := fun none => isKey.ne_nil (by rw [none]; rfl)
    have length_eq : key.length = key.toList.length := String.length_toList.symm
    have tagLength : (shortTag .str).length = 5 := by decide
    have short := isKey.short
    simp [isSimpleKey, objectId?, Value.node?, scalarForm?, oneLine, named]
    omega
  have style : chooseStyle true true false key.toList = .plain := by
    simp [chooseStyle, nonempty, oneLine, allowed]
  have runs_eq : Page.runs key.toList = [key.toList] := by
    have whole := @Page.runs_word key.toList [] isKey.ne_nil isKey.opensPlain.solid (by simp)
    rwa [List.append_nil] at whole
  have notAlone := ne_space_of_solid isKey.opensPlain.solid
  have printed (p : Page) (blank : p.blank = true) :
      printScalar ⟨some 0, true, true⟩ .str key p =
        { p.put key.toList with blank := false, fresh := false } := by
    simp [printScalar, isText, style, Page.plain, nonempty, blank, runs_eq,
      Page.plainRuns, notAlone]
    rfl
  rw [printKey, if_pos simple, printValue_str, printed _ starts]
  refine ⟨?_, rfl, ?_⟩
  · simp [Page.indicator, Page.put]
  · simp [Page.indicator]

/-! ## Entries -/

/-- A page whose last line is ended next, after a text that includes this end was added. -/
structure Page.Closes (p q : Page) (text : List Char) : Prop where
  written_eq : '\n' :: q.written = text.reverse ++ p.written
  blank_eq : q.blank = false
  fresh_eq : q.fresh = false

theorem Page.Adds.closes {p q : Page} {text : List Char} (adds : p.Adds q text) :
    p.Closes q (text ++ ['\n']) := by
  refine ⟨?_, adds.blank_eq, adds.fresh_eq⟩
  rw [adds.written_eq]
  simp

def itemTokens (items : List Leaf) : List Token :=
  items.flatMap fun item => [.blockEntry, item.token]

theorem exists_printItem {s : Printing} {text : String}
    (printable : ∀ c ∈ text.toList, IsPrintable c)
    (begun : s.page.fresh = false) :
    ∃ (leaf : Leaf) (written : List Char), leaf.Reads (.str text) ∧
      ScalarForm leaf.text.toList leaf.plain written ∧
      Page.Adds ⟨'\n' :: s.page.written, 0, true, true⟩
        (printItem [] ⟨some 0, false, false⟩ s (.str text)).page ('-' :: ' ' :: written) := by
  obtain ⟨leaf, written, reads, form, adds⟩ := @exists_printValue_str ⟨some 0, false, false⟩
    { s with page := ⟨'-' :: '\n' :: s.page.written, 1, false, true⟩ } text printable rfl rfl rfl
  refine ⟨leaf, written, reads, form, ?_⟩
  rw [printItem]
  simp only [Option.getD_some, Page.toIndent_zero begun]
  refine ⟨?_, adds.blank_eq, adds.fresh_eq⟩
  have written_eq := adds.written_eq
  simp only [List.reverse_cons, List.append_assoc, List.singleton_append] at written_eq ⊢
  exact written_eq

theorem exists_printItems {s : Printing} {texts : List String}
    (printable : ∀ text ∈ texts, ∀ c ∈ text.toList, IsPrintable c) (joined : s.page.blank = false)
    (begun : s.page.fresh = false) :
    ∃ (items : List Leaf) (text : List Char), List.Forall₂ Leaf.Reads items (texts.map Value.str) ∧
      Page.Closes ⟨'\n' :: s.page.written, 0, true, true⟩
        (printItems [] ⟨some 0, false, false⟩ s (texts.map Value.str)).page text ∧
      ∀ rest tokens, Lines rest tokens → Lines (text ++ rest) (itemTokens items ++ tokens) := by
  induction texts generalizing s with
  | nil =>
      refine ⟨[], [], .nil, ?_, fun _ _ => id⟩
      rw [List.map_nil, printItems]
      exact ⟨rfl, joined, begun⟩
  | cons first texts inductionHypothesis =>
      obtain ⟨leaf, written, reads, form, adds⟩ :=
        exists_printItem (printable first List.mem_cons_self) begun
      obtain ⟨items, text, readsRest, closes, lines⟩ := inductionHypothesis
        (fun text member => printable text (List.mem_cons_of_mem _ member))
          adds.blank_eq adds.fresh_eq
      refine ⟨leaf :: items, '-' :: ' ' :: (written ++ '\n' :: text), .cons reads readsRest, ?_, ?_⟩
      · rw [List.map_cons, printItems]
        refine ⟨?_, closes.blank_eq, closes.fresh_eq⟩
        rw [closes.written_eq, adds.written_eq]
        simp
      · intro rest tokens later
        have line := Lines.item form (lines rest tokens later)
        rw [String.ofList_toList] at line
        simpa [itemTokens, Leaf.token] using line

theorem lines_of_scalar {leaf : Leaf} {written key rest : List Char} {tokens : List Token}
    (form : ScalarForm leaf.text.toList leaf.plain written) (isKey : IsKey key)
    (later : Lines rest tokens) :
    Lines (key ++ ':' :: (' ' :: written ++ ['\n'] ++ rest))
      (.key :: .scalar (String.ofList key) true :: .value ::
        ((Holding.scalar leaf).tokens ++ tokens)) := by
  have line := Lines.entry isKey (.scalar form) later
  rw [String.ofList_toList] at line
  exact line

/-- A value after the colon of its key, up to the end of its last line. -/
theorem exists_printValue {s : Printing} {v : Value} (basic : IsBasic v)
    (joined : s.page.blank = false)
    (begun : s.page.fresh = false) :
    ∃ holding text, Holding.Reads holding v ∧
      s.page.Closes (printValue [] ⟨some 0, true, false⟩ s v).page text ∧
      ∀ key rest tokens, IsKey key → Lines rest tokens →
        Lines (key ++ ':' :: (text ++ rest))
          (.key :: .scalar (String.ofList key) true :: .value :: (holding.tokens ++ tokens)) := by
  cases basic with
  | str printable =>
      obtain ⟨leaf, written, reads, form, adds⟩ :=
        @exists_printValue_str ⟨some 0, true, false⟩ s _ printable rfl rfl joined
      exact ⟨.scalar leaf, _, .scalar reads, adds.closes, fun _ _ _ => lines_of_scalar form⟩
  | bool b =>
      obtain ⟨leaf, written, reads, form, adds⟩ :=
        @exists_printValue_bool ⟨some 0, true, false⟩ s b rfl rfl joined
      exact ⟨.scalar leaf, _, .scalar reads, adds.closes, fun _ _ _ => lines_of_scalar form⟩
  | @list texts printable =>
      cases texts with
      | nil =>
          refine ⟨.sequence [], [' ', '[', ']', '\n'], .sequence none .nil, ?_, ?_⟩
          · rw [printValue]
            simp only [objectId?, Value.node?, Option.bind_none, List.map_nil, printContent]
            refine ⟨?_, rfl, ?_⟩
            · simp [emptyCollection, Page.indicator, Page.put, joined]
            · simp [emptyCollection, Page.indicator]
          · intro key rest tokens isKey later
            exact .entry isKey .empty later
      | cons first texts =>
          obtain ⟨items, text, reads, closes, lines⟩ := exists_printItems printable joined begun
          refine ⟨.sequence items, '\n' :: text, .sequence none reads, ?_, ?_⟩
          · have level : Place.sequenceIndent ⟨some 0, true, false⟩ s.page = 0 := by
              simp [Place.sequenceIndent, begun]
            rw [printValue]
            simp only [objectId?, Value.node?, Option.bind_none]
            rw [List.map_cons, printContent, level, ← List.map_cons]
            · refine ⟨?_, closes.blank_eq, closes.fresh_eq⟩
              rw [closes.written_eq]
              simp
            · simp
          · intro key rest tokens isKey later
            have some : ∃ item more, items = item :: more := by
              cases reads
              exact ⟨_, _, rfl⟩
            obtain ⟨item, more, rfl⟩ := some
            have line := Lines.entry isKey .heading (lines rest tokens later)
            exact line

structure IsEntry (entry : String × Value) : Prop where
  isKey : IsKey entry.1.toList
  isText : Tag.ofPlain entry.1 = .str
  basic : IsBasic entry.2

theorem exists_printEntries {s : Printing} {entries : List (String × Value)}
    (isEntry : ∀ entry ∈ entries, IsEntry entry) (starts : (s.page.toIndent 0).blank = true) :
    ∃ (outline : Outline) (text : List Char), outline.map Prod.fst = entries.map Prod.fst ∧
      List.Forall₂ (fun entry v => entry.2.Reads v) outline (entries.map Prod.snd) ∧
      Lines text outline.tokens ∧
      ((printEntries [] 0 s (entries.map fun entry => (.str entry.1, entry.2))).page.toIndent
        0).written =
        text.reverse ++ (s.page.toIndent 0).written := by
  induction entries generalizing s with
  | nil =>
      refine ⟨[], [], rfl, .nil, .nil, ?_⟩
      rw [List.map_nil, printEntries]
      rfl
  | cons entry entries inductionHypothesis =>
      obtain ⟨key, value⟩ := entry
      obtain ⟨isKey, isText, basic⟩ := isEntry _ List.mem_cons_self
      have adds := printKey_adds isKey isText starts
      obtain ⟨holding, line, reads, closes, linesHere⟩ :=
        exists_printValue basic adds.blank_eq adds.fresh_eq
      have next := Page.toIndent_zero closes.fresh_eq
      obtain ⟨outline, text, keys, readsRest, lines, written_eq⟩ := inductionHypothesis
        (fun entry member => isEntry entry (List.mem_cons_of_mem _ member)) (by rw [next])
      refine ⟨(key, holding) :: outline, key.toList ++ ':' :: (line ++ text), ?_,
        .cons reads readsRest,
        ?_, ?_⟩
      · rw [List.map_cons, keys, List.map_cons]
      · have whole := linesHere key.toList text _ isKey lines
        rw [String.ofList_toList] at whole
        simpa [Outline.tokens, Outline.keyLeaf, Leaf.token] using whole
      · rw [List.map_cons, printEntries, written_eq, next]
        dsimp only
        rw [closes.written_eq, adds.written_eq]
        simp

theorem findShared_str (s : Sharing) (text : String) : findShared s (.str text) = s := by
  simp [findShared]

theorem findSharedIn_texts (s : Sharing) (texts : List String) :
    findSharedIn s (texts.map Value.str) = s := by
  induction texts with
  | nil => rw [List.map_nil, findSharedIn]
  | cons text texts inductionHypothesis =>
      rw [List.map_cons, findSharedIn, findShared_str, inductionHypothesis]

theorem findShared_of_basic {v : Value} (basic : IsBasic v) (s : Sharing) : findShared s v = s := by
  cases basic with
  | str _ => exact findShared_str s _
  | bool _ => simp [findShared]
  | list _ => simp [findShared, meet, findSharedIn_texts]

theorem findSharedEntries_of_basic {entries : List (String × Value)}
    (basic : ∀ entry ∈ entries, IsBasic entry.2) (s : Sharing) :
    findSharedEntries s (entries.map fun entry => (.str entry.1, entry.2)) = s := by
  induction entries with
  | nil => rw [List.map_nil, findSharedEntries]
  | cons entry entries inductionHypothesis =>
      rw [List.map_cons, findSharedEntries, findShared_str,
        findShared_of_basic (basic entry List.mem_cons_self),
          inductionHypothesis fun entry member =>
          basic entry (List.mem_cons_of_mem _ member)]

theorem exists_print {entries : List (String × Value)} (nonempty : entries ≠ [])
    (isEntry : ∀ entry ∈ entries, IsEntry entry) :
    ∃ (outline : Outline) (text : List Char), outline.map Prod.fst = entries.map Prod.fst ∧
      List.Forall₂ (fun entry v => entry.2.Reads v) outline (entries.map Prod.snd) ∧
      Lines text outline.tokens ∧
      print (.map none (entries.map fun entry => (.str entry.1, entry.2))) =
        String.ofList text := by
  obtain ⟨outline, text, keys, reads, lines, written_eq⟩ :=
    @exists_printEntries {} entries isEntry rfl
  refine ⟨outline, text, keys, reads, lines, ?_⟩
  have unshared :
      (findShared {} (.map none (entries.map fun entry => (.str entry.1, entry.2)))).shared =
      [] := by
    rw [findShared, findSharedEntries_of_basic fun entry member => (isEntry entry member).basic]
    rfl
  obtain ⟨first, more, rfl⟩ := List.exists_cons_of_ne_nil nonempty
  have level : Place.mappingIndent ⟨none, false, false⟩ = 0 := rfl
  have printed : printValue [] ⟨none, false, false⟩ {}
      (.map none ((first :: more).map fun entry => (.str entry.1, entry.2))) =
      printEntries [] 0 {} ((first :: more).map fun entry => (.str entry.1, entry.2)) := by
    rw [printValue]
    simp only [objectId?, Value.node?, Option.bind_none]
    rw [List.map_cons, printContent, level]
    simp
  rw [print, unshared, printed, Page.text, written_eq]
  simp [Page.toIndent]

end WarningSweep.Yaml
