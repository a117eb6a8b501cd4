import WarningSweep.Proofs.Text.Portion
import WarningSweep.Proofs.Yaml.Printing
import WarningSweep.Yaml.Document

/-!
# Printed mappings are read back

The document of a mapping of names to texts, truth values and lists of texts holds printable
characters and line feeds only, and is read as the same mapping.
-/

namespace WarningSweep.Yaml

/-! ## Characters of a document -/

def IsWritten (c : Char) : Prop := IsPrintable c ∨ c = '\n'

instance (c : Char) : Decidable (IsWritten c) := inferInstanceAs (Decidable (_ ∨ _))

theorem IsWritten.isSimple {c : Char} (written : IsWritten c) : IsSimple c := by
  rcases written with printable | rfl
  · exact ⟨Nat.lt_of_le_of_lt printable.2 (by decide), printable.ne (by decide)⟩
  · exact ⟨by decide, by decide⟩

theorem IsWritten.isAllowed_eq {c : Char} (written : IsWritten c) : isAllowed c = true := by
  rcases written with printable | rfl
  · simp [isAllowed, printable.1, printable.2]
  · decide

theorem isWritten_of_solid {word : List Char} (solid : ∀ c ∈ word, IsSolid c) :
    ∀ c ∈ word, IsWritten c := fun c member => .inl (solid c member).printable

theorem isWritten_fold : ∀ c ∈ ['\n', ' ', ' '], IsWritten c := by
  decide

theorem isWritten_spaces (count : Nat) : ∀ c ∈ List.replicate count ' ', IsWritten c := by
  intro c member
  rw [List.eq_of_mem_replicate member]
  exact .inl (by decide)

theorem PlainTail.isWritten {tail written : List Char} (form : PlainTail tail written) :
    ∀ c ∈ written, IsWritten c := by
  induction form with
  | nil => simp
  | spaces count isWord _ _ inductionHypothesis =>
      exact List.forall_mem_append.mpr ⟨isWritten_spaces _,
        List.forall_mem_append.mpr ⟨isWritten_of_solid isWord.solid, inductionHypothesis⟩⟩
  | fold isWord _ _ inductionHypothesis =>
      exact List.forall_mem_append.mpr ⟨isWritten_fold,
        List.forall_mem_append.mpr ⟨isWritten_of_solid isWord.solid, inductionHypothesis⟩⟩

theorem QuotedForm.isWritten {text written : List Char} (form : QuotedForm text written) :
    ∀ c ∈ written, IsWritten c := by
  induction form with
  | nil => simp
  | char solid _ _ inductionHypothesis =>
      exact List.forall_mem_cons.mpr ⟨.inl solid.printable, inductionHypothesis⟩
  | quote _ inductionHypothesis =>
      exact List.forall_mem_append.mpr ⟨(by decide : ∀ c ∈ ['\'', '\''], IsWritten c),
        inductionHypothesis⟩
  | spaces count _ _ inductionHypothesis =>
      exact List.forall_mem_append.mpr ⟨isWritten_spaces _, inductionHypothesis⟩
  | fold _ _ _ inductionHypothesis =>
      exact List.forall_mem_append.mpr ⟨isWritten_fold, inductionHypothesis⟩

theorem ScalarForm.isWritten {text written : List Char} {plain : Bool}
    (form : ScalarForm text plain written) : ∀ c ∈ written, IsWritten c := by
  cases form with
  | plain form =>
      obtain ⟨opens, tailForm⟩ := form
      exact List.forall_mem_append.mpr ⟨isWritten_of_solid opens.solid, tailForm.isWritten⟩
  | quoted form =>
      exact List.forall_mem_cons.mpr ⟨.inl (by decide),
        List.forall_mem_append.mpr ⟨form.isWritten, by decide⟩⟩

theorem ValueLine.isWritten {line : List Char} {tokens : List Token}
    (valueLine : ValueLine line tokens) :
    ∀ c ∈ line, IsWritten c := by
  cases valueLine with
  | scalar form =>
      exact List.forall_mem_cons.mpr ⟨.inl (by decide),
        List.forall_mem_append.mpr ⟨form.isWritten, by decide⟩⟩
  | empty => decide
  | heading => decide

theorem Lines.isWritten {text : List Char} {tokens : List Token} (lines : Lines text tokens) :
    ∀ c ∈ text, IsWritten c := by
  induction lines with
  | nil => simp
  | entry isKey valueLine _ inductionHypothesis =>
      exact List.forall_mem_append.mpr ⟨isWritten_of_solid isKey.opensPlain.solid,
        List.forall_mem_cons.mpr ⟨.inl (by decide),
          List.forall_mem_append.mpr ⟨valueLine.isWritten, inductionHypothesis⟩⟩⟩
  | item form _ inductionHypothesis =>
      exact List.forall_mem_append.mpr ⟨(by decide : ∀ c ∈ ['-', ' '], IsWritten c),
        List.forall_mem_append.mpr ⟨form.isWritten,
          List.forall_mem_cons.mpr ⟨.inr rfl, inductionHypothesis⟩⟩⟩

theorem readable_of_allowed {portions : List (List Char)}
    (allowed : ∀ c ∈ portions.flatten, isAllowed c = true) :
    readable portions none = (portions.flatten, none) := by
  have whole {blocks : List (List Char)} (allowed : ∀ c ∈ blocks.flatten, isAllowed c = true) :
      (blocks.takeWhile fun block => block.all isAllowed) = blocks := by
    rw [List.takeWhile_eq_self_iff]
    intro block member
    rw [List.all_eq_true]
    exact fun c inside => allowed c (List.mem_flatten_of_mem member inside)
  match portions with
  | [] => rfl
  | [first] =>
      have kept := whole allowed
      simp [readable, kept]
  | first :: second :: rest =>
      have same : ((first ++ second) :: rest).flatten = (first :: second :: rest).flatten := by simp
      have kept := whole (same ▸ allowed)
      simp [readable, kept]

/-! ## Reading back -/

/-- A printed mapping is read back, but for the numbers of its lists. -/
theorem exists_load_print {entries : List (String × Value)} (nonempty : entries ≠ [])
    (distinct : (entries.map Prod.fst).Nodup) (isEntry : ∀ entry ∈ entries, IsEntry entry) :
    ∃ node found, load (encodeString
        (print (.map none (entries.map fun entry => (.str entry.1, entry.2))))) =
        .ok (.map node ((entries.map fun entry => .str entry.1).zip found)) ∧
      List.Forall₂ Renumbers (entries.map Prod.snd) found := by
  obtain ⟨outline, text, keys, reads, lines, printed⟩ := exists_print nonempty isEntry
  have written := lines.isWritten
  -- The bytes are read as the characters that were printed.
  obtain ⟨portions, portions_eq, flatten_eq⟩ := @portionsOf_of_simple portionSize (by decide)
    (String.ofList text) (by
      rw [String.toList_ofList]
      exact fun c member => (written c member).isSimple)
  rw [String.toList_ofList] at flatten_eq
  have read : readable portions none = (text, none) := by
    rw [readable_of_allowed (flatten_eq ▸ fun c member =>
      (written c member).isAllowed_eq), flatten_eq]
  -- They have the tokens of the outline.
  obtain ⟨later, tokens_eq⟩ : ∃ later, outline.tokens = .key :: later := by
    cases outline with
    | nil => exact absurd (List.map_eq_nil_iff.mp keys.symm) nonempty
    | cons entry outline => exact ⟨_, rfl⟩
  have stream : TokenStream.ofDocument text none =
      ⟨.blockMappingStart :: (outline.tokens ++ [.blockEnd, .streamEnd]), none⟩ := by
    rw [tokens_eq] at lines ⊢
    exact TokenStream.ofDocument_of_lines lines
  -- Its nodes have the values of the entries.
  have texts : ∀ entry ∈ outline, Tag.ofPlain entry.1 = .str := by
    intro entry member
    have named : entry.1 ∈ entries.map Prod.fst := keys ▸ List.mem_map_of_mem member
    obtain ⟨other, inside, same⟩ := List.mem_map.mp named
    rw [← same]
    exact (isEntry other inside).isText
  obtain ⟨found, value_eq, renumbers⟩ := Outline.exists_value (keys ▸ distinct) texts reads
  refine ⟨some (objectNumber 0), found, ?_, renumbers⟩
  have keys_eq : (outline.map fun entry => Value.str entry.1) =
      entries.map fun entry => Value.str entry.1 := by
    have names := congrArg (List.map Value.str) keys
    simpa [Function.comp_def] using names
  rw [printed, load, portions_eq]
  simp only [read, stream, Graph.ofTokens_of_outline, bind, Except.bind]
  rw [value_eq, keys_eq]

end WarningSweep.Yaml
