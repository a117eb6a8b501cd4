import WarningSweep.Batch.Run
import WarningSweep.Proofs.Operation
import WarningSweep.Settings.Check

/-!
# Plans of accepted settings

Settings that the check accepts, and whose texts are texts, can be put to use.
-/

namespace WarningSweep

/-- Settings in which all that a sweep looks for is given as texts, and the extensions as a list of
texts. -/
structure Settings.IsTextual (settings : Settings) (extensions : List String) : Prop where
  start : ∃ text, settings.startMarker = .str text
  stop : ∃ text, settings.stopMarker = .str text
  head : ∃ text, settings.warningHead = .str text
  word : ∃ text, settings.literalWord = .str text
  extensions_eq : ∃ node, settings.extensions = some (.list node (extensions.map Value.str))

theorem Value.part_str (whole : Value) (s : String) : whole.part (.str s) = .str s := by
  rw [part]
  split
  · rfl
  · simp [fill, fold]

theorem Value.items?_of_texts (node : Option Nat) (texts : List String) :
    (Value.list node (texts.map Value.str)).items? = some (texts.map Value.str) := by
  rw [items?, List.map_map]
  congr 1
  exact List.map_congr_left fun text _ => part_str _ text

theorem Text.ofString_injective {s t : String}
    (same : Text.ofString s = Text.ofString t) : s = t := by
  have chars : s.toList = t.toList := (List.map_inj_right fun _ _ => Glyph.char.inj).mp same
  exact String.toList_inj.mp chars

theorem Plan.ofSettings_eq_ready {settings : Settings} (room : Nat) (markers : Markers)
    {start stop head word : String} (start_eq : settings.startMarker = .str start)
    (stop_eq : settings.stopMarker = .str stop) (head_eq : settings.warningHead = .str head)
    (word_eq : settings.literalWord = .str word) (opens : markers.start = Text.ofString start)
    (closes : markers.stop = Text.ofString stop) :
    Plan.ofSettings room settings = .ok (.ready ⟨markers, head, ⟨word⟩, room⟩) := by
  have noStart : Text.ofString start ≠ [] := opens ▸ markers.start_ne_nil
  have noStop : Text.ofString stop ≠ [] := closes ▸ markers.stop_ne_nil
  have apart : Text.ofString start ≠ Text.ofString stop :=
    fun same => markers.start_ne_stop (opens.trans (same.trans closes.symm))
  have started : start ≠ "" := fun nothing => noStart (by rw [nothing]; rfl)
  have stopped : stop ≠ "" := fun nothing => noStop (by rw [nothing]; rfl)
  have differ : start ≠ stop := fun same => apart (congrArg Text.ofString same)
  have made : Markers.ofTexts start stop = .ok markers := by
    rw [Markers.ofTexts, dif_neg (by simp [noStart, noStop]), dif_neg apart]
    simp only [← opens, ← closes]
  simp only [Plan.ofSettings, start_eq, stop_eq, head_eq, word_eq, Value.truthy, Value.same,
    started, stopped, differ, made, ne_eq, not_false_eq_true, decide_true, decide_false,
    Bool.not_true, Bool.or_self, Bool.false_eq_true, if_false]
  rfl

namespace Settings

variable {settings : Settings}

theorem checkMarkers_of_accepted (accepted : settings.check.1 = .ok []) :
    settings.checkMarkers = [] := by
  rw [check] at accepted
  split at accepted
  · cases accepted
  next problems path inspected =>
    cases accepted
    rw [inspect] at inspected
    split at inspected
    · cases inspected
    obtain ⟨extensions, -, inspected⟩ := Operation.bind_eq_ok_iff.mp inspected
    split at inspected
    · cases inspected
    obtain ⟨path?, -, inspected⟩ := Operation.bind_eq_ok_iff.mp inspected
    obtain ⟨none, -⟩ := Prod.mk.inj (Except.ok.inj inspected)
    simp only [Settings.problems, List.append_eq_nil_iff] at none
    exact none.1.1.1.1

theorem exists_ready_of_accepted (room : Nat) {extensions : List String}
    (textual : settings.IsTextual extensions)
    (accepted : settings.check.1 = .ok []) :
    ∃ sweep, Plan.ofSettings room settings = .ok (.ready sweep) := by
  have fine := checkMarkers_of_accepted accepted
  obtain ⟨start, start_eq⟩ := textual.start
  obtain ⟨stop, stop_eq⟩ := textual.stop
  obtain ⟨head, head_eq⟩ := textual.head
  obtain ⟨word, word_eq⟩ := textual.word
  simp only [checkMarkers, mustNotBeEmpty, start_eq, stop_eq, Value.truthy, Value.same,
    List.append_eq_nil_iff, ite_eq_left_iff, ite_eq_right_iff, List.cons_ne_nil, imp_false,
    Classical.not_not, Bool.and_eq_true, decide_eq_true_eq, not_and] at fine
  obtain ⟨⟨noStart, noStop⟩, apart⟩ := fine
  have apart : start ≠ stop := apart noStart
  have named {text : String} (something : text ≠ "") : Text.ofString text ≠ [] :=
    fun nothing => something (Text.ofString_injective nothing)
  exact ⟨_, Plan.ofSettings_eq_ready room ⟨start, stop, named noStart, named noStop,
    fun same => apart (Text.ofString_injective same)⟩ start_eq stop_eq head_eq word_eq rfl rfl⟩

end Settings

theorem Batch.extensionTexts_of_textual {settings : Settings} {extensions : List String}
    (textual : settings.IsTextual extensions) :
    Batch.extensionTexts settings = .ok extensions := by
  obtain ⟨node, given⟩ := textual.extensions_eq
  rw [Batch.extensionTexts, given]
  simp only [Option.bind_some, Value.items?_of_texts, List.mapM_map, Function.comp_def]
  have texts : extensions.mapM (fun text => (.ok (some text) : Except Fault (Option String))) =
      .ok (extensions.map some) := List.mapM_pure
  rw [texts]
  simp [bind, Except.bind, pure, Except.pure]

end WarningSweep
