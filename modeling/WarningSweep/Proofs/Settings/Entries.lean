import Mathlib.Tactic.SplitIfs
import WarningSweep.Proofs.Batch.Plan
import WarningSweep.Settings.Document

/-!
# Settings from the entries of a map

Every entry of a map is stored under its name.  Besides the nine settings, some names reach further:
the value of an operation's name takes its place, one name stands for all settings at once, and two
take no value.  Where none of these is given, the settings are the standard ones with what the map
has for the nine, and nothing else in the map can be seen in them.
-/

namespace WarningSweep.Settings

namespace Field

theorem ofKey?_key (field : Field) : ofKey? field.key = some field := by
  cases field <;> decide

theorem key_of_ofKey? {key : String} {field : Field} (found : ofKey? key = some field) :
    key = field.key := by
  have matched := List.find?_some found
  exact (of_decide_eq_true matched).symm

theorem reserved?_key (field : Field) : reserved? field.key = none := by
  cases field <;> decide

end Field

theorem reserved?_cases (key : String) :
    (key ∈ ["validate", "to_dict", "save_yaml", "from_dict", "from_yaml"] ∧
      reserved? key = some .operation) ∨
    (key = "__dict__" ∧ reserved? key = some .whole) ∨
    (key = "__class__" ∧ reserved? key = some .closed) ∨
    (key = "__weakref__" ∧ reserved? key = some .sealed) ∨
    reserved? key = some .idle ∨ reserved? key = none := by
  unfold reserved?
  split_ifs with operation whole closed isSealed idle
  · exact .inl ⟨List.contains_iff_mem.mp operation, rfl⟩
  · exact .inr (.inl ⟨whole, rfl⟩)
  · exact .inr (.inr (.inl ⟨closed, rfl⟩))
  · exact .inr (.inr (.inr (.inl ⟨isSealed, rfl⟩)))
  · exact .inr (.inr (.inr (.inr (.inl rfl))))
  · exact .inr (.inr (.inr (.inr (.inr rfl))))

/-- The names under which a value disturbs the settings or the operations on them. -/
def disturbing : List String :=
  ["validate", "to_dict", "save_yaml", "__dict__", "__class__", "__weakref__"]

variable {settings after : Settings} {key : String} {value : Value}

theorem get?_set (settings : Settings) (field other : Field) (value : Value) :
    (settings.set field value).get? other =
      if other = field then some value else settings.get? other := by
  cases field <;> cases other <;> rfl

theorem others_set (settings : Settings) (field : Field) (value : Value) :
    (settings.set field value).others = settings.others := by
  cases field <;> rfl

theorem knows_key (settings : Settings) (complete : settings.extensions.isSome) (field : Field) :
    settings.knows field.key = true := by
  rw [knows, Field.ofKey?_key]
  cases field <;> first | rfl | exact complete

theorem storeEntry_key (complete : settings.extensions.isSome) (field : Field) (value : Value) :
    settings.storeEntry field.key value = (.ok (settings.set field value), []) := by
  unfold storeEntry
  rw [Field.reserved?_key]
  simp only [knows_key settings complete, Field.ofKey?_key, if_true]

/-- An entry under another name that does not disturb changes none of the nine values. -/
theorem storeEntry_of_quiet (settings : Settings) (quiet : key ∉ disturbing)
    (unknown : Field.ofKey? key = none) (value : Value) :
    ∃ names log, (∀ name ∈ names, name ∉ disturbing) ∧
      settings.storeEntry key value =
        (.ok { settings with others := names ++ settings.others }, log) := by
  unfold storeEntry
  rcases reserved?_cases key with ⟨operation, kind⟩ | ⟨rfl, -⟩ | ⟨rfl, -⟩ | ⟨rfl, -⟩ | kind | kind
  · rw [kind]
    exact ⟨[key], [], by simpa using quiet, rfl⟩
  · simp [disturbing] at quiet
  · simp [disturbing] at quiet
  · simp [disturbing] at quiet
  · rw [kind]
    exact ⟨[], [], by simp, rfl⟩
  · rw [kind]
    by_cases known : settings.knows key = true
    · simp only [known, unknown, if_true]
      exact ⟨[], [], by simp, rfl⟩
    · simp only [known]
      exact ⟨[], _, by simp, rfl⟩

def named (entries : List (String × Value)) : List (Value × Value) :=
  entries.map fun entry => (.str entry.1, entry.2)

theorem storeEntries_named_cons (settings : Settings) (entry : String × Value)
    (rest : List (String × Value)) :
    settings.storeEntries (named (entry :: rest)) =
      match settings.storeEntry entry.1 entry.2 with
      | (.error fault, log) => (.error fault, log)
      | (.ok after, log) =>
        ((after.storeEntries (named rest)).1, log ++ (after.storeEntries (named rest)).2) := rfl

theorem lookup_of_ofKey?_eq_none (unknown : Field.ofKey? key = none) (field : Field)
    (rest : List (String × Value)) :
    ((key, value) :: rest).lookup field.key = rest.lookup field.key := by
  have apart : (field.key == key) = false := by
    apply beq_false_of_ne
    rintro rfl
    rw [Field.ofKey?_key] at unknown
    cases unknown
  rw [List.lookup_cons, apart]

theorem lookup_eq_none_of_notMem {entries : List (String × Value)}
    (missing : key ∉ entries.map Prod.fst) : entries.lookup key = none := by
  rw [List.lookup_eq_none_iff]
  intro entry member
  apply bne_iff_ne.mpr
  rintro rfl
  exact missing (List.mem_map_of_mem member)

/-- What a map without disturbing names leaves: its own values for the nine settings, and the old
ones for the others. -/
theorem storeEntries_of_quiet {entries : List (String × Value)} (settings : Settings)
    (complete : settings.extensions.isSome) (distinct : (entries.map Prod.fst).Nodup)
    (quiet : ∀ entry ∈ entries, entry.1 ∉ disturbing) :
    ∃ after log, settings.storeEntries (named entries) = (.ok after, log) ∧
      (∀ field, after.get? field = (entries.lookup (Field.key field)).or (settings.get? field)) ∧
      ∀ name ∈ disturbing, after.covers name = settings.covers name := by
  induction entries generalizing settings with
  | nil => exact ⟨settings, [], rfl, fun _ => rfl, fun _ _ => rfl⟩
  | cons entry rest inductionHypothesis =>
      obtain ⟨key, value⟩ := entry
      obtain ⟨fresh, distinctRest⟩ := List.nodup_cons.mp distinct
      have quietRest : ∀ entry ∈ rest, entry.1 ∉ disturbing := fun entry member =>
        quiet entry (List.mem_cons_of_mem _ member)
      rw [storeEntries_named_cons]
      cases known : Field.ofKey? key with
      | some field =>
          obtain rfl := Field.key_of_ofKey? known
          have stillComplete : (settings.set field value).extensions.isSome := by
            cases field <;> first | rfl | exact complete
          obtain ⟨after, log, stored, values, covered⟩ :=
            inductionHypothesis _ stillComplete distinctRest quietRest
          refine ⟨after, log, ?_, ?_, ?_⟩
          · rw [storeEntry_key complete]
            simp only [stored, List.nil_append]
          · intro other
            rw [values other, get?_set]
            by_cases same : other = field
            · subst same
              simp [lookup_eq_none_of_notMem fresh]
            · have apart : (other.key == field.key) = false := by
                apply beq_false_of_ne
                intro keys
                have found := Field.ofKey?_key other
                rw [keys, Field.ofKey?_key, Option.some.injEq] at found
                exact same found.symm
              simp [List.lookup_cons, apart, same]
          · intro name member
            rw [covered name member, covers, others_set, covers]
      | none =>
          obtain ⟨names, log, harmless, storedHere⟩ :=
            storeEntry_of_quiet settings (quiet _ List.mem_cons_self) known value
          obtain ⟨after, more, stored, values, covered⟩ := inductionHypothesis
            { settings with others := names ++ settings.others } complete distinctRest quietRest
          refine ⟨after, log ++ more, ?_, ?_, ?_⟩
          · rw [storedHere]
            simp only [stored]
          · intro other
            rw [lookup_of_ofKey?_eq_none known, values other]
            cases other <;> rfl
          · intro name member
            rw [covered name member]
            simp only [covers, List.contains_eq_mem, List.mem_append]
            have outside : name ∉ names := fun inside => harmless name inside member
            simp [outside]

section

variable {first second : Settings}

/-- Settings with the same nine values differ at most in the other names. -/
theorem eq_of_get?_eq (alike : ∀ field, first.get? field = second.get? field) :
    first = { second with others := first.others } := by
  obtain ⟨_, _, _, _, _, _, _, _, _, _⟩ := first
  have start := alike .startMarker
  have stop := alike .stopMarker
  have head := alike .warningHead
  have word := alike .literalWord
  have extensions := alike .extensions
  have dryRun := alike .dryRun
  have report := alike .reportFile
  have level := alike .logLevel
  have log := alike .logFile
  simp only [get?, Option.some.injEq] at start stop head word extensions dryRun report level log
  simp only [start, stop, head, word, extensions, dryRun, report, level, log]

variable (alike : ∀ field, first.get? field = second.get? field)

include alike

theorem toEntries_congr (covered : first.covers "to_dict" = second.covers "to_dict") :
    first.toEntries = second.toEntries := by
  rw [eq_of_get?_eq alike] at covered ⊢
  unfold toEntries
  rw [covered]
  rfl

theorem check_congr (covered : first.covers "validate" = second.covers "validate") :
    first.check = second.check := by
  rw [eq_of_get?_eq alike] at covered ⊢
  unfold check inspect
  rw [covered]
  rfl

theorem save_congr (toEntries : first.covers "to_dict" = second.covers "to_dict")
    (save : first.covers "save_yaml" = second.covers "save_yaml") (path : String) :
    first.save path = second.save path := by
  unfold Settings.save
  rw [save, toEntries_congr alike toEntries]

end

/-- The standard settings with a map's own values for the nine over them, as they are shown. -/
def overridden (entries : List (String × Value)) : List (Field × Value) :=
  Field.all.map fun field =>
    let value := ((entries.lookup field.key).or (({} : Settings).get? field)).getD .null
    (field, if field = .extensions then .list none (value.items?.getD []) else value)

theorem toEntries_eq_overridden {entries : List (String × Value)}
    (listed : ∀ value, (Field.key .extensions, value) ∈ entries →
      ∃ node items, value = .list node items)
    (values : ∀ field, settings.get? field =
      (entries.lookup (Field.key field)).or (({} : Settings).get? field))
    (uncovered : settings.covers "to_dict" = false) :
    settings.toEntries = .ok (overridden entries) := by
  have shown : ∃ value items, settings.extensions = some value ∧ value.items? = some items := by
    have given : settings.extensions = _ := values .extensions
    cases found : entries.lookup (Field.key .extensions) with
    | none =>
        rw [found] at given
        exact ⟨_, _, given, rfl⟩
    | some value =>
        rw [found] at given
        obtain ⟨before, after, rfl, -⟩ := List.lookup_eq_some_iff.mp found
        obtain ⟨node, items, rfl⟩ := listed value (List.mem_append_right _ List.mem_cons_self)
        exact ⟨_, _, given, rfl⟩
  obtain ⟨value, items, given, listing⟩ := shown
  have items_eq : settings.extensionItems = .ok items := by
    rw [extensionItems, given]
    simp only [listing]
  rw [toEntries, uncovered, items_eq]
  have entry (field : Field) :
      (if field = .extensions then Value.list none items else (settings.get? field).getD .null) =
        if field = .extensions then
          .list none (((settings.get? field).getD .null).items?.getD [])
        else (settings.get? field).getD .null := by
    by_cases here : field = .extensions
    · subst here
      simp only [if_true, get?, given, Option.getD_some, listing]
    · simp only [here, if_false]
  simp only [overridden, ← values, ← entry]
  rfl

/-- The operations on settings that a value can take the place of. -/
def operations : List String := ["validate", "to_dict", "save_yaml"]

theorem reserved?_of_operation (operation : key ∈ operations) :
    reserved? key = some .operation := by
  simp only [operations, List.mem_cons, List.not_mem_nil, or_false] at operation
  rcases operation with rfl | rfl | rfl <;> decide

/-- Names under which every value is stored, and no other name is touched. -/
def IsOpen (key : String) : Prop := key ∉ ["__dict__", "__class__", "__weakref__"]

theorem storeEntry_of_open (settings : Settings) (isOpen : IsOpen key) (value : Value) :
    ∃ after log, settings.storeEntry key value = (.ok after, log) ∧
      (∀ name, settings.covers name = true → after.covers name = true) ∧
      (key ∈ operations → after.covers key = true) := by
  unfold storeEntry
  rcases reserved?_cases key with ⟨-, kind⟩ | ⟨rfl, -⟩ | ⟨rfl, -⟩ | ⟨rfl, -⟩ | kind | kind
  · rw [kind]
    refine ⟨_, _, rfl, ?_, ?_⟩
    · intro name covered
      simp only [covers, List.contains_iff_mem] at covered ⊢
      exact List.mem_cons_of_mem _ covered
    · intro _
      simp [covers]
  · simp [IsOpen] at isOpen
  · simp [IsOpen] at isOpen
  · simp [IsOpen] at isOpen
  · rw [kind]
    refine ⟨_, _, rfl, fun _ => id, ?_⟩
    intro operation
    rw [reserved?_of_operation operation] at kind
    cases kind
  · have apart : key ∉ operations := by
      intro operation
      rw [reserved?_of_operation operation] at kind
      cases kind
    rw [kind]
    by_cases known : settings.knows key = true
    · cases found : Field.ofKey? key with
      | none =>
          simp only [known, if_true]
          exact ⟨_, _, rfl, fun _ => id, fun operation => absurd operation apart⟩
      | some field =>
          simp only [known, if_true]
          refine ⟨_, _, rfl, ?_, fun operation => absurd operation apart⟩
          intro name covered
          rw [covers, others_set]
          exact covered
    · simp only [known]
      exact ⟨_, _, rfl, fun _ => id, fun operation => absurd operation apart⟩

/-- Entries with open names are all stored, and what follows is stored after them. -/
theorem storeEntries_of_open {entries : List (String × Value)} (settings : Settings)
    (isOpen : ∀ entry ∈ entries, IsOpen entry.1) (rest : List (String × Value)) :
    ∃ after : Settings,
      (settings.storeEntries (named (entries ++ rest))).1 = (after.storeEntries (named rest)).1 ∧
      (∀ name, settings.covers name = true → after.covers name = true) ∧
      ∀ name ∈ operations, name ∈ entries.map Prod.fst → after.covers name = true := by
  induction entries generalizing settings with
  | nil => exact ⟨settings, rfl, fun _ => id, by simp⟩
  | cons entry entries inductionHypothesis =>
      obtain ⟨key, value⟩ := entry
      obtain ⟨middle, log, stored, kept, covered⟩ :=
        storeEntry_of_open settings (isOpen _ List.mem_cons_self) value
      obtain ⟨after, same, keptLater, coveredLater⟩ := inductionHypothesis middle
        fun entry member => isOpen entry (List.mem_cons_of_mem _ member)
      refine ⟨after, ?_, fun name before => keptLater name (kept name before), ?_⟩
      · rw [List.cons_append, storeEntries_named_cons, stored]
        exact same
      · intro name operation member
        rcases List.mem_cons.mp member with rfl | later
        · exact keptLater _ (covered operation)
        · exact coveredLater name operation later

theorem storeEntries_of_refused {entries : List (String × Value)} (settings : Settings)
    (refused : ∀ settings : Settings, ∃ fault log,
      settings.storeEntry key value = (.error fault, log))
    (member : (key, value) ∈ entries) :
    ∃ fault, (settings.storeEntries (named entries)).1 = .error fault := by
  induction entries generalizing settings with
  | nil => simp at member
  | cons entry entries inductionHypothesis =>
      rw [storeEntries_named_cons]
      rcases List.mem_cons.mp member with rfl | later
      · obtain ⟨fault, log, failed⟩ := refused settings
        simp only [failed]
        exact ⟨fault, rfl⟩
      · rcases settings.storeEntry entry.1 entry.2 with ⟨fault | middle, log⟩
        · exact ⟨fault, rfl⟩
        · exact inductionHypothesis middle later

def ownEntries (entries : List (String × Value)) : List (String × Value) :=
  entries.filter fun entry => (Field.ofKey? entry.1).isSome

theorem lookup_ownEntries (entries : List (String × Value)) (field : Field) :
    (ownEntries entries).lookup field.key = entries.lookup field.key := by
  induction entries with
  | nil => rfl
  | cons entry rest inductionHypothesis =>
      obtain ⟨key, value⟩ := entry
      cases known : Field.ofKey? key with
      | none =>
          rw [lookup_of_ofKey?_eq_none known, ← inductionHypothesis]
          simp [ownEntries, known]
      | some other =>
          simp only [ownEntries] at inductionHypothesis ⊢
          simp [known, List.lookup_cons, inductionHypothesis]

theorem quiet_ownEntries {entries : List (String × Value)} :
    ∀ entry ∈ ownEntries entries, entry.1 ∉ disturbing := by
  intro entry member
  obtain ⟨field, known⟩ := Option.isSome_iff_exists.mp (List.mem_filter.mp member).2
  rw [Field.key_of_ofKey? known]
  cases field <;> decide

/-- What becomes of the entries of a map.  Where none has a disturbing name, all are stored; the
settings are shown as the standard ones with the map's values for the nine, and no operation tells
them from the settings of these entries alone.  Otherwise an operation whose name is given fails;
the two names that take no value, and the one for all settings with anything but a map, end the
loading; and all settings at once make those given before forgotten. -/
theorem ofValue_entries (node : Option Nat) (entries : List (String × Value))
    (distinct : (entries.map Prod.fst).Nodup)
    (listed : ∀ value, (Field.key .extensions, value) ∈ entries →
      ∃ node items, value = .list node items) :
    ((∀ name ∈ disturbing, name ∉ entries.map Prod.fst) →
      ∃ settings plain, (ofValue (.map node (named entries))).1 = .ok settings ∧
        (ofValue (.map node (named (ownEntries entries)))).1 = .ok plain ∧
        settings.toEntries = .ok (overridden entries) ∧ plain.toEntries = settings.toEntries ∧
        plain.check = settings.check ∧ ∀ path, plain.save path = settings.save path) ∧
    ((∀ entry ∈ entries, IsOpen entry.1) →
      ∃ settings, (ofValue (.map node (named entries))).1 = .ok settings ∧
        ("to_dict" ∈ entries.map Prod.fst → settings.toEntries = .error .wrongKind) ∧
        ("validate" ∈ entries.map Prod.fst → settings.check = (.error .wrongKind, [])) ∧
        ("save_yaml" ∈ entries.map Prod.fst → ∀ path files,
          settings.save path files = (.error .wrongKind, files))) ∧
    (∀ name value, (name, value) ∈ entries →
      name = "__class__" ∨ name = "__weakref__" ∨
        (name = "__dict__" ∧ ∀ whole inner, value ≠ .map whole inner) →
      ∃ fault, (ofValue (.map node (named entries))).1 = .error fault) ∧
    ∀ before whole inner after, entries = before ++ ("__dict__", .map whole inner) :: after →
      (∀ name ∈ ["__class__", "__weakref__"], name ∉ before.map Prod.fst) →
      (ofValue (.map node (named entries))).1 =
        (ofValue (.map node (named (("__dict__", .map whole inner) :: after)))).1 := by
  refine ⟨?_, ?_, ?_, ?_⟩
  · intro quiet
    obtain ⟨settings, log, stored, values, covered⟩ := storeEntries_of_quiet {} rfl distinct
      fun entry member disturbs => quiet entry.1 disturbs (List.mem_map_of_mem member)
    have distinctOwn : ((ownEntries entries).map Prod.fst).Nodup :=
      (List.filter_sublist.map _).nodup distinct
    obtain ⟨plain, plainLog, plainStored, plainValues, plainCovered⟩ :=
      storeEntries_of_quiet {} rfl distinctOwn quiet_ownEntries
    have alike : ∀ field, plain.get? field = settings.get? field := by
      intro field
      rw [plainValues, values, lookup_ownEntries]
    have same (name : String) (member : name ∈ disturbing) :
        plain.covers name = settings.covers name :=
      (plainCovered name member).trans (covered name member).symm
    refine ⟨settings, plain, congrArg Prod.fst stored, congrArg Prod.fst plainStored,
      ?_, ?_, ?_, ?_⟩
    · exact toEntries_eq_overridden listed values (covered "to_dict" (by decide))
    · exact toEntries_congr alike (same "to_dict" (by decide))
    · exact check_congr alike (same "validate" (by decide))
    · exact save_congr alike (same "to_dict" (by decide)) (same "save_yaml" (by decide))
  · intro isOpen
    obtain ⟨settings, stored, -, covered⟩ := storeEntries_of_open {} isOpen []
    rw [List.append_nil] at stored
    refine ⟨settings, stored, ?_, ?_, ?_⟩
    · intro given
      rw [toEntries, covered "to_dict" (by decide) given]
      rfl
    · intro given
      rw [check, inspect, covered "validate" (by decide) given]
      rfl
    · intro given path files
      rw [save, covered "save_yaml" (by decide) given]
      rfl
  · rintro name value member kind
    apply storeEntries_of_refused {} _ member
    intro settings
    rcases kind with rfl | rfl | ⟨rfl, other⟩
    · exact ⟨_, _, rfl⟩
    · exact ⟨_, _, rfl⟩
    · cases value with
      | map whole inner => exact absurd rfl (other whole inner)
      | _ => exact ⟨_, _, rfl⟩
  · rintro before whole inner after rfl closed
    have isOpen : ∀ entry ∈ before, IsOpen entry.1 := by
      intro entry member
      have here := List.mem_map_of_mem (f := Prod.fst) member
      rw [List.map_append, List.nodup_append] at distinct
      simp only [IsOpen, List.mem_cons, List.not_mem_nil, or_false, not_or]
      refine ⟨?_, fun same => closed _ (by decide) (same ▸ here),
        fun same => closed _ (by decide) (same ▸ here)⟩
      exact distinct.2.2 _ here _ List.mem_cons_self
    obtain ⟨settings, stored, -⟩ :=
      storeEntries_of_open {} isOpen (("__dict__", .map whole inner) :: after)
    exact stored

/-- A setting, a name that means nothing, and one that every value has: only the setting is seen. -/
theorem ofValue_entries_of_one_setting :
    let entries :=
      [("unknown", Value.int 1), ("warning_prefix", .str "// CHECK"), ("__doc__", .null)]
    ∃ settings, (ofValue (.map none (named entries))).1 = .ok settings ∧
      settings.toEntries = .ok (overridden [("warning_prefix", .str "// CHECK")]) := by
  intro entries
  obtain ⟨undisturbed, -⟩ := ofValue_entries none entries (by decide) (by
    intro value member
    simp [entries, Field.key] at member)
  obtain ⟨settings, plain, stored, -, shown, -⟩ := undisturbed (by decide)
  exact ⟨settings, stored, shown⟩

/-- A value under the name of the operation that shows settings is stored, and they can no longer be
shown. -/
theorem covered_operation_fails :
    ∃ settings, (ofValue (.map none [(.str "to_dict", .int 1)])).1 = .ok settings ∧
      settings.toEntries = .error .wrongKind :=
  ⟨{ others := ["to_dict"] }, rfl, rfl⟩

end WarningSweep.Settings
