import WarningSweep.Proofs.Files.Write
import WarningSweep.Proofs.Settings.Entries
import WarningSweep.Proofs.Yaml.RoundTrip

/-!
# Saved settings are loaded again

Settings whose texts are printable are written as a document that is read as the same mapping.  What
is left out of it are file names that are not set, and these are not set in the standard settings
either.
-/

namespace WarningSweep.Settings

open Operation
open scoped Yaml
open Yaml (IsBasic IsEntry Renumbers)

/-- A text of printable ASCII characters. -/
def IsPrintableText (s : String) : Prop := ∀ c ∈ s.toList, IsPrintable c

instance (s : String) : Decidable (IsPrintableText s) :=
  inferInstanceAs (Decidable (∀ c ∈ s.toList, IsPrintable c))

/-- Settings whose texts are printable: the file names may be missing, and the extensions are
whatever gives texts one by one. -/
structure ArePrintable (settings : Settings) (extensions : List String) : Prop where
  text : ∀ field ∈ [Field.startMarker, .stopMarker, .warningHead, .literalWord, .logLevel],
    ∃ s, settings.get? field = some (.str s) ∧ IsPrintableText s
  extensions_eq : settings.extensionItems = .ok (extensions.map Value.str)
  extension : ∀ s ∈ extensions, IsPrintableText s
  dryRun : ∃ b, settings.dryRun = .bool b
  file : ∀ field ∈ [Field.reportFile, .logFile],
    settings.get? field = some .null ∨
      ∃ s, s ≠ "" ∧ settings.get? field = some (.str s) ∧ IsPrintableText s

def shown (settings : Settings) (extensions : List String) (field : Field) : Value :=
  if field = .extensions then .list none (extensions.map Value.str)
  else (settings.get? field).getD .null

def document (settings : Settings) (extensions : List String) : List (String × Value) :=
  ((Field.all.map fun field => (field, settings.shown extensions field)).filter isWritten).map
    fun entry => (entry.1.key, entry.2)

theorem Field.isKey_key (field : Field) : Yaml.IsKey field.key.toList where
  ne_nil := by cases field <;> decide
  letters := by cases field <;> decide
  short := by cases field <;> decide

theorem Field.ofPlain_key (field : Field) : Yaml.Tag.ofPlain field.key = .str := by
  cases field <;> decide

theorem Field.key_notMem_disturbing (field : Field) : field.key ∉ disturbing := by
  cases field <;> decide

theorem Field.key_injective {field other : Field} (same : field.key = other.key) :
    field = other := by
  have found := ofKey?_key field
  rw [same, ofKey?_key, Option.some.injEq] at found
  exact found.symm

section

variable {settings : Settings} {extensions : List String}

theorem toEntries_eq_shown (own : settings.covers "to_dict" = false)
    (listed : settings.extensionItems = .ok (extensions.map Value.str)) :
    settings.toEntries =
      .ok (Field.all.map fun field => (field, settings.shown extensions field)) := by
  rw [toEntries, own, listed]
  rfl

inductive Shows (extensions : List String) : Field → Value → Prop
  | text {field : Field} {s : String} : IsPrintableText s → isWritten (field, .str s) = true →
      Shows extensions field (.str s)
  | flag (b : Bool) : Shows extensions .dryRun (.bool b)
  | list : (∀ s ∈ extensions, IsPrintableText s) →
      Shows extensions .extensions (.list none (extensions.map Value.str))
  | unset {field : Field} : isWritten (field, .null) = false →
      ({} : Settings).get? field = some .null → Shows extensions field .null

theorem Shows.isBasic {field : Field} {v : Value} (shows : Shows extensions field v)
    (written : isWritten (field, v) = true) : IsBasic v := by
  cases shows with
  | text isPrintable _ => exact .str isPrintable
  | flag b => exact .bool b
  | list isPrintable => exact .list isPrintable
  | unset unwritten _ =>
      rw [written] at unwritten
      cases unwritten

theorem Shows.of_unwritten {field : Field} {v : Value} (shows : Shows extensions field v)
    (unwritten : isWritten (field, v) = false) : ({} : Settings).get? field = some v := by
  cases shows with
  | text _ written =>
      rw [written] at unwritten
      cases unwritten
  | flag b => cases unwritten
  | list _ => cases unwritten
  | unset _ standard => exact standard

theorem Shows.ne_list {field : Field} {v : Value} (shows : Shows extensions field v)
    (other : field ≠ .extensions) (node : Option Nat) (items : List Value) :
    v ≠ .list node items := by
  cases shows with
  | list _ => exact absurd rfl other
  | _ => simp

theorem ArePrintable.shows (printable : settings.ArePrintable extensions) (field : Field) :
    Shows extensions field (settings.shown extensions field) := by
  have ofText (member : field ∈ [Field.startMarker, .stopMarker, .warningHead,
      .literalWord, .logLevel]) :
      Shows extensions field (settings.shown extensions field) := by
    obtain ⟨s, given, isPrintable⟩ := printable.text field member
    have apart : field ≠ .extensions ∧ field ≠ .reportFile ∧ field ≠ .logFile := by
      revert member
      cases field <;> decide
    rw [shown, if_neg apart.1, given]
    exact .text isPrintable (by simp [isWritten, apart])
  have ofFile (member : field ∈ [Field.reportFile, .logFile]) :
      Shows extensions field (settings.shown extensions field) := by
    have apart : field ≠ .extensions ∧ isWritten (field, .null) = false ∧
        ({} : Settings).get? field = some .null := by
      simp only [List.mem_cons, List.not_mem_nil, or_false] at member
      rcases member with rfl | rfl <;> exact ⟨by decide, rfl, rfl⟩
    rw [shown, if_neg apart.1]
    rcases printable.file field member with given | ⟨s, named, given, isPrintable⟩
    · rw [given]
      exact .unset apart.2.1 apart.2.2
    · rw [given]
      exact .text isPrintable (by simp [isWritten, Value.truthy, named])
  cases field with
  | extensions => exact .list printable.extension
  | dryRun =>
      obtain ⟨b, given⟩ := printable.dryRun
      rw [shown, if_neg (by decide), get?, given]
      exact .flag b
  | reportFile => exact ofFile (by decide)
  | logFile => exact ofFile (by decide)
  | _ => exact ofText (by decide)

/-! ## The document -/

theorem lookup_document (settings : Settings) (extensions : List String) (field : Field) :
    (settings.document extensions).lookup field.key =
      if isWritten (field, settings.shown extensions field) then
        some (settings.shown extensions field)
      else none := by
  have listed (fields : List Field) :
      (((fields.map fun field => (field, settings.shown extensions field)).filter isWritten).map
        fun entry => (entry.1.key, entry.2)).lookup field.key =
        if field ∈ fields ∧ isWritten (field, settings.shown extensions field) = true then
          some (settings.shown extensions field)
        else none := by
    induction fields with
    | nil => simp
    | cons other fields inductionHypothesis =>
        by_cases same : field = other
        · subst same
          by_cases written : isWritten (field, settings.shown extensions field) = true
          · simp [List.filter_cons_of_pos written, written]
          · rw [List.map_cons, List.filter_cons_of_neg written, inductionHypothesis]
            simp [written]
        · have apart : (field.key == other.key) = false :=
            beq_false_of_ne fun keys => same (Field.key_injective keys)
          by_cases written : isWritten (other, settings.shown extensions other) = true
          · rw [List.map_cons, List.filter_cons_of_pos written, List.map_cons, List.lookup_cons,
              apart, inductionHypothesis]
            simp [same]
          · rw [List.map_cons, List.filter_cons_of_neg written, inductionHypothesis]
            simp [same]
  have all : field ∈ Field.all := by cases field <;> decide
  rw [document, listed]
  simp [all]

theorem exists_of_mem_document {entry : String × Value}
    (member : entry ∈ settings.document extensions) :
    ∃ field, isWritten (field, settings.shown extensions field) = true ∧
      entry = (Field.key field, settings.shown extensions field) := by
  obtain ⟨pair, kept, rfl⟩ := List.mem_map.mp member
  obtain ⟨inside, written⟩ := List.mem_filter.mp kept
  obtain ⟨field, -, rfl⟩ := List.mem_map.mp inside
  exact ⟨field, written, rfl⟩

theorem isEntry_document (printable : settings.ArePrintable extensions) :
    ∀ entry ∈ settings.document extensions, IsEntry entry := by
  intro entry member
  obtain ⟨field, written, rfl⟩ := exists_of_mem_document member
  exact ⟨field.isKey_key, field.ofPlain_key, (printable.shows field).isBasic written⟩

theorem nodup_document (settings : Settings) (extensions : List String) :
    ((settings.document extensions).map Prod.fst).Nodup := by
  have keys : (Field.all.map Field.key).Nodup := by decide
  have part : ((settings.document extensions).map Prod.fst).Sublist (Field.all.map Field.key) := by
    have kept := (List.filter_sublist (p := isWritten)
      (l := Field.all.map fun field => (field, settings.shown extensions field))).map
        fun entry => Field.key entry.1
    simpa [document, Function.comp_def] using kept
  exact part.nodup keys

theorem document_ne_nil (settings : Settings) (extensions : List String) :
    settings.document extensions ≠ [] := by
  intro none
  have found := lookup_document settings extensions .dryRun
  rw [none] at found
  cases found

theorem content_of_printable (settings : Settings) (extensions : List String) :
    content (Field.all.map fun field => (field, settings.shown extensions field)) =
      .map none (named (settings.document extensions)) := by
  rw [content, named, document, List.map_map]
  rfl

/-! ## Loading -/

theorem rel_lookup_renumbered {entries : List (String × Value)} {found : List Value}
    (renumbers : List.Forall₂ Renumbers (entries.map Prod.snd) found) (key : String) :
    Option.Rel Renumbers (entries.lookup key) (((entries.map Prod.fst).zip found).lookup key) := by
  induction entries generalizing found with
  | nil =>
      cases renumbers
      exact .none
  | cons entry entries inductionHypothesis =>
      cases renumbers with
      | cons first rest =>
          rw [List.map_cons, List.zip_cons_cons, List.lookup_cons, List.lookup_cons]
          cases key == entry.1
          · exact inductionHypothesis rest
          · exact .some first

/-- What is loaded for a setting is what was shown, but for the number of the extensions. -/
theorem renumbers_shown (printable : settings.ArePrintable extensions) {found : List Value}
    (renumbers : List.Forall₂ Renumbers ((settings.document extensions).map Prod.snd) found)
    (field : Field) :
    ∃ w, ((((settings.document extensions).map Prod.fst).zip found).lookup field.key).or
        (({} : Settings).get? field) = some w ∧
      Renumbers (settings.shown extensions field) w := by
  have related := rel_lookup_renumbered renumbers field.key
  rw [lookup_document] at related
  generalize (((settings.document extensions).map Prod.fst).zip found).lookup field.key = other
    at related
  cases written : isWritten (field, settings.shown extensions field) with
  | true =>
      rw [written, if_pos rfl] at related
      cases related with
      | some renumbered => exact ⟨_, rfl, renumbered⟩
  | false =>
      rw [written, if_neg Bool.false_ne_true] at related
      cases related
      exact ⟨_, (printable.shows field).of_unwritten written, .inl rfl⟩

/-- The document of printable settings is read as a mapping of the same names. -/
theorem exists_readDocument (printable : settings.ArePrintable extensions) {files : Files}
    {path : String}
    (read : files.read path = .ok (encodeString
      (Yaml.print (.map none (named (settings.document extensions)))))) :
    ∃ node entries, readDocument files path = .ok (.map node (named entries)) ∧
      entries.map Prod.fst = (settings.document extensions).map Prod.fst ∧
      ∀ field : Field, ∃ w, (entries.lookup field.key).or (({} : Settings).get? field) = some w ∧
        Renumbers (settings.shown extensions field) w := by
  obtain ⟨node, found, parsed, renumbers⟩ := Yaml.exists_load_print
    (document_ne_nil settings extensions) (nodup_document settings extensions)
    (isEntry_document printable)
  have length_eq := renumbers.length_eq
  rw [List.length_map] at length_eq
  have named_eq : ((settings.document extensions).map fun entry => Value.str entry.1).zip found =
      named (((settings.document extensions).map Prod.fst).zip found) := by
    rw [named, List.zip_map_left, List.zip_map_left, List.map_map]
    rfl
  rw [named_eq] at parsed
  refine ⟨node, ((settings.document extensions).map Prod.fst).zip found, ?_,
    List.map_fst_zip (by simp [length_eq]), renumbers_shown printable renumbers⟩
  rw [named] at read
  generalize encodeString (Yaml.print _) = bytes at read parsed
  rw [readDocument, read]
  simp only [Except.mapError, bind, Except.bind, parsed]

/-- The document of printable settings is loaded as settings that are shown in the same way. -/
theorem exists_load (printable : settings.ArePrintable extensions) {files : Files} {path : String}
    (read : files.read path = .ok (encodeString
      (Yaml.print (.map none (named (settings.document extensions)))))) :
    ∃ loaded log, load files none path = (.ok loaded, log) ∧
      loaded.toEntries = .ok (Field.all.map fun field =>
        (field, settings.shown extensions field)) := by
  obtain ⟨node, entries, read_eq, keys_eq, shown⟩ := exists_readDocument printable read
  have quiet : ∀ entry ∈ entries, entry.1 ∉ disturbing := by
    intro entry member
    have inside : entry.1 ∈ (settings.document extensions).map Prod.fst :=
      keys_eq ▸ List.mem_map_of_mem member
    obtain ⟨other, isOther, same⟩ := List.mem_map.mp inside
    obtain ⟨field, -, rfl⟩ := exists_of_mem_document isOther
    rw [← same]
    exact field.key_notMem_disturbing
  obtain ⟨loaded, log, stored, values, covered⟩ := storeEntries_of_quiet {} rfl
    (keys_eq ▸ nodup_document settings extensions) quiet
  have truthy : (Value.map node (named entries)).truthy = true := by
    have some : entries ≠ [] := by
      rintro rfl
      exact document_ne_nil settings extensions (List.map_eq_nil_iff.mp keys_eq.symm)
    simpa [Value.truthy, named] using some
  have listed : loaded.extensionItems = .ok (extensions.map Value.str) := by
    obtain ⟨w, given, renumbered⟩ := shown .extensions
    rw [← values] at given
    have list_eq : ∃ number, w = .list number (extensions.map Value.str) := by
      rcases renumbered with rfl | ⟨first, second, items, same, rfl⟩
      · exact ⟨none, rfl⟩
      · cases same
        exact ⟨second, rfl⟩
    obtain ⟨number, rfl⟩ := list_eq
    change loaded.extensions = _ at given
    rw [extensionItems, given]
    simp only [Value.items?_of_texts]
  refine ⟨loaded, log ++ [Log.Channel.config.info s!"Configuration loaded from {path}"], ?_, ?_⟩
  · rw [load, read_eq]
    simp only [truthy, if_true, ofValue, stored]
    rfl
  · rw [toEntries_eq_shown (covered "to_dict" (by decide)) listed]
    refine congrArg Except.ok (List.map_congr_left fun field _ => congrArg (Prod.mk field) ?_)
    by_cases here : field = .extensions
    · rw [here, Settings.shown, Settings.shown, if_pos rfl, if_pos rfl]
    · obtain ⟨w, given, renumbered⟩ := shown field
      rw [← values] at given
      rcases renumbered with same | ⟨first, second, items, same, -⟩
      · rw [Settings.shown, if_neg here, given, same]
        rfl
      · exact absurd same ((printable.shows field).ne_list here first items)

/-! ## Saving -/

/-- The document's place is made ready: the directories are there and the file can be opened. -/
def makeReady (path : String) : FileAction Unit := do
  Files.ensureDirectories (Path.ofString path).parent
  Files.write path []

theorem writableAll_texts (texts : List String) :
    Value.writableAll (texts.map Value.str) = true := by
  induction texts with
  | nil => rfl
  | cons s texts inductionHypothesis =>
      simp [Value.writableAll, Value.writable, inductionHypothesis]

theorem writable_of_isBasic {v : Value} (basic : IsBasic v) : v.writable = true := by
  cases basic with
  | str _ => rfl
  | bool b => rfl
  | list _ => simp [Value.writable, writableAll_texts]

theorem writableEntries_named {entries : List (String × Value)}
    (isEntry : ∀ entry ∈ entries, IsEntry entry) :
    Value.writableEntries (named entries) = true := by
  induction entries with
  | nil => rfl
  | cons entry entries inductionHypothesis =>
      obtain ⟨first, rest⟩ := List.forall_mem_cons.mp isEntry
      have value := writable_of_isBasic first.basic
      simpa [named, Value.writableEntries, Value.writable, value] using inductionHypothesis rest

theorem ofFileAction_apply {α : Type} (action : FileAction α) (files : Files) :
    ofFileAction action files = ((action files).1.mapError Fault.file, (action files).2) := rfl

/-- Printable settings are saved step by step: nothing in them stops the document. -/
theorem save_of_printable (printable : settings.ArePrintable extensions) (path : String)
    (files : Files) :
    settings.save path files =
      if settings.covers "save_yaml" then (.error .wrongKind, files)
      else
        match Files.ensureDirectories (Path.ofString path).parent files with
        | (.error fault, middle) => (.error (.file fault), middle)
        | (.ok (), middle) =>
          if settings.covers "to_dict" then (.error .wrongKind, middle)
          else
            match Files.write path (encodeString
                (Yaml.print (.map none (named (settings.document extensions))))) middle with
            | (.error fault, after) => (.error (.file fault), after)
            | (.ok (), after) =>
              (.ok (Log.Channel.config.info s!"Configuration saved to {path}"), after) := by
  have writable : (Value.map none (named (settings.document extensions))).writable = true := by
    rw [Value.writable]
    exact writableEntries_named (isEntry_document printable)
  rw [save]
  cases settings.covers "save_yaml" with
  | true => rfl
  | false =>
      simp only [Bool.false_eq_true, if_false, bind_apply, ofFileAction_apply]
      rcases Files.ensureDirectories (Path.ofString path).parent files with ⟨_ | _, middle⟩
      · rfl
      · cases shadowed : settings.covers "to_dict" with
        | true =>
            have refused : settings.toEntries = .error .wrongKind := by
              rw [toEntries, shadowed]
              rfl
            simp [Except.mapError, refused]
        | false =>
            simp only [Except.mapError, bind_apply, pure_apply, liftM_apply, ofFileAction_apply,
              toEntries_eq_shown shadowed printable.extensions_eq, content_of_printable, writable,
              Bool.not_true, Bool.false_eq_true, if_false]
            rcases Files.write path _ middle with ⟨_ | _, after⟩ <;> rfl

/-- Settings of printable texts are saved wherever their file can be opened, and the saved document
is loaded as settings that are shown in the same way. -/
theorem load_of_save (printable : settings.ArePrintable extensions) (path : String)
    (files : Files) :
    ((∃ record, (settings.save path files).1 = .ok record) ↔
      settings.covers "save_yaml" = false ∧ settings.covers "to_dict" = false ∧
        (makeReady path files).1 = .ok ()) ∧
    ∀ record after, settings.save path files = (.ok record, after) →
      ∃ loaded log entries, load after none path = (.ok loaded, log) ∧
        settings.toEntries = .ok entries ∧ loaded.toEntries = .ok entries := by
  rw [save_of_printable printable, makeReady, bind_apply]
  cases settings.covers "save_yaml" with
  | true => exact ⟨by simp, nofun⟩
  | false =>
      rcases Files.ensureDirectories (Path.ofString path).parent files with ⟨_ | _, middle⟩
      · exact ⟨by simp, nofun⟩
      · cases shadowed : settings.covers "to_dict" with
        | true => exact ⟨by simp, nofun⟩
        | false =>
            dsimp only
            rw [Files.write_fst_eq path []
              (encodeString (Yaml.print (.map none (named (settings.document extensions)))))]
            cases written : Files.write path _ middle with
            | mk result after =>
              cases result with
              | error fault => exact ⟨by simp, nofun⟩
              | ok done =>
                  refine ⟨by simp, ?_⟩
                  rintro record last ⟨⟩
                  obtain ⟨loaded, log, loads, entries⟩ :=
                    exists_load printable (Files.read_of_write written)
                  exact ⟨loaded, log, _, loads,
                    toEntries_eq_shown shadowed printable.extensions_eq, entries⟩

end

/-- Settings whose texts look like other values, hold signs of the document or are folded. -/
def confusable : Settings where
  startMarker := .str "yes"
  stopMarker := .str ""
  warningHead := .str "<<"
  literalWord := .str "012"
  extensions := some (.list (some 7) (["1:30", "it's: # - ", ".m"].map Value.str))
  logLevel := .str (String.ofList (List.replicate 40 ['a', ' ', '\'']).flatten)
  reportFile := .str "null"

/-- Where there are no files yet, the directory of the document is made. -/
theorem makeReady_out : (makeReady "out/settings.yml" {}).1 = .ok () := by
  have directory : admitPath (Path.mk 0 ["out"]).text = .ok () :=
    admitPath_eq_ok_iff.mpr (by decide +kernel)
  have file : admitPath "out/settings.yml" = .ok () := admitPath_eq_ok_iff.mpr (by decide +kernel)
  have parent : (Path.ofString "out/settings.yml").parent = ⟨0, ["out"]⟩ := by decide +kernel
  have ensured : Files.ensureDirectories ⟨0, ["out"]⟩ {} =
      (.ok (), Files.put {} ["out"] .directory) := by
    apply Files.ensureDirectories_of_makeDirectory
    rw [Files.makeDirectory, directory]
    rfl
  have opened : ((Files.put {} ["out"] .directory).openPlace "out/settings.yml").isOk = true := by
    rw [Files.openPlace, file]
    decide +kernel
  rw [makeReady, bind_apply, parent, ensured]
  dsimp only
  rw [Files.write_apply]
  cases place : (Files.put {} ["out"] .directory).openPlace "out/settings.yml" with
  | error cause =>
      rw [place] at opened
      cases opened
  | ok place => rfl

theorem load_of_save_confusable :
    confusable.ArePrintable ["1:30", "it's: # - ", ".m"] ∧
    ∃ record after loaded log entries,
      confusable.save "out/settings.yml" {} = (.ok record, after) ∧
      load after none "out/settings.yml" = (.ok loaded, log) ∧
      confusable.toEntries = .ok entries ∧ loaded.toEntries = .ok entries := by
  have printable : confusable.ArePrintable ["1:30", "it's: # - ", ".m"] := {
    text := by
      intro field member
      simp only [List.mem_cons, List.not_mem_nil, or_false] at member
      rcases member with rfl | rfl | rfl | rfl | rfl <;> exact ⟨_, rfl, by decide +kernel⟩
    extensions_eq := rfl
    extension := by decide +kernel
    dryRun := ⟨false, rfl⟩
    file := by
      intro field member
      simp only [List.mem_cons, List.not_mem_nil, or_false] at member
      rcases member with rfl | rfl
      · exact .inr ⟨"null", by decide, rfl, by decide +kernel⟩
      · exact .inl rfl }
  obtain ⟨saves, loads⟩ := load_of_save printable "out/settings.yml" {}
  obtain ⟨record, saved⟩ := saves.mpr ⟨rfl, rfl, makeReady_out⟩
  obtain ⟨loaded, log, entries, rest⟩ := loads record _ (Prod.ext saved rfl)
  exact ⟨printable, record, _, loaded, log, entries, Prod.ext saved rfl, rest⟩

end WarningSweep.Settings
