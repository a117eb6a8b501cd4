import Mathlib.Data.List.Basic
import Mathlib.Data.List.Induction
import WarningSweep.Constant.Extraction
import WarningSweep.Proofs.Constant.Declaration
import WarningSweep.Proofs.Files.Access
import WarningSweep.Proofs.Text.Encoding

/-!
# What an extraction holds

After any calls an extraction holds the first definition of every symbol in the scripts that could
be read.  The scripts determine its constants, its table of symbols and its list of sources, so it
does not matter how the files were divided among the calls.
-/

namespace WarningSweep

theorem eraseDupsBy_concat {α : Type} (same : α → α → Bool) (as : List α) (a : α) :
    (as ++ [a]).eraseDupsBy same =
      if (as.eraseDupsBy same).any (same a) then as.eraseDupsBy same
      else as.eraseDupsBy same ++ [a] := by
  have generalized : ∀ kept, List.eraseDupsBy.loop same (as ++ [a]) kept =
      if (List.eraseDupsBy.loop same as kept).any (same a) then List.eraseDupsBy.loop same as kept
      else List.eraseDupsBy.loop same as kept ++ [a] := by
    induction as with
    | nil =>
        intro kept
        cases known : kept.any (same a) <;> simp [List.eraseDupsBy.loop, known]
    | cons first rest inductionHypothesis =>
        intro kept
        rw [List.cons_append, List.eraseDupsBy.loop, List.eraseDupsBy.loop]
        cases kept.any (same first) <;> exact inductionHypothesis _
  exact generalized []

def firstDefinitions (constants : List Constant) : List Constant :=
  constants.eraseDupsBy fun one other => one.symbol == other.symbol

theorem firstDefinitions_concat (constants : List Constant) (constant : Constant) :
    firstDefinitions (constants ++ [constant]) =
      if constant.symbol ∈ (firstDefinitions constants).map Constant.symbol then
        firstDefinitions constants
      else firstDefinitions constants ++ [constant] := by
  have known : (firstDefinitions constants).any (fun other => constant.symbol == other.symbol) =
      true ↔ constant.symbol ∈ (firstDefinitions constants).map Constant.symbol := by
    simp only [List.any_eq_true, beq_iff_eq, List.mem_map, @eq_comm _ constant.symbol]
  rw [firstDefinitions, eraseDupsBy_concat, ← firstDefinitions]
  exact ite_congr (propext known) (fun _ => rfl) (fun _ => rfl)

theorem nodup_firstDefinitions (constants : List Constant) :
    ((firstDefinitions constants).map Constant.symbol).Nodup := by
  induction constants using List.reverseRecOn with
  | nil => exact List.nodup_nil
  | append_singleton constants constant inductionHypothesis =>
      rw [firstDefinitions_concat]
      split
      · exact inductionHypothesis
      next fresh =>
        rw [List.map_append, List.nodup_append]
        refine ⟨inductionHypothesis, by simp, ?_⟩
        intro symbol member other single same
        rw [List.map_singleton, List.mem_singleton] at single
        exact fresh (single ▸ same ▸ member)

theorem mem_symbols_firstDefinitions_iff {constants : List Constant} {symbol : String} :
    symbol ∈ (firstDefinitions constants).map Constant.symbol ↔
      symbol ∈ constants.map Constant.symbol := by
  induction constants using List.reverseRecOn with
  | nil => rfl
  | append_singleton constants constant inductionHypothesis =>
      rw [firstDefinitions_concat, List.map_append, List.mem_append, ← inductionHypothesis]
      split
      next known =>
        refine ⟨Or.inl, ?_⟩
        rintro (member | single)
        · exact member
        · rw [List.map_singleton, List.mem_singleton] at single
          rwa [single]
      next => rw [List.map_append, List.mem_append]

theorem exists_of_mem_firstDefinitions {constants : List Constant} {constant : Constant}
    (member : constant ∈ firstDefinitions constants) :
    ∃ before after, constants = before ++ constant :: after ∧
      constant.symbol ∉ before.map Constant.symbol := by
  induction constants using List.reverseRecOn with
  | nil => cases member
  | append_singleton constants last inductionHypothesis =>
      have earlier : constant ∈ firstDefinitions constants →
          ∃ before after, constants ++ [last] = before ++ constant :: after ∧
            constant.symbol ∉ before.map Constant.symbol := by
        intro member
        obtain ⟨before, after, rfl, fresh⟩ := inductionHypothesis member
        exact ⟨before, after ++ [last], by simp, fresh⟩
      rw [firstDefinitions_concat] at member
      split at member
      · exact earlier member
      next fresh =>
        rcases List.mem_append.mp member with member | single
        · exact earlier member
        · obtain rfl := List.mem_singleton.mp single
          exact ⟨constants, [], rfl, fun known =>
            fresh (mem_symbols_firstDefinitions_iff.mpr known)⟩

namespace Extraction

structure Script where
  path : String
  text : String
  deriving DecidableEq

namespace Script

def source (script : Script) : String := (Path.ofString script.path).name

def designated (script : Script) : List Constant :=
  (lineContents script.text).filterMap fun line => Declaration.parse? line script.source

end Script

def script? (files : Files) (path : String) : Option Script :=
  match readScript files (Path.ofString path) with
  | .error _ => none
  | .ok text => some ⟨path, text⟩

theorem script?_of_entryName {files : Files} {name text : String} {mode : Nat}
    (isEntryName : IsEntryName name) (plain : '\r' ∉ text.toList)
    (present : files.tree.get? (files.here ++ [name]) = some (.file (encodeString text) mode)) :
    script? files name = some ⟨name, text⟩ := by
  rw [script?, readScript, Path.ofString_of_name isEntryName.toIsName, Path.text_of_name,
    Files.read, files.find_of_entryName isEntryName, present]
  simp [unifyLineEnds_of_not_mem plain]

structure Met (constants : List Constant) (extraction : Extraction) : Prop where
  constants_eq : extraction.constants = firstDefinitions constants
  definedIn_eq : extraction.definedIn = extraction.constants.map fun c => (c.symbol, c.source)

/-- A step over constants that its input designates: what it finds is added at the end, and the
sources stay. -/
structure Meets (designated : List Constant) (extraction : Extraction)
    (finding : Finding) : Prop where
  constants_eq : finding.2.constants = extraction.constants ++ finding.1
  sources_eq : finding.2.sources = extraction.sources
  guide_eq : finding.2.guide = extraction.guide
  met : ∀ earlier, Met earlier extraction → Met (earlier ++ designated) finding.2

theorem report_met_iff {constants : List Constant} {extraction : Extraction}
    {records : List Log.Record} :
    Met constants (extraction.report records) ↔ Met constants extraction :=
  ⟨fun met => ⟨met.constants_eq, met.definedIn_eq⟩, fun met => ⟨met.constants_eq, met.definedIn_eq⟩⟩

theorem lookup_definedIn {constants : List Constant} {extraction : Extraction}
    (met : Met constants extraction) (symbol : String) :
    extraction.definedIn.lookup symbol = none ↔
      symbol ∉ extraction.constants.map Constant.symbol := by
  rw [met.definedIn_eq, List.lookup_eq_none_iff]
  simp [@eq_comm _ symbol]

theorem Meets.trans {first second found more : List Constant} {before between after : Extraction}
    (start : Meets first before (found, between)) (rest : Meets second between (more, after)) :
    Meets (first ++ second) before (found ++ more, after) where
  constants_eq := by rw [rest.constants_eq, start.constants_eq, List.append_assoc]
  sources_eq := rest.sources_eq.trans start.sources_eq
  guide_eq := rest.guide_eq.trans start.guide_eq
  met := by
    intro earlier met
    rw [← List.append_assoc]
    exact rest.met _ (start.met earlier met)

theorem Meets.refl (extraction : Extraction) : Meets [] extraction ([], extraction) where
  constants_eq := (List.append_nil _).symm
  sources_eq := rfl
  guide_eq := rfl
  met := by
    intro earlier met
    rwa [List.append_nil]

theorem report_meets (extraction : Extraction) (records : List Log.Record) :
    Meets [] extraction ([], extraction.report records) where
  constants_eq := (List.append_nil _).symm
  sources_eq := rfl
  guide_eq := rfl
  met := fun earlier met => report_met_iff.mpr ((Meets.refl extraction).met earlier met)

theorem define_meets (extraction : Extraction) (path : String) (line : Nat) (constant : Constant) :
    Meets [constant] extraction (extraction.define path line constant) := by
  rw [define]
  split
  next file known =>
    refine ⟨(List.append_nil _).symm, rfl, rfl, ?_⟩
    intro earlier met
    have old : constant.symbol ∈ extraction.constants.map Constant.symbol := by
      by_contra fresh
      rw [(lookup_definedIn met _).mpr fresh] at known
      cases known
    rw [report_met_iff]
    refine ⟨?_, met.definedIn_eq⟩
    rw [firstDefinitions_concat, ← met.constants_eq, if_pos old]
  next fresh =>
    refine ⟨rfl, rfl, rfl, ?_⟩
    intro earlier met
    have new := (lookup_definedIn met _).mp fresh
    refine ⟨?_, ?_⟩
    · rw [firstDefinitions_concat, ← met.constants_eq, if_neg new]
    · simp [met.definedIn_eq]

theorem readLine_meets (extraction : Extraction) (path source : String) (line : Nat)
    (text : String) :
    Meets (Declaration.parse? text source).toList extraction
      (extraction.readLine path source line text) := by
  have logged := extraction.report_meets (Declaration.log extraction.guide text source)
  rw [readLine]
  cases Declaration.parse? text source with
  | none => exact logged
  | some constant => exact logged.trans (define_meets _ path line constant)

theorem readLines_meets (extraction : Extraction) (path source : String) (first : Nat)
    (lines : List String) :
    Meets (lines.filterMap fun line => Declaration.parse? line source) extraction
      (extraction.readLines path source first lines) := by
  induction lines generalizing extraction first with
  | nil => exact Meets.refl extraction
  | cons line rest inductionHypothesis =>
      have here := extraction.readLine_meets path source first line
      have later := inductionHypothesis (extraction.readLine path source first line).2 (first + 1)
      rw [List.filterMap_eq_flatMap_toList] at later ⊢
      exact here.trans later

/-- An extraction that has read these scripts in this order, and nothing else. -/
structure Gathers (guide : Option String) (scripts : List Script) (extraction : Extraction) : Prop
    extends Met (scripts.flatMap Script.designated) extraction where
  sources_eq : extraction.sources = scripts.map Script.path
  guide_eq : extraction.guide = guide

variable {guide : Option String}

def silent (extraction : Extraction) : Extraction := { extraction with log := [] }

theorem Gathers.silent_eq {scripts : List Script} {first second : Extraction}
    (one : Gathers guide scripts first) (other : Gathers guide scripts second) :
    first.silent = second.silent := by
  have constants := one.constants_eq.trans other.constants_eq.symm
  simp only [silent, mk.injEq, true_and]
  exact ⟨constants, one.sources_eq.trans other.sources_eq.symm,
    by rw [one.definedIn_eq, other.definedIn_eq, constants], one.guide_eq.trans other.guide_eq.symm⟩

theorem Gathers.report {scripts : List Script} {extraction : Extraction}
    (gathers : Gathers guide scripts extraction) (records : List Log.Record) :
    Gathers guide scripts (extraction.report records) :=
  ⟨report_met_iff.mpr gathers.toMet, gathers.sources_eq, gathers.guide_eq⟩

theorem gathers_nil (guide : Option String) : Gathers guide [] { guide } := ⟨⟨rfl, rfl⟩, rfl, rfl⟩

theorem readText_constants (extraction : Extraction) (path source text : String) :
    (extraction.readText path source text).2.constants =
      extraction.constants ++ (extraction.readText path source text).1 :=
  (readLines_meets { extraction with sources := extraction.sources ++ [path] } path source 1
    (lineContents text)).constants_eq

theorem Gathers.readText {scripts : List Script} {extraction : Extraction}
    (gathers : Gathers guide scripts extraction) (script : Script) :
    Gathers guide (scripts ++ [script])
      (extraction.readText script.path script.source script.text).2 := by
  have lines := readLines_meets { extraction with sources := extraction.sources ++ [script.path] }
    script.path script.source 1 (lineContents script.text)
  refine Gathers.report ⟨?_, ?_, lines.guide_eq.trans gathers.guide_eq⟩ _
  · rw [List.flatMap_append, List.flatMap_singleton]
    exact lines.met _ ⟨gathers.constants_eq, gathers.definedIn_eq⟩
  · rw [lines.sources_eq, gathers.sources_eq, List.map_append, List.map_singleton]

theorem readScript_unreported_iff {files : Files} {path : String} :
    (∃ fault, readScript files (Path.ofString path) = .error (.file fault) ∧
      fault.isReported = false) ↔ '\x00' ∈ path.toList := by
  rw [← Path.mem_toList_text_ofString_iff (by decide) (by decide),
    ← @Files.find_eq_noPath_iff files, readScript, Files.read]
  cases found : files.find (Path.ofString path).text with
  | error cause => cases cause <;> simp [FileFault.isReported, FileCause.number?]
  | ok place =>
    obtain ⟨location, _ | ⟨content, mode⟩⟩ := place
    · simp [FileFault.isReported, FileCause.number?]
    · cases decoded : decodeStrict content <;> simp [decoded]

/-- All that a file can do to an extraction: a text with a NUL ends the step, a file that cannot be
read is skipped, and a script is read. -/
theorem addFile_cases (extraction : Extraction) (files : Files) (path : String) :
    ('\x00' ∈ path.toList ∧ script? files path = none ∧
      ∃ fault, extraction.addFile files path = (.error fault, extraction)) ∨
    ('\x00' ∉ path.toList ∧ ∃ found after, extraction.addFile files path = (.ok found, after) ∧
      after.constants = extraction.constants ++ found ∧
      ((script? files path = none ∧ ∃ message, after = extraction.skipScript path message) ∨
        ∃ script, script? files path = some script ∧
          after = (extraction.readText script.path script.source script.text).2)) := by
  rw [← @readScript_unreported_iff files, addFile, script?]
  rcases readScript files (Path.ofString path) with (fault | fault) | text
  · by_cases reported : fault.isReported = true
    · refine .inr ⟨?_, [], _, if_pos reported, (List.append_nil _).symm, .inl ⟨rfl, _, rfl⟩⟩
      rintro ⟨_, same, unreported⟩
      cases same
      rw [reported] at unreported
      cases unreported
    · exact .inl ⟨⟨fault, rfl, by simpa using reported⟩, rfl, fault, if_neg reported⟩
  · exact .inr ⟨nofun, [], _, rfl, (List.append_nil _).symm, .inl ⟨rfl, _, rfl⟩⟩
  · exact .inr ⟨nofun, _, _, rfl, readText_constants extraction path _ text,
      .inr ⟨⟨path, text⟩, rfl, rfl⟩⟩

theorem addFile_of_script?_eq_none (extraction : Extraction) {files : Files} {path : String}
    (unread : script? files path = none) :
    (extraction.addFile files path).2.silent = extraction.silent := by
  rcases extraction.addFile_cases files path with ⟨-, -, _, result⟩ |
    ⟨-, _, _, result, -, ⟨-, _, rfl⟩ | ⟨script, read, -⟩⟩
  · rw [result]
  · rw [result]
    rfl
  · rw [unread] at read
    cases read

theorem Gathers.of_silent_eq {scripts : List Script} {first second : Extraction}
    (gathers : Gathers guide scripts first) (same : second.silent = first.silent) :
    Gathers guide scripts second := by
  simp only [silent, mk.injEq, true_and] at same
  obtain ⟨constants, sources, definedIn, guided⟩ := same
  refine ⟨⟨constants.trans gathers.constants_eq, ?_⟩, sources.trans gathers.sources_eq,
    guided.trans gathers.guide_eq⟩
  rw [definedIn, constants, gathers.definedIn_eq]

theorem Gathers.addFile {scripts : List Script} {extraction : Extraction}
    (gathers : Gathers guide scripts extraction) (files : Files) (path : String) :
    Gathers guide (scripts ++ (script? files path).toList) (extraction.addFile files path).2 := by
  rcases extraction.addFile_cases files path with ⟨-, unread, -⟩ |
    ⟨-, _, _, result, -, ⟨unread, -⟩ | ⟨script, read, rfl⟩⟩
  · rw [unread, Option.toList_none, List.append_nil]
    exact gathers.of_silent_eq (extraction.addFile_of_script?_eq_none unread)
  · rw [unread, Option.toList_none, List.append_nil]
    exact gathers.of_silent_eq (extraction.addFile_of_script?_eq_none unread)
  · rw [read, result]
    exact gathers.readText script

/-- The scripts among files, as far as these are looked at: a text with a NUL is no path and ends
the call. -/
def scriptsOf (files : Files) (paths : List String) : List Script :=
  (paths.takeWhile fun path => '\x00' ∉ path.toList).filterMap (script? files)

theorem scriptsOf_cons_of_null {files : Files} {path : String} (null : '\x00' ∈ path.toList)
    (rest : List String) : scriptsOf files (path :: rest) = [] := by
  simp [scriptsOf, null]

theorem scriptsOf_cons {files : Files} {path : String} (noNull : '\x00' ∉ path.toList)
    (rest : List String) :
    scriptsOf files (path :: rest) = (script? files path).toList ++ scriptsOf files rest := by
  rw [scriptsOf, List.takeWhile_cons_of_pos (by simpa using noNull)]
  simp [scriptsOf, List.filterMap_eq_flatMap_toList]

theorem Gathers.addFiles {scripts : List Script} {extraction : Extraction}
    (gathers : Gathers guide scripts extraction) (files : Files) (paths : List String) :
    Gathers guide (scripts ++ scriptsOf files paths) (extraction.addFiles files paths).2 := by
  induction paths generalizing scripts extraction with
  | nil =>
      rw [scriptsOf, List.takeWhile_nil, List.filterMap_nil, List.append_nil]
      exact gathers.report _
  | cons path rest inductionHypothesis =>
      have here := gathers.addFile files path
      rw [Extraction.addFiles]
      rcases extraction.addFile_cases files path with ⟨null, -, _, result⟩ |
        ⟨noNull, _, _, result, -⟩ <;> rw [result] at here ⊢
      · rw [scriptsOf_cons_of_null null, List.append_nil]
        exact gathers
      · rw [scriptsOf_cons noNull, ← List.append_assoc]
        exact inductionHypothesis here

def andThen (step : Step) (next : Extraction → Step) : Step :=
  match step with
  | (.error fault, after) => (.error fault, after)
  | (.ok _, after) => next after

theorem Gathers.addFiles_append {scripts : List Script} {extraction : Extraction}
    (gathers : Gathers guide scripts extraction) (files : Files) (first second : List String) :
    (extraction.addFiles files (first ++ second)).2.silent =
      (andThen (extraction.addFiles files first) (·.addFiles files second)).2.silent := by
  induction first generalizing scripts extraction with
  | nil =>
      exact (gathers.addFiles files second).silent_eq ((gathers.report _).addFiles files second)
  | cons path rest inductionHypothesis =>
      have here := gathers.addFile files path
      rw [List.cons_append, Extraction.addFiles, Extraction.addFiles]
      rcases extraction.addFile_cases files path with ⟨-, -, _, result⟩ | ⟨-, _, _, result, -⟩ <;>
        rw [result] at here ⊢
      · rfl
      · exact inductionHypothesis here

inductive Call where
  | file (path : String)
  | files (paths : List String)

namespace Call

def paths : Call → List String
  | .file path => [path]
  | .files paths => paths

def perform (call : Call) (files : Files) (extraction : Extraction) : Step :=
  match call with
  | .file path => extraction.addFile files path
  | .files paths => extraction.addFiles files paths

end Call

theorem Gathers.perform {scripts : List Script} {extraction : Extraction}
    (gathers : Gathers guide scripts extraction) (files : Files) (call : Call) :
    Gathers guide (scripts ++ scriptsOf files call.paths) (call.perform files extraction).2 := by
  cases call with
  | files paths => exact gathers.addFiles files paths
  | file path =>
      have here := gathers.addFile files path
      rcases extraction.addFile_cases files path with ⟨null, unread, -⟩ | ⟨noNull, -⟩
      · rw [Call.paths, scriptsOf_cons_of_null null]
        rwa [unread] at here
      · rw [Call.paths, scriptsOf_cons noNull, scriptsOf, List.takeWhile_nil, List.filterMap_nil,
          List.append_nil]
        exact here

/-- The extraction after calls, each made on the files as they are then. -/
def after (extraction : Extraction) (calls : List (Files × Call)) : Extraction :=
  calls.foldl (fun extraction call => (call.2.perform call.1 extraction).2) extraction

def scriptsRead (calls : List (Files × Call)) : List Script :=
  calls.flatMap fun call => scriptsOf call.1 call.2.paths

theorem Gathers.after {scripts : List Script} {extraction : Extraction}
    (gathers : Gathers guide scripts extraction) (calls : List (Files × Call)) :
    Gathers guide (scripts ++ scriptsRead calls) (extraction.after calls) := by
  induction calls generalizing scripts extraction with
  | nil =>
      rw [scriptsRead, List.flatMap_nil, List.append_nil]
      exact gathers
  | cons call rest inductionHypothesis =>
      rw [scriptsRead, List.flatMap_cons, ← List.append_assoc]
      exact inductionHypothesis (gathers.perform call.1 call.2)

theorem source_of_mem_designated {script : Script} {constant : Constant}
    (member : constant ∈ script.designated) : constant.source = script.source := by
  obtain ⟨line, -, parsed⟩ := List.mem_filterMap.mp member
  obtain ⟨reading, designates⟩ := Declaration.designates_of_parse? parsed
  exact designates.source_eq

/-- A constant that scripts designate after others stands in a script whose predecessors designate
only these. -/
theorem exists_script_of_flatMap_eq {scripts : List Script} {before after : List Constant}
    {constant : Constant}
    (split : scripts.flatMap Script.designated = before ++ constant :: after) :
    ∃ earlier script later, scripts = earlier ++ script :: later ∧ constant ∈ script.designated ∧
      earlier.flatMap Script.designated <+: before := by
  induction scripts generalizing before with
  | nil => simp at split
  | cons script rest inductionHypothesis =>
      have goesOn : ∀ front, rest.flatMap Script.designated = front ++ constant :: after →
          script.designated ++ front = before →
          ∃ earlier other later, script :: rest = earlier ++ other :: later ∧
            constant ∈ other.designated ∧ earlier.flatMap Script.designated <+: before := by
        rintro front remaining rfl
        obtain ⟨earlier, other, later, rfl, member, within⟩ := inductionHypothesis remaining
        refine ⟨script :: earlier, other, later, rfl, member, ?_⟩
        rw [List.flatMap_cons]
        exact (List.prefix_append_right_inj _).mpr within
      rw [List.flatMap_cons, List.append_eq_append_iff] at split
      rcases split with ⟨front, same, split⟩ | ⟨back, same, split⟩
      · exact goesOn front split same.symm
      · cases back with
        | nil => exact goesOn [] split.symm (by simpa using same)
        | cons first others =>
            obtain ⟨rfl, -⟩ := List.cons.inj split
            exact ⟨[], script, rest, rfl, by simp [same], List.nil_prefix⟩

/-- After any calls the constants are the first definitions in the scripts that were read, in order,
and the table of symbols and the list of sources agree with them.  The constants that a further file
gives are added at their end, a file that cannot be read changes nothing, and files may be divided
among calls at will. -/
theorem first_definitions_after_calls (guide : Option String) (calls : List (Files × Call)) :
    let scripts := scriptsRead calls
    let extraction := ({ guide } : Extraction).after calls
    extraction.constants = firstDefinitions (scripts.flatMap Script.designated) ∧
    (extraction.constants.map Constant.symbol).Nodup ∧
    extraction.definedIn = extraction.constants.map (fun c => (c.symbol, c.source)) ∧
    (∀ c ∈ extraction.constants, ∃ earlier script later, scripts = earlier ++ script :: later ∧
      c ∈ script.designated ∧ c.source = (Path.ofString script.path).name ∧
      c.symbol ∉ (earlier.flatMap Script.designated).map Constant.symbol) ∧
    extraction.sources = scripts.map Script.path ∧
    (∀ files path, '\x00' ∉ path.toList →
      ∃ found later, extraction.addFile files path = (.ok found, later) ∧
        later.constants = extraction.constants ++ found) ∧
    (∀ files path, script? files path = none →
      (extraction.addFile files path).2.silent = extraction.silent) ∧
    ∀ files first second,
      (extraction.addFiles files (first ++ second)).2.silent =
        (andThen (extraction.addFiles files first) (·.addFiles files second)).2.silent := by
  intro scripts extraction
  have gathers : Gathers guide scripts extraction := (gathers_nil guide).after calls
  refine ⟨gathers.constants_eq, ?_, gathers.definedIn_eq, ?_, gathers.sources_eq, ?_, ?_,
    gathers.addFiles_append⟩
  · rw [gathers.constants_eq]
    exact nodup_firstDefinitions _
  · intro constant member
    rw [gathers.constants_eq] at member
    obtain ⟨before, after, split, fresh⟩ := exists_of_mem_firstDefinitions member
    obtain ⟨earlier, script, later, scripts_eq, designated, within⟩ :=
      exists_script_of_flatMap_eq split
    refine ⟨earlier, script, later, scripts_eq, designated, source_of_mem_designated designated, ?_⟩
    intro known
    exact fresh ((within.map _).subset known)
  · intro files path noNull
    rcases extraction.addFile_cases files path with ⟨null, -⟩ | ⟨-, found, later, result, grown, -⟩
    · exact absurd null noNull
    · exact ⟨found, later, result, grown⟩
  · intro files path unread
    exact extraction.addFile_of_script?_eq_none unread

/-- The second script defines the symbol of the first one again, and the first one is read twice. -/
theorem first_definitions_after_calls_repeated :
    let script (text : String) : Entry := .file (encodeString text) 0o644
    let files : Files := { tree := ⟨[(["a"], script "var A=1;/*C:int*/"),
      (["b"], script "let A=2;/*C:int*/\nlet B=3;/*C:int*/")]⟩ }
    let calls := [(files, Call.files ["a", "none", "b"]), (files, Call.file "a")]
    let extraction := ({} : Extraction).after calls
    extraction.constants = [⟨"A", "1", "int", "a"⟩, ⟨"B", "3", "int", "b"⟩] ∧
      extraction.definedIn = [("A", "a"), ("B", "b")] ∧
      extraction.sources = ["a", "b", "a"] ∧
      (∃ found later, extraction.addFile files "b" = (.ok found, later) ∧
        later.constants = extraction.constants ++ found) ∧
      script? files "none" = none ∧
      (extraction.addFile files "none").2.silent = extraction.silent := by
  intro script files calls extraction
  have unread : script? files "none" = none := by
    have isEntryName : IsEntryName "none" := by decide
    rw [script?, readScript, Path.ofString_of_name isEntryName.toIsName, Path.text_of_name,
      Files.read, files.find_of_entryName isEntryName]
    rfl
  have first : script? files "a" = some ⟨"a", "var A=1;/*C:int*/"⟩ :=
    script?_of_entryName (by decide) (by decide) rfl
  have second : script? files "b" = some ⟨"b", "let A=2;/*C:int*/\nlet B=3;/*C:int*/"⟩ :=
    script?_of_entryName (by decide) (by decide) rfl
  have scripts : scriptsRead calls = [⟨"a", "var A=1;/*C:int*/"⟩,
      ⟨"b", "let A=2;/*C:int*/\nlet B=3;/*C:int*/"⟩, ⟨"a", "var A=1;/*C:int*/"⟩] := by
    simp [calls, scriptsRead, scriptsOf, Call.paths, unread, first, second]
  obtain ⟨constants, -, definedIn, -, sources, added, skipped, -⟩ :=
    first_definitions_after_calls none calls
  rw [scripts] at constants sources
  have values : extraction.constants = [⟨"A", "1", "int", "a"⟩, ⟨"B", "3", "int", "b"⟩] :=
    constants.trans (by decide +kernel)
  rw [values] at definedIn
  exact ⟨values, definedIn, sources, added files "b" (by decide), unread,
    skipped files "none" unread⟩

end Extraction

end WarningSweep
