import Mathlib.Algebra.Ring.Nat
import WarningSweep.Constant.Header
import WarningSweep.Proofs.Constant.Extraction

/-!
# Comments in generated headers

A header starts with a comment.  Its text ends that comment and no other, as long as no type that
was extracted holds a comment terminator.
-/

namespace WarningSweep

theorem eq_of_ofNat_eq_slash {code : Nat} (same : Char.ofNat code = '/') : code = 0x2F := by
  have value : (Char.ofNat code).toNat = 0x2F := congrArg Char.toNat same
  by_cases valid : code.isValidChar
  · rw [Char.ofNat, dif_pos valid] at value
    exact value
  · rw [Char.ofNat, dif_neg valid] at value
    cases value

theorem upperRuns_above : ∀ run ∈ upperRuns, 0x2F < (run.first : Int) + run.delta := by
  decide +kernel

theorem upperExpansions_noSlash : ∀ e ∈ upperExpansions, 0x2F ∉ e.2 := by
  decide +kernel

theorem slash_not_mem_upperChar {c : Char} (differs : c ≠ '/') : '/' ∉ upperChar c := by
  rw [upperChar]
  split
  next ascii =>
    have all : ∀ n < 0x80, Char.ofNat n ≠ '/' → (Char.ofNat n).toUpper ≠ '/' := by decide +kernel
    have here := all c.toNat ascii
    rw [Char.ofNat_toNat] at here
    rw [List.mem_singleton]
    exact (here differs).symm
  · rw [mapCase]
    split
    next found =>
      intro member
      obtain ⟨code, within, same⟩ := List.mem_map.mp member
      obtain rfl := eq_of_ofNat_eq_slash same
      exact upperExpansions_noSlash _ (Array.mem_of_find?_eq_some found) within
    next =>
      split
      next code found =>
        obtain ⟨run, member, moved⟩ := Array.exists_of_findSome?_eq_some found
        have above := upperRuns_above run member
        rw [CaseRun.move?] at moved
        split at moved
        next inside =>
          cases moved
          rw [List.mem_singleton]
          intro same
          have code := eq_of_ofNat_eq_slash same.symm
          omega
        next => cases moved
      next => simpa using differs.symm

theorem slash_not_mem_upperCase {s : String} (missing : '/' ∉ s.toList) :
    '/' ∉ (upperCase s).toList := by
  rw [upperCase, String.toList_ofList, List.mem_flatMap]
  rintro ⟨c, member, within⟩
  refine slash_not_mem_upperChar ?_ within
  rintro rfl
  exact missing member

/-- Where each part starts with the same character, and that is no slash, the terminators of the
parts add up. -/
theorem terminators_flatMap {α : Type} {f : α → List Char} {first : Char} (differs : first ≠ '/')
    (starts : ∀ x, (f x).head? = some first) (xs : List α) :
    (xs.flatMap f).head? ≠ some '/' ∧
      terminators (xs.flatMap f) = (xs.map fun x => terminators (f x)).sum := by
  induction xs with
  | nil => exact ⟨nofun, rfl⟩
  | cons x rest inductionHypothesis =>
      rw [List.flatMap_cons]
      constructor
      · rw [List.head?_append, starts, Option.some_or]
        simpa using differs
      · rw [terminators_append inductionHypothesis.1, inductionHypothesis.2]
        rfl

namespace Header

theorem slash_not_mem_baseName (header : Header) : '/' ∉ header.baseName.toList := by
  rw [baseName, Path.name]
  cases last : header.path.names.getLast? with
  | none => simp
  | some name =>
      have proper : header.path.IsProper := Path.isProper_ofString header.output
      exact (proper.names name (List.mem_of_getLast? last)).noSlash

theorem slash_not_mem_guardName (header : Header) : '/' ∉ header.guardName.toList := by
  have base := slash_not_mem_upperCase header.slash_not_mem_baseName
  simp [guardName, toString, base]

theorem terminators_scriptLine (script : String) :
    terminators (s!"    {script}\n").toList = terminators script.toList := by
  have line : (s!"    {script}\n").toList = [' ', ' ', ' ', ' '] ++ (script.toList ++ ['\n']) := by
    simp [toString]
  rw [line, terminators_starless_append (by decide), terminators_append (by decide)]
  rfl

def bannerOpening : String :=
  "/*\nThis file is automatically generated by objc-port-tools.\n"
    ++ "The constants herein were copied from the following JavaScript files:\n\n"

def bannerFront (header : Header) : List Char :=
  bannerOpening.toList ++
    (header.scripts.map fun script => s!"    {script}\n").flatMap String.toList
    ++ "\nDo not edit.\n".toList

theorem toList_banner (header : Header) :
    header.banner.toList = header.bannerFront ++ ['*', '/', '\n', '\n'] := by
  have ending : "\nDo not edit.\n*/\n\n".toList =
      "\nDo not edit.\n".toList ++ ['*', '/', '\n', '\n'] := by decide +kernel
  have parts : header.banner = bannerOpening
      ++ String.join (header.scripts.map fun script => s!"    {script}\n")
      ++ "\nDo not edit.\n*/\n\n" := rfl
  rw [parts, String.toList_append, String.toList_append, String.toList_join]
  exact (congrArg (_ ++ ·) ending).trans (List.append_assoc ..).symm

theorem terminators_scriptLines {scripts : List String}
    (plain : ∀ script ∈ scripts, terminators script.toList = 0) :
    ((scripts.map fun script => s!"    {script}\n").flatMap String.toList).head? ≠ some '/' ∧
      terminators ((scripts.map fun script => s!"    {script}\n").flatMap String.toList) = 0 := by
  rw [List.flatMap_map]
  obtain ⟨apart, sum⟩ := terminators_flatMap (f := fun script => (s!"    {script}\n").toList)
    (show ' ' ≠ '/' by decide) (by simp [toString]) scripts
  refine ⟨apart, sum.trans (List.sum_eq_zero_iff_forall_eq_nat.mpr ?_)⟩
  intro count member
  obtain ⟨script, within, rfl⟩ := List.mem_map.mp member
  exact (terminators_scriptLine script).trans (plain script within)

/-- The banner ends its comment nowhere but at its own end, if the scripts do not. -/
theorem terminators_bannerFront (header : Header)
    (plain : ∀ script ∈ header.scripts, terminators script.toList = 0) :
    terminators header.bannerFront = 0 := by
  have opening : terminators bannerOpening.toList = 0 := by decide +kernel
  have closing : "\nDo not edit.\n".toList.head? ≠ some '/' ∧
      terminators "\nDo not edit.\n".toList = 0 := by decide +kernel
  obtain ⟨apart, lines⟩ := terminators_scriptLines plain
  calc terminators header.bannerFront
    _ = _ := terminators_append closing.1 _
    _ = _ := congrArg₂ (· + ·) (terminators_append apart _) closing.2
    _ = 0 := by rw [opening, lines]

theorem terminators_declaration {constant : Constant}
    (symbol : ∀ c ∈ constant.symbol.toList, isSymbolChar c = true) :
    terminators (constant.declaration ++ "\n").toList = terminators constant.ctype.toList := by
  have noSlash : '/' ∉ constant.symbol.toList := by
    intro member
    exact absurd (symbol '/' member) (by decide +kernel)
  have text : (constant.declaration ++ "\n").toList =
      "extern ".toList ++ (constant.ctype.toList ++
        (" const ".toList ++ constant.symbol.toList ++ " ;\n".toList)) := by
    simp [Constant.declaration, toString]
  have tail : '/' ∉ " const ".toList ++ constant.symbol.toList ++ " ;\n".toList := by
    simp [noSlash]
  have apart : (" const ".toList ++ constant.symbol.toList ++ " ;\n".toList).head? ≠ some '/' := by
    simp
  rw [text, terminators_starless_append (by decide), terminators_append apart,
    terminators_eq_zero_of_not_mem (.inr rfl) tail, Nat.add_zero]

def body (header : Header) (constants : List Constant) : List Char :=
  (s!"#ifndef {header.guardName}\n#define {header.guardName}\n\n").toList
    ++ (constants.flatMap fun c => (c.declaration ++ "\n").toList) ++ "\n#endif\n".toList

theorem toList_declarations (header : Header) (constants : List Constant) :
    (header.declarations constants).toList = header.banner.toList ++ header.body constants := by
  simp only [declarations, String.toList_append, String.toList_join, List.flatMap_map, body,
    List.append_assoc]

theorem terminators_body (header : Header) {constants : List Constant}
    (symbols : ∀ constant ∈ constants, ∀ c ∈ constant.symbol.toList, isSymbolChar c = true) :
    (header.body constants).head? ≠ some '/' ∧
      terminators (header.body constants) =
        (constants.map fun c => terminators c.ctype.toList).sum := by
  have guard : '/' ∉ (s!"#ifndef {header.guardName}\n#define {header.guardName}\n\n").toList := by
    simp [toString, header.slash_not_mem_guardName]
  obtain ⟨apart, sum⟩ :=
    terminators_flatMap (f := fun c : Constant => (c.declaration ++ "\n").toList)
    (show 'e' ≠ '/' by decide) (by simp [Constant.declaration, toString]) constants
  have types : (constants.map fun c => terminators (c.declaration ++ "\n").toList) =
      constants.map fun c => terminators c.ctype.toList :=
    List.map_congr_left fun c member => terminators_declaration (symbols c member)
  constructor
  · simp [body, toString]
  · rw [body, terminators_append (by decide), terminators_append apart, sum, types,
      terminators_eq_zero_of_not_mem (.inr rfl) guard, Nat.zero_add]
    rfl

/-- A header has the terminator of its banner and those of the types. -/
theorem terminators_declarations (header : Header) {constants : List Constant}
    (plain : ∀ script ∈ header.scripts, terminators script.toList = 0)
    (symbols : ∀ constant ∈ constants, ∀ c ∈ constant.symbol.toList, isSymbolChar c = true) :
    terminators (header.declarations constants).toList =
      1 + (constants.map fun c => terminators c.ctype.toList).sum := by
  obtain ⟨apart, sum⟩ := header.terminators_body symbols
  have banner : terminators header.banner.toList = 1 := by
    rw [toList_banner, terminators_append (by decide), terminators_bannerFront header plain]
    rfl
  rw [toList_declarations, terminators_append apart, banner, sum]

end Header

namespace Extraction

theorem mem_paths_of_mem_scriptsRead {calls : List (Files × Call)} {script : Script}
    (member : script ∈ scriptsRead calls) :
    ∃ call ∈ calls, script.path ∈ call.2.paths := by
  obtain ⟨call, within, read⟩ := List.mem_flatMap.mp member
  obtain ⟨path, reached, found⟩ := List.mem_filterMap.mp read
  have same : script.path = path := by
    rw [script?] at found
    split at found
    · cases found
    · cases found
      rfl
  exact ⟨call, within, same ▸ List.takeWhile_subset _ reached⟩

/-- A constant that was extracted is designated by a line of a script that was read. -/
theorem Gathers.designates {guide : Option String} {scripts : List Script} {extraction : Extraction}
    (gathers : Gathers guide scripts extraction) {constant : Constant}
    (member : constant ∈ extraction.constants) :
    ∃ script ∈ scripts, ∃ line ∈ lineContents script.text, ∃ reading,
      Designates line script.source constant reading := by
  rw [gathers.constants_eq] at member
  obtain ⟨before, after, split, -⟩ := exists_of_mem_firstDefinitions member
  have within : constant ∈ scripts.flatMap Script.designated := split ▸ by simp
  obtain ⟨script, read, designated⟩ := List.mem_flatMap.mp within
  obtain ⟨line, inside, parsed⟩ := List.mem_filterMap.mp designated
  exact ⟨script, read, line, inside, Declaration.designates_of_parse? parsed⟩

theorem Gathers.isSymbolChar_of_mem {guide : Option String} {scripts : List Script}
    {extraction : Extraction}
    (gathers : Gathers guide scripts extraction) :
    ∀ constant ∈ extraction.constants, ∀ c ∈ constant.symbol.toList, isSymbolChar c = true := by
  intro constant member
  obtain ⟨_, -, _, -, _, designates⟩ := gathers.designates member
  exact designates.symbol

end Extraction

open Extraction in
/-- The header of what any calls extract starts with a banner whose comment ends at its end.  After
it, comments end only in the types: each type holds all but one of the terminators that follow the
colon of its designation.  So the header ends a single comment exactly if no type holds a
terminator, and in particular if no line of a script holds two. -/
theorem Header.comments_end_once_iff (guide : Option String) (calls : List (Files × Call))
    (output : String)
    (plain : ∀ call ∈ calls, ∀ path ∈ call.2.paths, ¬ ['*', '/'] <:+: path.toList) :
    let extraction := ({ guide } : Extraction).after calls
    let header : Header := ⟨output, extraction.sources⟩
    let text := (header.declarations extraction.constants).toList
    (∃ front rest, header.banner.toList = front ++ ['*', '/', '\n', '\n'] ∧ terminators front = 0 ∧
      text = header.banner.toList ++ rest ∧
      terminators rest = (extraction.constants.map fun c => terminators c.ctype.toList).sum) ∧
    (∀ c ∈ extraction.constants, ∃ script ∈ scriptsRead calls, ∃ line ∈ lineContents script.text,
      ∃ after, ':' :: after <:+ line.toList ∧
        terminators after = terminators c.ctype.toList + 1) ∧
    (terminators text = 1 ↔ ∀ c ∈ extraction.constants, ¬ ['*', '/'] <:+: c.ctype.toList) ∧
    ((∀ script ∈ scriptsRead calls, ∀ line ∈ lineContents script.text,
      terminators line.toList ≤ 1) → terminators text = 1) := by
  intro extraction header text
  have gathers : Gathers guide (scriptsRead calls) extraction := (gathers_nil guide).after calls
  have scripts : ∀ script ∈ header.scripts, terminators script.toList = 0 := by
    intro path member
    have member : path ∈ (scriptsRead calls).map Script.path := gathers.sources_eq ▸ member
    obtain ⟨script, read, rfl⟩ := List.mem_map.mp member
    obtain ⟨call, made, given⟩ := mem_paths_of_mem_scriptsRead read
    exact terminators_eq_zero_iff.mpr (plain call made _ given)
  have symbols := gathers.isSymbolChar_of_mem
  have types : ∀ c ∈ extraction.constants, ∃ script ∈ scriptsRead calls,
      ∃ line ∈ lineContents script.text, ∃ after, ':' :: after <:+ line.toList ∧
        terminators after = terminators c.ctype.toList + 1 := by
    intro constant member
    obtain ⟨script, read, line, inside, reading, designates⟩ := gathers.designates member
    exact ⟨script, read, line, inside,
      designates.terminators_eq (newline_not_mem_of_mem_lineContents inside)⟩
  have once : terminators text = 1 ↔
      ∀ c ∈ extraction.constants, ¬ ['*', '/'] <:+: c.ctype.toList := by
    rw [header.terminators_declarations scripts symbols, Nat.add_eq_left,
      List.sum_eq_zero_iff_forall_eq_nat]
    simp only [List.forall_mem_map, terminators_eq_zero_iff]
  refine ⟨⟨header.bannerFront, header.body extraction.constants, header.toList_banner,
    header.terminators_bannerFront scripts, header.toList_declarations _,
    (header.terminators_body symbols).2⟩, types, once, ?_⟩
  intro single
  rw [once]
  intro constant member
  obtain ⟨script, read, line, inside, after, within, count⟩ := types constant member
  have below := terminators_le_of_suffix ((List.suffix_cons ':' after).trans within)
  have above := single script read line inside
  exact terminators_eq_zero_iff.mp (by omega)

open Extraction in
theorem Header.comments_end_once_iff_of_one_comment :
    let script := "var A=1;/*C:int*/"
    let files : Files := { tree := ⟨[(["a"], .file (encodeString script) 0o644)]⟩ }
    let calls := [(files, Call.file "a")]
    let extraction := ({} : Extraction).after calls
    let header : Header := ⟨"out", extraction.sources⟩
    scriptsRead calls = [⟨"a", script⟩] ∧
      extraction.constants = [⟨"A", "1", "int", "a"⟩] ∧
      terminators (header.declarations extraction.constants).toList = 1 := by
  intro script files calls extraction header
  have found : script? files "a" = some ⟨"a", script⟩ :=
    script?_of_entryName (by decide) (by decide) rfl
  have read : scriptsRead calls = [⟨"a", script⟩] := by
    simp [calls, scriptsRead, scriptsOf, Call.paths, found]
  have gathers : Gathers none (scriptsRead calls) extraction := (gathers_nil none).after calls
  rw [read] at gathers
  have single : ∀ script ∈ scriptsRead calls, ∀ line ∈ lineContents script.text,
      terminators line.toList ≤ 1 := by
    rw [read]
    decide +kernel
  refine ⟨read, gathers.constants_eq.trans (by decide +kernel), ?_⟩
  exact (Header.comments_end_once_iff none calls "out" (by decide)).2.2.2 single

open Extraction in
/-- A second comment on the line of a designation becomes a part of the type. -/
theorem Header.type_ends_comment :
    let script := "var A=1;/*C:int*/ /*note*/"
    let files : Files := { tree := ⟨[(["a"], .file (encodeString script) 0o644)]⟩ }
    let calls := [(files, Call.file "a")]
    let extraction := ({} : Extraction).after calls
    let header : Header := ⟨"out", extraction.sources⟩
    (∀ call ∈ calls, ∀ path ∈ call.2.paths, ¬ ['*', '/'] <:+: path.toList) ∧
      extraction.constants = [⟨"A", "1", "int*/ /*note", "a"⟩] ∧
      terminators (header.declarations extraction.constants).toList = 2 := by
  intro script files calls extraction header
  have found : script? files "a" = some ⟨"a", script⟩ :=
    script?_of_entryName (by decide) (by decide) rfl
  have gathers : Gathers none (script? files "a").toList extraction :=
    (gathers_nil none).addFile files "a"
  rw [found] at gathers
  have constants : extraction.constants = [⟨"A", "1", "int*/ /*note", "a"⟩] :=
    gathers.constants_eq.trans (by decide +kernel)
  have scripts : ∀ script ∈ header.scripts, terminators script.toList = 0 := by
    rw [show header.scripts = ["a"] from gathers.sources_eq]
    decide
  refine ⟨by decide, constants, ?_⟩
  rw [header.terminators_declarations scripts gathers.isSymbolChar_of_mem, constants]
  decide +kernel

end WarningSweep
