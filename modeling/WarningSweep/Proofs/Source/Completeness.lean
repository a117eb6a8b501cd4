import Mathlib.Data.List.Forall2
import WarningSweep.Proofs.Source.Collect

/-!
# Nothing is missed and nothing is taken twice

A given path stands for nothing, for the file that it leads to, or for the wanted files below the
directory that it leads to, in the order of their names.  What is collected are the first
occurrences of all that the given paths stand for, and to collect it once more changes nothing.
-/

namespace WarningSweep

section

variable {α : Type} [BEq α] [LawfulBEq α]

theorem nodup_eraseDups (xs : List α) : xs.eraseDups.Nodup := by
  cases xs with
  | nil => simp
  | cons x rest =>
      rw [List.eraseDups_cons, List.nodup_cons]
      refine ⟨?_, nodup_eraseDups _⟩
      simp [List.mem_eraseDups]
termination_by xs.length
decreasing_by exact Nat.lt_succ_of_le (List.length_filter_le _ _)

theorem eraseDups_of_nodup {xs : List α} (nodup : xs.Nodup) : xs.eraseDups = xs := by
  induction xs with
  | nil => simp
  | cons x rest inductionHypothesis =>
      obtain ⟨fresh, nodup⟩ := List.nodup_cons.mp nodup
      have others : rest.filter (fun y => !y == x) = rest := by
        apply List.filter_eq_self.mpr
        intro y member
        have differs : y ≠ x := fun same => fresh (same ▸ member)
        simpa using differs
      rw [List.eraseDups_cons, others, inductionHypothesis nodup]

end

namespace Source

open Operation

theorem nameBefore_iff (first second : List Char) :
    nameBefore first second = true ↔ first < second := by
  fun_induction nameBefore first second with
  | case1 first => simp
  | case2 c rest => simp
  | case3 rest c rest' inductionHypothesis =>
      rw [inductionHypothesis, List.cons_lt_cons_iff]
      simp
  | case4 c rest c' rest' differs =>
      rw [List.cons_lt_cons_iff, decide_eq_true_iff]
      simp [differs, Char.lt_def, UInt32.lt_iff_toNat_lt]

theorem notAfter_iff (first second : List String) :
    notAfter first second = true ↔ ¬ second < first := by
  rw [List.not_lt]
  fun_induction notAfter first second with
  | case1 second => simp
  | case2 name rest => simp
  | case3 rest name rest' inductionHypothesis =>
      rw [inductionHypothesis, List.cons_le_cons_iff]
      simp
  | case4 name rest name' rest' differs =>
      rw [nameBefore_iff, ← String.lt_iff, List.cons_le_cons_iff]
      simp [differs]

def IsSorted (paths : List (List String)) : Prop :=
  paths.Pairwise fun first second => ¬ second < first

theorem isSorted_sortNames (paths : List (List String)) : IsSorted (sortNames paths) := by
  have sorted : (sortNames paths).Pairwise fun first second => notAfter first second = true := by
    apply List.pairwise_mergeSort
    · intro first second third
      simp only [notAfter_iff, List.not_lt]
      exact List.le_trans
    · intro first second
      simp only [Bool.or_eq_true, notAfter_iff, List.not_lt]
      exact List.le_total first second
  exact sorted.imp fun {first second} => (notAfter_iff first second).mp

/-- A file at any depth below a directory whose suffix is asked for, whatever the case of its
letters. -/
structure IsWanted (tree : Tree) (extensions : List String) (directory : Location)
    (names : List String) : Prop where
  ne_nil : names ≠ []
  isFile : ∃ content mode, tree.get? (directory ++ names) = some (.file content mode)
  suffix : lowerCase (Path.suffixOf (names.getLast?.getD "")) ∈ extensions.map lowerCase

/-- What a given path stands for. -/
inductive StandsFor (files : Files) (extensions : List String) (given : String) :
    List String → Prop
  | nothing (absent : ∀ place, files.find (Path.ofString given).text ≠ .ok place) :
      StandsFor files extensions given []
  | file {location : Location} {content : Bytes} {mode : Nat}
      (found : files.find (Path.ofString given).text = .ok (location, .file content mode)) :
      StandsFor files extensions given [(Path.ofString given).text]
  | directory {location : Location} {below : List (List String)}
      (found : files.find (Path.ofString given).text = .ok (location, .directory))
      (sorted : IsSorted below)
      (mem_iff : ∀ names, names ∈ below ↔ IsWanted files.tree extensions location names) :
      StandsFor files extensions given (below.map (childText (Path.ofString given)))

theorem mem_wantedBelow_iff {tree : Tree} (proper : tree.Proper) {directory : Location}
    {extensions names : List String} :
    names ∈ wantedBelow tree directory (extensions.map lowerCase) ↔
      IsWanted tree extensions directory names := by
  rw [wantedBelow, List.mem_filterMap]
  constructor
  · rintro ⟨⟨location, entry⟩, listed, wanted⟩
    cases entry with
    | directory => cases wanted
    | file content mode =>
        obtain ⟨below, suffix⟩ := Option.filter_eq_some_iff.mp wanted
        obtain ⟨rfl, named⟩ := below?_eq_some_iff.mp below
        exact ⟨named, ⟨content, mode, proper.listed _ listed⟩, List.contains_iff_mem.mp suffix⟩
  · rintro ⟨named, ⟨content, mode, found⟩, suffix⟩
    have somewhere : directory ++ names ≠ [] := by simp [named]
    rw [Tree.get?, if_neg somewhere] at found
    obtain ⟨before, after, entries, -⟩ := List.lookup_eq_some_iff.mp found
    refine ⟨(directory ++ names, .file content mode), by simp [entries], ?_⟩
    exact Option.filter_eq_some_iff.mpr
      ⟨below?_eq_some_iff.mpr ⟨rfl, named⟩, List.contains_iff_mem.mpr suffix⟩

variable {files : Files}

theorem standsFor_of_expand (proper : files.tree.Proper) {extensions : List String} {given : String}
    {found : Option (List String)}
    (expanded : expand files (extensions.map lowerCase) given = .ok found) :
    StandsFor files extensions given (found.getD []) := by
  simp only [expand, Files.lookFor] at expanded
  cases place : files.find (Path.ofString given).text with
  | error cause =>
      have absent : found = none := by
        rw [place] at expanded
        cases cause <;> cases expanded <;> rfl
      subst absent
      exact .nothing (by simp [place])
  | ok place' =>
      obtain ⟨location, _ | ⟨content, mode⟩⟩ := place'
      · rw [place] at expanded
        simp only [bind, Except.bind] at expanded
        split at expanded
        · cases expanded
        · cases expanded
          refine .directory place (isSorted_sortNames _) ?_
          intro names
          rw [sortNames, List.mem_mergeSort]
          exact mem_wantedBelow_iff proper
      · rw [place] at expanded
        cases expanded
        exact .file place

theorem exists_standsFor_of_expandAll (proper : files.tree.Proper) {extensions : List String}
    {paths found : List String}
    (expanded : (expandAll files (extensions.map lowerCase) paths).1 = .ok found) :
    ∃ parts, List.Forall₂ (StandsFor files extensions) paths parts ∧ found = parts.flatten := by
  induction paths generalizing found with
  | nil =>
      cases expanded
      exact ⟨[], .nil, rfl⟩
  | cons given rest inductionHypothesis =>
      rw [expandAll] at expanded
      split at expanded
      · cases expanded
      next first here =>
        obtain ⟨others, later, rfl⟩ := map_eq_ok_iff.mp expanded
        obtain ⟨parts, stand, rfl⟩ := inductionHypothesis later
        exact ⟨first.getD [] :: parts, .cons (standsFor_of_expand proper here) stand, rfl⟩

/-- A path that leads to a directory stands for every wanted file below it. -/
theorem StandsFor.mem_of_isWanted {extensions part names : List String} {given : String}
    {location : Location} (stands : StandsFor files extensions given part)
    (found : files.find (Path.ofString given).text = .ok (location, .directory))
    (wanted : IsWanted files.tree extensions location names) :
    childText (Path.ofString given) names ∈ part := by
  cases stands with
  | nothing absent => exact absurd found (absent _)
  | file found' =>
      rw [found'] at found
      cases found
  | directory found' sorted mem_iff =>
      rw [found'] at found
      cases found
      exact List.mem_map_of_mem ((mem_iff names).mpr wanted)

theorem exists_standsFor_of_mem {extensions paths : List String} {parts : List (List String)}
    (stand : List.Forall₂ (StandsFor files extensions) paths parts) {given : String}
    (member : given ∈ paths) : ∃ part ∈ parts, StandsFor files extensions given part := by
  induction stand with
  | nil => cases member
  | cons here later inductionHypothesis =>
      rcases List.mem_cons.mp member with rfl | elsewhere
      · exact ⟨_, List.mem_cons_self, here⟩
      · obtain ⟨part, inside, stands⟩ := inductionHypothesis elsewhere
        exact ⟨part, List.mem_cons_of_mem _ inside, stands⟩

theorem expand_of_isSource {path : String} {location : Location} {content : Bytes} {mode : Nat}
    (isSource : IsSource files path location content mode) (suffixes : List String) :
    expand files suffixes path = .ok (some [path]) := by
  simp only [expand, Files.lookFor, isSource.text, isSource.found]
  rfl

theorem expandAll_of_isSource {paths : List String}
    (sources : ∀ path ∈ paths, ∃ location content mode, IsSource files path location content mode)
    (suffixes : List String) : (expandAll files suffixes paths).1 = .ok paths := by
  induction paths with
  | nil => rfl
  | cons path rest inductionHypothesis =>
      obtain ⟨location, content, mode, isSource⟩ := sources path List.mem_cons_self
      have later := inductionHypothesis fun other member =>
        sources other (List.mem_cons_of_mem _ member)
      rw [expandAll, expand_of_isSource isSource]
      simp [later, Except.map]

theorem collect_fst (files : Files) (paths extensions : List String) :
    (collect files paths extensions).1 =
      ((expandAll files (extensions.map lowerCase) paths).1).map List.eraseDups := by
  rw [collect]
  rcases expandAll files (extensions.map lowerCase) paths with ⟨_ | found, log⟩ <;> rfl

/-- What is collected are the first occurrences of what the given paths stand for, unless a path is
too long. It is free of repetitions, it misses no wanted file, and to collect it again changes
nothing. -/
theorem collect_exactly (files : Files) (proper : files.tree.Proper)
    (paths extensions : List String) :
    ((∃ given ∈ paths, Overlong files given) →
      ∃ fault, (collect files paths extensions).1 = .error fault ∧ fault.cause = .nameTooLong) ∧
    ((∀ given ∈ paths, ¬ Overlong files given) →
      ∃ parts sources, List.Forall₂ (StandsFor files extensions) paths parts ∧
        (collect files paths extensions).1 = .ok sources ∧
        sources = parts.flatten.eraseDups ∧ sources.Nodup ∧
        (∀ given ∈ paths, ∀ location,
          files.find (Path.ofString given).text = .ok (location, .directory) →
          ∀ names, IsWanted files.tree extensions location names →
            childText (Path.ofString given) names ∈ sources) ∧
        ∀ others, (collect files sources others).1 = .ok sources) := by
  rcases collect_cases proper paths extensions with
    ⟨⟨given, member, long⟩, failed⟩ | ⟨short, sources, collected, isSource⟩
  · exact ⟨fun _ => failed, fun short => absurd long (short given member)⟩
  · refine ⟨fun ⟨given, member, long⟩ => absurd long (short given member), fun _ => ?_⟩
    obtain ⟨found, expanded, rfl⟩ := map_eq_ok_iff.mp ((collect_fst ..).symm.trans collected)
    obtain ⟨parts, stand, rfl⟩ := exists_standsFor_of_expandAll proper expanded
    have nodup := nodup_eraseDups parts.flatten
    refine ⟨parts, _, stand, collected, rfl, nodup, ?_, ?_⟩
    · intro given member location found names wanted
      obtain ⟨part, inside, stands⟩ := exists_standsFor_of_mem stand member
      rw [List.mem_eraseDups, List.mem_flatten]
      exact ⟨part, inside, stands.mem_of_isWanted found wanted⟩
    · intro others
      rw [collect_fst, expandAll_of_isSource isSource, Except.map, eraseDups_of_nodup nodup]

/-- The names of directories count before those of files below them, and a file that is met twice is
taken once. -/
theorem collect_exactly_overlapping :
    let files : Files := { tree := ⟨[(["d"], .directory), (["d", "a.m"], .file [] 0o644),
      (["d", "a"], .directory), (["d", "a", "b.M"], .file [] 0o644)]⟩ }
    files.tree.Proper ∧
      (collect files ["./d", "d/a/b.M"] [".m"]).1 = .ok ["d/a/b.M", "d/a.m"] ∧
      ["d/a/b.M", "d/a.m"].Nodup ∧
      ∀ others, (collect files ["d/a/b.M", "d/a.m"] others).1 = .ok ["d/a/b.M", "d/a.m"] := by
  intro files
  have proper : files.tree.Proper := by decide +kernel
  have directory : files.find (Path.ofString "./d").text = .ok (["d"], .directory) := by
    rw [Files.find_eq_ok_iff, admitPath_eq_ok_iff, Files.walk_eq_ok_iff]
    decide +kernel
  have file : files.find (Path.ofString "d/a/b.M").text =
      .ok (["d", "a", "b.M"], .file [] 0o644) := by
    rw [Files.find_eq_ok_iff, admitPath_eq_ok_iff, Files.walk_eq_ok_iff]
    decide +kernel
  have wanted : wantedBelow files.tree ["d"] ([".m"].map lowerCase) = [["a.m"], ["a", "b.M"]] := by
    decide +kernel
  have sorted : sortNames [["a.m"], ["a", "b.M"]] = [["a", "b.M"], ["a.m"]] := by
    have later : notAfter ["a.m"] ["a", "b.M"] = false := by decide +kernel
    simp [sortNames, List.mergeSort, later]
  have short : ((allBelow files.tree ["d"]).find? fun names =>
      pathLimit ≤ (childText (Path.ofString "./d") names).utf8ByteSize) = none := by decide +kernel
  have collected : (collect files ["./d", "d/a/b.M"] [".m"]).1 = .ok ["d/a/b.M", "d/a.m"] := by
    simp only [collect_fst, expandAll, expand, Files.lookFor, directory, file, bind, Except.bind,
      short, wanted, sorted]
    decide +kernel
  obtain ⟨fails, succeeds⟩ := collect_exactly files proper ["./d", "d/a/b.M"] [".m"]
  have admitted : ∀ given ∈ ["./d", "d/a/b.M"], ¬ Overlong files given := by
    intro given member long
    obtain ⟨fault, failed, -⟩ := fails ⟨given, member, long⟩
    rw [collected] at failed
    cases failed
  obtain ⟨parts, sources, -, collected', -, nodup, -, again⟩ := succeeds admitted
  rw [collected] at collected'
  cases collected'
  exact ⟨proper, collected, nodup, again⟩

/-- A path that leads nowhere stands for nothing, but one that is too long ends the collecting. -/
theorem long_path_ends_collecting :
    let files : Files := { tree := ⟨[(["a.m"], .file [] 0o644)]⟩ }
    let long := String.ofList (List.replicate 256 'n')
    files.tree.Proper ∧
      List.Forall₂ (StandsFor files [".m"]) [long, "a.m"] [[], ["a.m"]] ∧
      (collect files [long, "a.m"] [".m"]).1 = .error ⟨.nameTooLong, [long]⟩ := by
  intro files long
  have size : long.utf8ByteSize = 256 := by decide +kernel
  have chars : ∀ c ∈ long.toList, c = 'n' := by
    rw [String.toList_ofList]
    exact fun c member => List.eq_of_mem_replicate member
  have named : IsName long := by
    refine ⟨?_, ?_, fun slash => absurd (chars _ slash) (by decide)⟩ <;> intro same
    all_goals
      rw [same] at size
      exact absurd size (by decide)
  have text : (Path.ofString long).text = long := by
    rw [Path.ofString_of_name named, Path.text_of_name]
  have tooLong : files.find long = .error .nameTooLong :=
    files.find_of_long_name named (fun null => absurd (chars _ null) (by decide))
      (by rw [size]; decide) (by rw [size]; decide)
  have text' : (Path.ofString "a.m").text = "a.m" := by decide +kernel
  have present : files.find (Path.ofString "a.m").text = .ok (["a.m"], .file [] 0o644) := by
    rw [Files.find_eq_ok_iff, admitPath_eq_ok_iff, Files.walk_eq_ok_iff]
    decide +kernel
  have one : StandsFor files [".m"] long [] := .nothing (by simp [text, tooLong])
  have two : StandsFor files [".m"] "a.m" [(Path.ofString "a.m").text] := .file present
  rw [text'] at two
  refine ⟨by decide +kernel, .cons one (.cons two .nil), ?_⟩
  simp only [collect_fst, expandAll, expand, text, Files.lookFor, tooLong]
  rfl

end Source

end WarningSweep
