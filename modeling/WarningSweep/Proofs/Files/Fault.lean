import WarningSweep.Proofs.Files.Replace

/-!
# Faults of replacing a file

Only a NUL makes a fault that the system does not report.  Where neither the path of the target nor
that of the working directory holds one, replacing a file fails with reported faults only.
-/

namespace WarningSweep

theorem FileFault.isReported_iff {fault : FileFault} :
    fault.isReported = true ↔ fault.cause ≠ .noPath := by
  obtain ⟨cause, paths⟩ := fault
  cases cause <;> simp [isReported, FileCause.number?]

def IsNullFree (text : String) : Prop := '\x00' ∉ text.toList

instance : DecidablePred IsNullFree := fun text =>
  inferInstanceAs (Decidable ('\x00' ∉ text.toList))

theorem isNullFree_append {first second : String} :
    IsNullFree (first ++ second) ↔ IsNullFree first ∧ IsNullFree second := by
  simp [IsNullFree]

theorem Stamp.isNullFree_text (stamp : Stamp) : IsNullFree stamp.text := by
  intro null
  have plain := List.all_eq_true.mp stamp.isPlain _ null
  revert plain
  decide

theorem Path.isNullFree_of_mem_names {written : String} (plain : IsNullFree written) :
    ∀ name ∈ (Path.ofString written).names, IsNullFree name := by
  intro name member null
  exact plain ((mem_toList_iff_pathNames (by decide) (by decide)).mpr ⟨name, member, null⟩)

theorem forall_mem_collapseNames {P : String → Prop} (above : P "..") {rooted : Bool}
    {done names : List String} (before : ∀ name ∈ done, P name) (given : ∀ name ∈ names, P name) :
    ∀ name ∈ collapseNames rooted done names, P name := by
  fun_induction collapseNames rooted done names with
  | case1 done => simpa using before
  | case2 rest inductionHypothesis =>
      refine inductionHypothesis ?_ fun name member => given name (List.mem_cons_of_mem _ member)
      intro name member
      split at member
      · cases member
      · exact List.mem_singleton.mp member ▸ above
  | case3 rest before' inductionHypothesis =>
      refine inductionHypothesis ?_ fun name member => given name (List.mem_cons_of_mem _ member)
      exact List.forall_mem_cons.mpr ⟨above, before⟩
  | case4 rest last before' notAbove inductionHypothesis =>
      exact inductionHypothesis (fun name member => before name (List.mem_cons_of_mem _ member))
        fun name member => given name (List.mem_cons_of_mem _ member)
  | case5 done name rest notAbove inductionHypothesis =>
      rw [List.forall_mem_cons] at given
      exact inductionHypothesis (List.forall_mem_cons.mpr ⟨given.1, before⟩) given.2

namespace Files

@[mk_iff]
structure IsNamed (files : Files) : Prop where
  here : ∀ name ∈ files.here, IsNullFree name
  hereText : IsNullFree files.hereText

instance (files : Files) : Decidable files.IsNamed :=
  decidable_of_iff' _ (isNamed_iff files)

variable {files : Files} {path : Path}

section

variable (named : files.IsNamed) (names : ∀ name ∈ path.names, IsNullFree name)

include named names

theorem isNullFree_of_mem_absoluteNames : ∀ name ∈ files.absoluteNames path, IsNullFree name := by
  rw [absoluteNames]
  refine forall_mem_collapseNames (P := IsNullFree) (by simp [IsNullFree]) (by simp) ?_
  split
  · intro name member
    exact (List.mem_append.mp member).elim (named.here name) (names name)
  · exact names

theorem isNullFree_absoluteText : IsNullFree (files.absoluteText path) := by
  have all := isNullFree_of_mem_absoluteNames named names
  rw [IsNullFree, absoluteText]
  split
  · rw [String.toList_intercalate, List.map_cons, show "/".toList = ['/'] from rfl,
      mem_intercalate_iff (by decide)]
    rintro ⟨part, member, null⟩
    rcases List.mem_cons.mp member with rfl | later
    · exact named.hereText null
    · obtain ⟨name, within, rfl⟩ := List.mem_map.mp later
      exact all name (List.mem_of_mem_drop within) null
  · rw [Path.mem_toList_text_iff (by decide) (by decide)]
    rintro ⟨name, member, null⟩
    exact all name member null

omit named in
theorem isNullFree_temporaryName (stamp : Stamp) :
    IsNullFree (temporaryName path stamp) := by
  have name : IsNullFree path.name := by
    rw [Path.name]
    cases last : path.names.getLast? with
    | none => simp [IsNullFree]
    | some name => exact names name (List.mem_of_getLast? last)
  simp only [temporaryName, isNullFree_append]
  exact ⟨⟨⟨⟨by decide, name⟩, by decide⟩, stamp.isNullFree_text⟩, by decide⟩

theorem temporaryPlace_ne_noPath (stamp : Stamp) :
    (files.temporaryPlace path stamp).2 ≠ .error .noPath := by
  have written : IsNullFree (files.absoluteText
      { path.parent with names := path.parent.names ++ [temporaryName path stamp] }) := by
    apply isNullFree_absoluteText named
    intro name member
    rcases List.mem_append.mp member with above | last
    · exact names name (List.dropLast_subset _ above)
    · exact List.mem_singleton.mp last ▸ isNullFree_temporaryName names stamp
  simp only [temporaryPlace]
  intro failed
  cases admitted : admitPath (files.absoluteText
      { path.parent with names := path.parent.names ++ [temporaryName path stamp] }) with
  | error cause =>
      rw [admitted] at failed
      cases failed
      exact written (admitPath_eq_noPath_iff.mp admitted)
  | ok _ =>
      rw [admitted] at failed
      exact mapError_cause_ne_noPath _ failed

theorem freePlace_ne_noPath {stamps : List Stamp} {fault : FileFault}
    (failed : files.freePlace path stamps = .error fault) :
    fault.cause ≠ .noPath := by
  induction stamps with
  | nil =>
      cases failed
      simp
  | cons stamp rest inductionHypothesis =>
      have here := temporaryPlace_ne_noPath named names stamp
      rw [freePlace] at failed
      rcases place : files.temporaryPlace path stamp with ⟨written, cause | (_ | location)⟩ <;>
        rw [place] at failed here
      · cases failed
        rintro rfl
        exact here rfl
      · exact inductionHypothesis failed
      · cases failed

end

theorem replacePlace_ne_noPath : files.replacePlace path ≠ .error .noPath := by
  rw [replacePlace]
  split
  next walked =>
    intro failed
    cases failed
    exact walk_ne_noPath _ _ walked
  · simp
  · simp
  · split <;> simp

section

variable {mishap : Option Mishap}
  (harmless : ∀ struck, mishap = some struck → struck.cause ≠ .noPath)
  {fault : FileFault}

include harmless

theorem risk_ne_noPath {step : ReplaceStep} (failed : risk mishap step = .error fault) :
    fault.cause ≠ .noPath := by
  cases mishap with
  | none => cases failed
  | some struck =>
      rw [risk] at failed
      split at failed
      · cases failed
        exact harmless struck rfl
      · cases failed

theorem grantedMode_ne_noPath (failed : files.grantedMode mishap path = .error fault) :
    fault.cause ≠ .noPath := by
  rw [grantedMode] at failed
  split at failed
  next struck =>
    cases failed
    exact risk_ne_noPath harmless struck
  next looked =>
    cases failed
    rw [lookFor] at looked
    split at looked <;> cases looked
    simp
  next => cases failed
  next =>
    cases struck : risk mishap .setMode with
    | error fault' =>
        rw [struck] at failed
        cases failed
        exact risk_ne_noPath harmless struck
    | ok _ =>
        rw [struck] at failed
        cases failed

theorem landing_ne_noPath (plain : IsNullFree path.text) {written : String}
    (failed : files.landing mishap path written = .error fault) : fault.cause ≠ .noPath := by
  rw [landing] at failed
  split at failed
  next struck =>
    cases failed
    exact risk_ne_noPath harmless struck
  next refused =>
    cases failed
    rintro rfl
    exact plain (admitPath_eq_noPath_iff.mp refused)
  next cause _ place =>
    cases failed
    rintro rfl
    exact replacePlace_ne_noPath place
  next => cases failed

end

theorem isReported_of_replace {stamps : List Stamp} {written : String} {bytes : Bytes}
    {moveFault : Option FileCause}
    (named : files.IsNamed) (plain : IsNullFree written)
    (moves : moveFault ≠ some .noPath) {fault : FileFault}
    (failed : (replace stamps written bytes moveFault files).1 = .error fault) :
    fault.isReported = true := by
  have harmless : ∀ struck : Mishap,
      (moveFault.map fun cause => { step := .move, cause }) = some struck →
      struck.cause ≠ .noPath := by
    intro struck same
    obtain ⟨cause, rfl, rfl⟩ := Option.map_eq_some_iff.mp same
    simpa using moves
  have text : IsNullFree (Path.ofString written).text := by
    rw [IsNullFree, Path.mem_toList_text_ofString_iff (by decide) (by decide)]
    exact plain
  rw [FileFault.isReported_iff]
  rw [replace, replaceAmid_eq] at failed
  generalize (moveFault.map fun cause => ({ step := .move, cause } : Mishap)) = mishap
    at harmless failed
  split at failed
  next made =>
    cases failed
    exact risk_ne_noPath harmless made
  next free =>
    cases failed
    exact freePlace_ne_noPath named (Path.isNullFree_of_mem_names plain) free
  next =>
    split at failed
    next granted =>
      cases failed
      exact grantedMode_ne_noPath harmless granted
    next landed =>
      cases failed
      exact landing_ne_noPath harmless text landed
    next => cases failed

end Files

end WarningSweep
