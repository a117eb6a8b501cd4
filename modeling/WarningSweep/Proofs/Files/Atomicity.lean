import WarningSweep.Proofs.Files.Replace
import WarningSweep.Text.Encoding

/-!
# Replacing a file is all or nothing

Each of the four steps of replacing a file can fail from outside, writing even after some of the
bytes.  A replacement that fails leaves the files exactly as they were.  One that succeeds has put
the whole text in the place of the target, and no trace of the temporary file is left.
-/

namespace WarningSweep

theorem Tree.erase_put_self (tree : Tree) (location : Location) (entry : Entry) :
    (tree.put location entry).erase location = tree.erase location := by
  rw [erase, erase, put]
  congr 1
  induction tree.entries with
  | nil => simp [store]
  | cons other rest inductionHypothesis =>
      by_cases same : other.1 = location
      · simp [store, same]
      · rw [store, if_neg same, List.filter_cons_of_pos (by simpa using same),
          List.filter_cons_of_pos (by simpa using same), inductionHypothesis]

namespace Files

variable {files : Files} {path : Path} {mishap : Option Mishap} {location : Location}

theorem risk_eq_ok_iff {step : ReplaceStep} :
    risk mishap step = .ok () ↔ ∀ struck, mishap = some struck → struck.step ≠ step := by
  cases mishap with
  | none => simp [risk]
  | some struck => by_cases same : struck.step = step <;> simp [risk, same]

/-- What a replacement needs: a place for the temporary file, a path that leads to a place for a
file, and no mishap.  The mode is set only for a file that is there. -/
structure IsReplaceable (files : Files) (stamps : List Stamp) (mishap : Option Mishap)
    (path : Path) (location : Location) : Prop where
  free : ∃ temporary, files.freePlace path stamps = .ok temporary
  admitted : admitPath path.text = .ok ()
  place : files.replacePlace path = .ok location
  spared : ∀ struck, mishap = some struck →
    struck.step = .setMode ∧ files.tree.get? location = none

theorem exists_grantedMode_iff
    (looked : files.lookFor path.text = .ok ((files.tree.get? location).map (location, ·))) :
    (∃ mode, files.grantedMode mishap path = .ok mode) ↔
      risk mishap .fill = .ok () ∧
        (files.tree.get? location = none ∨ risk mishap .setMode = .ok ()) := by
  rw [grantedMode, looked]
  rcases risk mishap .fill with fault | _
  · simp
  rcases files.tree.get? location with _ | entry
  · simp
  · rcases risk mishap .setMode with fault | _ <;> simp [Except.map]

theorem spared_iff :
    (risk mishap .make = .ok () ∧ risk mishap .fill = .ok () ∧
      (files.tree.get? location = none ∨ risk mishap .setMode = .ok ()) ∧
      risk mishap .move = .ok ()) ↔
    ∀ struck, mishap = some struck → struck.step = .setMode ∧ files.tree.get? location = none := by
  simp only [risk_eq_ok_iff]
  cases mishap with
  | none => simp
  | some struck =>
      simp only [Option.some.injEq, forall_eq']
      cases struck.step <;> simp

theorem replaceAmid_succeeds_iff (files : Files) (stamps : List Stamp) (mishap : Option Mishap)
    (written : String) (bytes : Bytes) :
    (replaceAmid stamps mishap written bytes files).1 = .ok () ↔
      ∃ location, IsReplaceable files stamps mishap (Path.ofString written) location := by
  have proper := Path.isProper_ofString written
  rw [replaceAmid_eq]
  constructor
  · intro done
    split at done
    · cases done
    · cases done
    next temporary made free =>
      obtain ⟨vacant, named⟩ := of_freePlace_eq_ok free
      split at done
      · cases done
      · cases done
      next mode location granted landed =>
        obtain ⟨moved, admitted, place⟩ := landing_eq_ok_iff.mp landed
        have place := (replacePlace_put_iff vacant _ _ named).mp place
        obtain ⟨filled, given⟩ :=
          (exists_grantedMode_iff (lookFor_of_replacePlace proper admitted place)).mp
            ⟨mode, granted⟩
        exact ⟨location, ⟨temporary, free⟩, admitted, place,
          spared_iff.mp ⟨made, filled, given, moved⟩⟩
  · rintro ⟨location, ⟨temporary, free⟩, admitted, place, spared⟩
    obtain ⟨made, filled, given, moved⟩ := spared_iff.mpr spared
    obtain ⟨vacant, named⟩ := of_freePlace_eq_ok free
    obtain ⟨mode, granted⟩ :=
      (exists_grantedMode_iff (lookFor_of_replacePlace proper admitted place)).mpr ⟨filled, given⟩
    have landed : (files.beside temporary.2).landing mishap (Path.ofString written) temporary.1 =
        .ok location :=
      landing_eq_ok_iff.mpr ⟨moved, admitted, (replacePlace_put_iff vacant _ _ named).mpr place⟩
    simp only [made, free, granted, landed]

/-- Whatever fails, a replacement that does not succeed leaves the files exactly as they were.  One
that succeeds puts the whole text in the place where the path leads, with the mode of the file that
was there or else a private one, and the trees do not differ in anything else. -/
theorem replacement_atomic (stamps : List Stamp) (mishap : Option Mishap) (written : String)
    (text : Text) (files : Files) :
    (∃ fault, replaceAmid stamps mishap written text.encode files = (.error fault, files) ∧
      ∀ location, ¬ IsReplaceable files stamps mishap (Path.ofString written) location) ∨
    ∃ location after, replaceAmid stamps mishap written text.encode files = (.ok (), after) ∧
      IsReplaceable files stamps mishap (Path.ofString written) location ∧
      ((files.tree.get? location = none ∧
          after.tree.get? location = some (.file text.encode 0o600)) ∨
        ∃ content mode, files.tree.get? location = some (.file content mode) ∧
          after.tree.get? location = some (.file text.encode mode)) ∧
      after.tree.erase location = files.tree.erase location ∧
      SameOutside (· = location) files after := by
  have succeeds := replaceAmid_succeeds_iff files stamps mishap written text.encode
  rcases replaceAmid_cases stamps mishap written text.encode files with
    ⟨fault, failed⟩ | ⟨location, place, done⟩
  · rw [failed] at succeeds
    refine .inl ⟨fault, failed, ?_⟩
    intro location replaceable
    cases succeeds.mpr ⟨location, replaceable⟩
  · rw [done] at succeeds
    obtain ⟨other, replaceable⟩ := succeeds.mp rfl
    obtain rfl : other = location := Except.ok.inj (replaceable.place.symm.trans place)
    refine .inr ⟨other, _, done, replaceable, ?_, Tree.erase_put_self _ _ _,
      sameOutside_put files other _⟩
    have present : (files.put other (.file text.encode (files.modeAt other))).tree.get?
        other = some (.file text.encode (files.modeAt other)) :=
      Tree.get?_put_self _ _ (ne_nil_of_replacePlace place)
    rw [present]
    rcases get?_of_replacePlace place with nothing | ⟨content, mode, found⟩
    · exact .inl ⟨nothing, by simp [modeAt, nothing, privateMode]⟩
    · exact .inr ⟨content, mode, found, by simp [modeAt, found, modeOf]⟩

end Files

end WarningSweep
