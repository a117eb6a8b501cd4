import WarningSweep.Proofs.Files.Fault
import WarningSweep.Proofs.Files.Tree

/-!
# What writing a file does

A file that has been written is read back.  Writing, and making directories, fails with a fault that
the system does not report only where the text of the path holds a NUL.
-/

namespace WarningSweep

namespace Tree

variable {tree : Tree} {location place : Location} {names : List String}

/-- The entry at a place is the one that a file can be written over. -/
def IsOpenAt (tree : Tree) (place : Location) : Prop :=
  tree.get? place = none ∨ ∃ content mode, tree.get? place = some (.file content mode)

theorem IsOpenAt.ne_nil (isOpen : tree.IsOpenAt place) : place ≠ [] :=
  isOpen.elim ne_nil_of_get?_eq_none fun ⟨_, _, found⟩ => ne_nil_of_get?_eq_file found

theorem walk_put_found {content old : Bytes} {mode oldMode : Nat}
    (stopped : tree.walk location names = .ok (.vacant place) ∨
      tree.walk location names = .ok (.found place (.file old oldMode))) :
    (tree.put place (.file content mode)).walk location names =
      .ok (.found place (.file content mode)) := by
  have isOpen : tree.IsOpenAt place :=
    stopped.imp (fun vacant => (exists_of_walk_vacant vacant).1) fun found =>
      ⟨old, oldMode, get?_of_walk_found found⟩
  have here := get?_put_self tree (.file content mode) isOpen.ne_nil
  induction names generalizing location with
  | nil => simp [walk] at stopped
  | cons name rest inductionHypothesis =>
      rw [walk_cons]
      rcases tree.walk_cons_cases location name rest with ⟨back, same⟩ | ⟨-, -, same⟩ |
        ⟨named, short, ⟨-, last, same⟩ | ⟨-, -, same⟩ | ⟨directory, same⟩ |
          ⟨_, _, -, ⟨last, same⟩ | ⟨-, same⟩⟩⟩ <;>
        rw [same] at stopped
      · rw [if_pos back]
        exact inductionHypothesis stopped
      · rcases stopped with stopped | stopped <;> cases stopped
      · rcases stopped with stopped | stopped <;> cases stopped
        rw [if_neg named, if_neg (Nat.not_lt.mpr short), here]
        exact if_pos last
      · rcases stopped with stopped | stopped <;> cases stopped
      · have differs : location ++ [name] ≠ place := by
          rintro rfl
          rcases isOpen with nothing | ⟨_, _, file⟩
          · rw [directory] at nothing
            cases nothing
          · rw [directory] at file
            cases file
        rw [if_neg named, if_neg (Nat.not_lt.mpr short), get?_put_of_ne _ _ differs, directory]
        exact inductionHypothesis stopped
      · rcases stopped with stopped | stopped <;> cases stopped
        rw [if_neg named, if_neg (Nat.not_lt.mpr short), here]
        exact if_pos last
      · rcases stopped with stopped | stopped <;> cases stopped

end Tree

namespace Files

open Operation

variable {files : Files} {written : String} {path : Path} {fault : FileFault}

theorem write_apply (written : String) (content : Bytes) (files : Files) :
    write written content files =
      match files.openPlace written with
      | .error cause => (.error ⟨cause, [written]⟩, files)
      | .ok (location, _, mode) => (.ok (), files.put location (.file content mode)) := by
  rw [write, bind_apply, get_apply]
  dsimp only
  cases files.openPlace written <;> rfl

theorem write_fst_eq (written : String) (first second : Bytes) (files : Files) :
    (write written first files).1 = (write written second files).1 := by
  rw [write_apply, write_apply]
  cases files.openPlace written <;> rfl

theorem openPlace_eq_ok {location : Location} {content : Bytes} {mode : Nat}
    (opened : files.openPlace written = .ok (location, content, mode)) :
    admitPath written = .ok () ∧ PathEnd.ofString written = .name ∧
      (files.walk (leadingSlashes written) (pathNames written) = .ok (.vacant location) ∨
        files.walk (leadingSlashes written) (pathNames written) =
          .ok (.found location (.file content mode))) := by
  simp only [openPlace, bind_eq_ok_iff] at opened
  obtain ⟨⟨⟩, admitted, rest⟩ := opened
  cases ending : PathEnd.ofString written with
  | dot =>
      rw [ending] at rest
      cases rest
  | slash =>
      rw [ending] at rest
      cases rest
  | name =>
      rw [ending] at rest
      obtain ⟨stop, walked, rest⟩ := bind_eq_ok_iff.mp rest
      refine ⟨admitted, rfl, ?_⟩
      rcases stop with ⟨place, _ | ⟨old, oldMode⟩⟩ | place <;> cases rest
      · exact .inr walked
      · exact .inl walked

theorem read_of_write {content : Bytes} {after : Files}
    (done : write written content files = (.ok (), after)) : after.read written = .ok content := by
  rw [write_apply] at done
  cases opened : files.openPlace written with
  | error cause =>
      rw [opened] at done
      cases done
  | ok place =>
      obtain ⟨location, old, mode⟩ := place
      rw [opened] at done
      cases done
      obtain ⟨admitted, ending, stopped⟩ := openPlace_eq_ok opened
      simp only [walk_eq_ok_iff] at stopped
      have found : (files.put location (.file content mode)).find written =
          .ok (location, .file content mode) :=
        find_eq_ok_iff.mpr ⟨admitted, walk_eq_ok_iff.mpr (Tree.walk_put_found stopped), .inr ending⟩
      rw [read, found]

theorem ensureDirectory_apply (path : Path) (orElse : FileFault → FileAction Unit) (files : Files) :
    ensureDirectory path orElse files =
      match files.makeDirectory path with
      | .ok after => (.ok (), after)
      | .error cause =>
        if cause = .missing then orElse ⟨cause, [path.text]⟩ files
        else if files.isDirectory path.text then (.ok (), files)
        else (.error ⟨cause, [path.text]⟩, files) := by
  rw [ensureDirectory, bind_apply, get_apply]
  dsimp only
  cases files.makeDirectory path with
  | ok after => rfl
  | error cause =>
      by_cases missing : cause = .missing
      · simp only [missing, if_true]
      · by_cases there : files.isDirectory path.text = true
        · simp only [missing, there, if_true, if_false]
          rfl
        · simp only [missing, there, if_false]
          rfl

theorem exists_ensureDirectories_eq (path : Path) :
    ∃ orElse, ensureDirectories path = ensureDirectory path orElse := by
  obtain ⟨root, names⟩ := path
  cases reversed : names.reverse with
  | nil =>
      have empty : names = [] := List.reverse_eq_nil_iff.mp reversed
      subst empty
      exact ⟨throw, rfl⟩
  | cons name above =>
      have whole : names = (name :: above).reverse := by rw [← reversed, List.reverse_reverse]
      rw [ensureDirectories, reversed, ensureNames, ← whole]
      exact ⟨_, rfl⟩

theorem ensureDirectories_of_makeDirectory {after : Files}
    (made : files.makeDirectory path = .ok after) :
    ensureDirectories path files = (.ok (), after) := by
  obtain ⟨orElse, same⟩ := exists_ensureDirectories_eq path
  rw [same, ensureDirectory_apply, made]

end Files

end WarningSweep
