import WarningSweep.Files.Replace
import WarningSweep.Proofs.Files.Access
import WarningSweep.Proofs.Files.Tree

/-!
# What replacing a file does

Replacing a file either changes nothing at all, or puts the new bytes in the place of the target and
leaves every other place as it was.  Up to the last step only the temporary file is touched, and
removing it gives back the files as they were.  Whether replacing fails, and why, depends only on
the shape of the tree.
-/

namespace WarningSweep

namespace Tree

theorem store_of_lookup_eq_none {location : Location} {entries : List (Location × Entry)}
    (vacant : entries.lookup location = none) (entry : Entry) :
    store location entry entries = entries ++ [(location, entry)] := by
  induction entries with
  | nil => rfl
  | cons other rest inductionHypothesis =>
      obtain ⟨place, old⟩ := other
      rw [List.lookup_cons] at vacant
      split at vacant
      · cases vacant
      next differs =>
        have apart : place ≠ location := fun same => by simp [same] at differs
        simp [store, apart, inductionHypothesis vacant]

theorem lookup_eq_none_of_get? {tree : Tree} {location : Location}
    (vacant : tree.get? location = none) : tree.entries.lookup location = none := by
  rw [get?] at vacant
  split at vacant
  · cases vacant
  · exact vacant

/-- A file that is put in a vacant place and removed leaves no trace. -/
theorem erase_put {tree : Tree} {location : Location} (vacant : tree.get? location = none)
    (entry : Entry) : (tree.put location entry).erase location = tree := by
  have none := lookup_eq_none_of_get? vacant
  have kept : tree.entries.filter (fun other => other.1 ≠ location) = tree.entries := by
    rw [List.filter_eq_self]
    intro other member
    have differs := List.lookup_eq_none_iff.mp none other member
    have apart : other.1 ≠ location := fun same => by simp [same] at differs
    simpa using apart
  rw [erase, put, store_of_lookup_eq_none none, List.filter_append, kept]
  simp

theorem store_store (location : Location) (first second : Entry)
    (entries : List (Location × Entry)) :
    store location second (store location first entries) = store location second entries := by
  induction entries with
  | nil => simp [store]
  | cons other rest inductionHypothesis =>
      by_cases same : other.1 = location
      · simp [store, same]
      · simp [store, same, inductionHypothesis]

theorem put_put (tree : Tree) (location : Location) (first second : Entry) :
    (tree.put location first).put location second = tree.put location second := by
  simp [put, store_store]

end Tree

namespace Files

open Operation

theorem put_put (files : Files) (place : Location) (first second : Entry) :
    (files.put place first).put place second = files.put place second := by
  simp [put, Tree.put_put]

/-- The first free place for a temporary file beside the target, or why there is none. -/
def freePlace (files : Files) (path : Path) : List Stamp → Except FileFault (String × Location)
  | [] => .error ⟨.exists, []⟩
  | stamp :: rest =>
    match files.temporaryPlace path stamp with
    | (written, .error cause) => .error ⟨cause, [written]⟩
    | (_, .ok (.found ..)) => files.freePlace path rest
    | (written, .ok (.vacant location)) => .ok (written, location)

theorem attempt_eq (path : Path) (files : Files) (stamps : List Stamp) :
    makeTemporary.attempt path files stamps files =
      match files.freePlace path stamps with
      | .error fault => (.error fault, files)
      | .ok place => (.ok place, files.put place.2 (.file [] privateMode)) := by
  induction stamps with
  | nil => rfl
  | cons stamp rest inductionHypothesis =>
      rw [makeTemporary.attempt, freePlace]
      rcases files.temporaryPlace path stamp with ⟨written, cause | (_ | location)⟩
      · rfl
      · exact inductionHypothesis
      · rfl

theorem makeTemporary_apply (stamps : List Stamp) (path : Path) (files : Files) :
    makeTemporary stamps path files =
      match files.freePlace path stamps with
      | .error fault => (.error fault, files)
      | .ok place => (.ok place, files.put place.2 (.file [] privateMode)) :=
  attempt_eq path files stamps

/-- The files hold the same in every place but those in `changed`. -/
structure SameOutside (changed : Location → Prop) (files after : Files) : Prop where
  here_eq : after.here = files.here
  hereText_eq : after.hereText = files.hereText
  get?_eq : ∀ location, ¬ changed location → after.tree.get? location = files.tree.get? location

theorem SameOutside.refl (changed : Location → Prop) (files : Files) :
    SameOutside changed files files := ⟨rfl, rfl, fun _ _ => rfl⟩

/-- The files are in one working directory and their trees have one shape. -/
structure Alike (first second : Files) : Prop where
  here_eq : first.here = second.here
  hereText_eq : first.hereText = second.hereText
  tree : Tree.Alike first.tree second.tree

namespace Alike

variable {first second : Files} (alike : Alike first second)

include alike

theorem absoluteNames_eq (path : Path) : first.absoluteNames path = second.absoluteNames path := by
  simp only [absoluteNames, alike.here_eq]

theorem absoluteText_eq (path : Path) : first.absoluteText path = second.absoluteText path := by
  simp only [absoluteText, alike.absoluteNames_eq, alike.here_eq, alike.hereText_eq]

theorem walk_view (root : Nat) (names : List String) :
    (first.walk root names).map Tree.Stop.view = (second.walk root names).map Tree.Stop.view := by
  rw [Files.walk, Files.walk, alike.here_eq, map_mapError, map_mapError, alike.tree.walk_view]

theorem temporaryPlace_view (path : Path) (stamp : Stamp) :
    (first.temporaryPlace path stamp).1 = (second.temporaryPlace path stamp).1 ∧
      (first.temporaryPlace path stamp).2.map Tree.Stop.view =
        (second.temporaryPlace path stamp).2.map Tree.Stop.view := by
  simp only [temporaryPlace, alike.absoluteText_eq, alike.absoluteNames_eq, true_and]
  rcases admitPath _ with cause | _
  · rfl
  · change (Except.mapError _ _).map _ = (Except.mapError _ _).map _
    rw [map_mapError, map_mapError, alike.tree.walk_view]

theorem freePlace_eq (path : Path) (stamps : List Stamp) :
    first.freePlace path stamps = second.freePlace path stamps := by
  induction stamps with
  | nil => rfl
  | cons stamp rest inductionHypothesis =>
      rw [freePlace, freePlace]
      obtain ⟨written, view⟩ := alike.temporaryPlace_view path stamp
      generalize first.temporaryPlace path stamp = one at written view ⊢
      generalize second.temporaryPlace path stamp = two at written view ⊢
      obtain ⟨name, one⟩ := one
      obtain ⟨name', two⟩ := two
      obtain rfl : name = name' := written
      rcases Tree.Stop.cases_of_view_eq view with ⟨_, rfl, rfl⟩ | ⟨_, rfl, rfl⟩ |
        ⟨_, _, _, rfl, rfl, -⟩
      · rfl
      · rfl
      · exact inductionHypothesis

theorem replacePlace_eq (path : Path) : first.replacePlace path = second.replacePlace path := by
  rw [replacePlace, replacePlace]
  rcases Tree.Stop.cases_of_view_eq (alike.walk_view path.root path.names) with
    ⟨_, one, two⟩ | ⟨_, one, two⟩ | ⟨_, entry, other, one, two, kinds⟩ <;> rw [one, two]
  cases entry <;> cases other <;> first | rfl | cases kinds

theorem put (place : Location) {one two : Entry} (same : one.isFile = two.isFile) :
    Alike (first.put place one) (second.put place two) where
  here_eq := alike.here_eq
  hereText_eq := alike.hereText_eq
  tree := alike.tree.put place same

theorem present_eq (written : String) :
    (first.lookFor written).map Option.isSome = (second.lookFor written).map Option.isSome := by
  rw [lookFor, lookFor, find, find]
  rcases admitPath written with cause | _
  · rfl
  · rcases Tree.Stop.cases_of_view_eq
        (alike.walk_view (leadingSlashes written) (pathNames written)) with
      ⟨_, one, two⟩ | ⟨_, one, two⟩ | ⟨_, entry, other, one, two, kinds⟩ <;> rw [one, two]
    cases entry <;> cases other <;> simp only [Entry.isFile, Bool.false_eq_true,
      Bool.true_eq_false] at kinds
    · rfl
    · simp only [bind, Except.bind]
      by_cases name : PathEnd.ofString written = .name
      · simp only [name, if_true]
        rfl
      · simp only [name, if_false]

end Alike

theorem Alike.refl (files : Files) : Alike files files := ⟨rfl, rfl, .refl files.tree⟩

section

variable {files : Files} {path : Path}

theorem temporaryName_ne (path : Path) (stamp : Stamp) : temporaryName path stamp ≠ path.name := by
  intro same
  have size := congrArg String.length same
  have dot : ".".length = 1 := rfl
  simp only [temporaryName, String.length_append] at size
  omega

theorem walk_of_temporaryPlace {stamp : Stamp} {written : String} {stop : Tree.Stop}
    (place : files.temporaryPlace path stamp = (written, .ok stop)) :
    files.tree.walk [] (files.absoluteNames path.parent ++ [temporaryName path stamp]) =
      .ok stop := by
  simp only [temporaryPlace, Prod.mk.injEq, bind_eq_ok_iff] at place
  obtain ⟨-, -, -, walked⟩ := place
  exact mapError_eq_ok_iff.mp walked

theorem of_freePlace_eq_ok {stamps : List Stamp} {temporary : String × Location}
    (free : files.freePlace path stamps = .ok temporary) :
    files.tree.get? temporary.2 = none ∧ ∀ above, temporary.2 ≠ above ++ [path.name] := by
  induction stamps with
  | nil => cases free
  | cons stamp rest inductionHypothesis =>
      rw [freePlace] at free
      rcases place : files.temporaryPlace path stamp with ⟨written, cause | (_ | location)⟩ <;>
        rw [place] at free
      · cases free
      · exact inductionHypothesis free
      · cases free
        obtain ⟨nothing, above, name, split, last⟩ :=
          Tree.exists_of_walk_vacant (walk_of_temporaryPlace place)
        refine ⟨nothing, ?_⟩
        intro above' same
        obtain ⟨-, names⟩ := List.append_inj' (split.symm.trans same) rfl
        simp only [List.getLast?_append, List.getLast?_singleton, Option.some_or,
          Option.some.injEq] at last
        simp only [← last, List.cons.injEq, and_true] at names
        exact temporaryName_ne path stamp names

theorem of_replacePlace_eq_ok {location : Location}
    (place : files.replacePlace path = .ok location) :
    files.walk path.root path.names = .ok (.vacant location) ∨ ∃ content mode,
      files.walk path.root path.names = .ok (.found location (.file content mode)) := by
  rw [replacePlace] at place
  split at place
  · cases place
  next vacant =>
    cases place
    exact .inl vacant
  next found =>
    cases place
    exact .inr ⟨_, _, found⟩
  · split at place <;> cases place

theorem get?_of_replacePlace {location : Location}
    (place : files.replacePlace path = .ok location) :
    files.tree.get? location = none ∨
      ∃ content mode, files.tree.get? location = some (.file content mode) := by
  rcases of_replacePlace_eq_ok place with vacant | ⟨content, mode, found⟩
  · exact .inl (Tree.exists_of_walk_vacant (walk_eq_ok_iff.mp vacant)).1
  · exact .inr ⟨content, mode, Tree.get?_of_walk_found (walk_eq_ok_iff.mp found)⟩

theorem name_of_walk_vacant {location : Location}
    (vacant : files.walk path.root path.names = .ok (.vacant location)) :
    ∃ above, location = above ++ [path.name] := by
  obtain ⟨-, above, name, split, last⟩ := Tree.exists_of_walk_vacant (walk_eq_ok_iff.mp vacant)
  exact ⟨above, by simp [split, Path.name, last]⟩

section

variable {vacancy : Location} (vacant : files.tree.get? vacancy = none) (content : Bytes)
  (mode : Nat)

include vacant

theorem walk_put_cases (root : Nat) (names : List String) :
    (files.put vacancy (.file content mode)).walk root names = files.walk root names ∨
    (files.walk root names = .ok (.vacant vacancy) ∧
      (files.put vacancy (.file content mode)).walk root names =
        .ok (.found vacancy (.file content mode))) ∨
    (files.walk root names = .error .missing ∧
      (files.put vacancy (.file content mode)).walk root names = .error .notDirectory) := by
  rcases Tree.walk_put_cases vacant content mode (if root = 0 then files.here else []) names with
    same | ⟨before, after⟩ | ⟨before, after⟩
  · exact .inl (congrArg (Except.mapError Tree.Block.cause) same)
  · exact .inr (.inl ⟨walk_eq_ok_iff.mpr before, walk_eq_ok_iff.mpr after⟩)
  · exact .inr (.inr ⟨congrArg (Except.mapError Tree.Block.cause) before,
      congrArg (Except.mapError Tree.Block.cause) after⟩)

/-- A temporary file is not in the way of its target: at most it blocks a walk that fails anyway. -/
theorem walk_put_of_unnamed (named : ∀ above, vacancy ≠ above ++ [path.name]) :
    (files.put vacancy (.file content mode)).walk path.root path.names =
        files.walk path.root path.names ∨
      (files.walk path.root path.names = .error .missing ∧
        (files.put vacancy (.file content mode)).walk path.root path.names =
          .error .notDirectory) := by
  rcases walk_put_cases vacant content mode path.root path.names with same | ⟨stopped, -⟩ | blocked
  · exact .inl same
  · obtain ⟨above, split⟩ := name_of_walk_vacant stopped
    exact absurd split (named above)
  · exact .inr blocked

theorem replacePlace_put_iff (named : ∀ above, vacancy ≠ above ++ [path.name])
    {location : Location} :
    (files.put vacancy (.file content mode)).replacePlace path = .ok location ↔
      files.replacePlace path = .ok location := by
  rcases walk_put_of_unnamed vacant content mode named with same | ⟨before, after⟩
  · rw [replacePlace, replacePlace, same]
  · simp [replacePlace, before, after]

theorem lookFor_put (named : ∀ above, vacancy ≠ above ++ [path.name]) (proper : path.IsProper) :
    (files.put vacancy (.file content mode)).lookFor path.text = files.lookFor path.text := by
  rw [lookFor, lookFor, find, find, Path.leadingSlashes_text proper, Path.pathNames_text proper]
  rcases admitPath path.text with cause | _
  · rfl
  · rcases walk_put_of_unnamed vacant content mode named with same | ⟨before, after⟩
    · rw [same]
    · rw [before, after]
      rfl

end

theorem bytesReached_of_risk {mishap : Option Mishap} (safe : risk mishap .fill = .ok ())
    (bytes : Bytes) : bytesReached mishap bytes = bytes := by
  cases mishap with
  | none => rfl
  | some mishap =>
      have other : mishap.step ≠ .fill := fun struck => by simp [risk, struck] at safe
      simp [bytesReached, other]

/-- The mode that a temporary file gets, or why it does not get its bytes and its mode. -/
def grantedMode (files : Files) (mishap : Option Mishap) (path : Path) : Except FileFault Nat :=
  match risk mishap .fill, files.lookFor path.text with
  | .error fault, _ => .error fault
  | .ok _, .error fault => .error fault
  | .ok _, .ok none => .ok privateMode
  | .ok _, .ok (some (_, entry)) => (risk mishap .setMode).map fun _ => modeOf entry

def landing (files : Files) (mishap : Option Mishap) (path : Path) (temporary : String) :
    Except FileFault Location :=
  match risk mishap .move, admitPath path.text, files.replacePlace path with
  | .error fault, _, _ => .error fault
  | .ok _, .error cause, _ => .error ⟨cause, [temporary, path.text]⟩
  | .ok _, .ok _, .error cause => .error ⟨cause, [temporary, path.text]⟩
  | .ok _, .ok _, .ok location => .ok location

def beside (files : Files) (place : Location) : Files :=
  files.put place (.file [] privateMode)

section

variable {temporary : String × Location} (vacant : files.tree.get? temporary.2 = none)

include vacant

theorem exists_fillTemporary_eq (mishap : Option Mishap) (proper : path.IsProper) (bytes : Bytes)
    (named : ∀ above, temporary.2 ≠ above ++ [path.name]) :
    ∃ content mode,
      fillTemporary mishap path bytes temporary.2 (files.beside temporary.2) =
        match files.grantedMode mishap path with
        | .error fault => (.error fault, files.put temporary.2 (.file content mode))
        | .ok mode => (.ok (), files.put temporary.2 (.file bytes mode)) := by
  have looked (content : Bytes) (mode : Nat) := lookFor_put vacant content mode named proper
  simp only [fillTemporary, bind_apply, modify_apply, liftM_apply, get_apply, beside, put_put,
    grantedMode]
  cases filled : risk mishap .fill with
  | error fault => exact ⟨_, _, rfl⟩
  | ok _ =>
      simp only [bytesReached_of_risk filled, looked]
      rcases files.lookFor path.text with fault | (_ | ⟨_, entry⟩)
      · exact ⟨_, _, rfl⟩
      · exact ⟨bytes, privateMode, rfl⟩
      · cases risk mishap .setMode with
        | error fault => exact ⟨bytes, privateMode, by simp [Except.map]⟩
        | ok _ => exact ⟨bytes, privateMode, by simp [Except.map, put_put]⟩

/-- A temporary file that is moved leaves its own place vacant again. -/
theorem moveOver_eq (mishap : Option Mishap) (content : Bytes) (mode : Nat) :
    moveOver mishap temporary path (files.put temporary.2 (.file content mode)) =
      match (files.beside temporary.2).landing mishap path temporary.1 with
      | .error fault => (.error fault, files.put temporary.2 (.file content mode))
      | .ok location => (.ok (), files.put location (.file content mode)) := by
  have here : (files.put temporary.2 (.file content mode)).tree.get? temporary.2 =
      some (.file content mode) :=
    Tree.get?_put_self _ _ (Tree.ne_nil_of_get?_eq_none vacant)
  have undone : (files.put temporary.2 (.file content mode)).tree.erase temporary.2 = files.tree :=
    Tree.erase_put vacant _
  have alike : Alike (files.put temporary.2 (.file content mode)) (files.beside temporary.2) :=
    (Alike.refl files).put temporary.2 rfl
  simp only [moveOver, bind_apply, liftM_apply, get_apply, landing]
  rcases risk mishap .move with fault | _
  · rfl
  simp only [here, alike.replacePlace_eq]
  rcases admitPath path.text with cause | _
  · rfl
  rcases (files.beside temporary.2).replacePlace path with cause | location
  · rfl
  · simp only [undone]
    rfl

end

/-- What replacing a file does, by where its temporary file can be made, which mode it gets and
where it is moved. -/
theorem replaceAmid_eq (stamps : List Stamp) (mishap : Option Mishap) (written : String)
    (bytes : Bytes) (files : Files) :
    replaceAmid stamps mishap written bytes files =
      match risk mishap .make, files.freePlace (Path.ofString written) stamps with
      | .error fault, _ => (.error fault, files)
      | .ok _, .error fault => (.error fault, files)
      | .ok _, .ok temporary =>
        match files.grantedMode mishap (Path.ofString written),
          (files.beside temporary.2).landing mishap (Path.ofString written) temporary.1 with
        | .error fault, _ => (.error fault, files)
        | .ok _, .error fault => (.error fault, files)
        | .ok mode, .ok location => (.ok (), files.put location (.file bytes mode)) := by
  simp only [replaceAmid, bind_apply, liftM_apply]
  rcases risk mishap .make with fault | _
  · rfl
  simp only [makeTemporary_apply]
  cases free : files.freePlace (Path.ofString written) stamps with
  | error fault => rfl
  | ok temporary =>
      obtain ⟨vacant, named⟩ := of_freePlace_eq_ok free
      have undone (entry : Entry) :
          { files.put temporary.2 entry with
            tree := (files.put temporary.2 entry).tree.erase temporary.2 } = files := by
        simp only [put, Tree.erase_put vacant]
      obtain ⟨content, mode, filled⟩ := exists_fillTemporary_eq vacant mishap
        (Path.isProper_ofString written) bytes named
      rw [beside] at filled
      simp only [tryCatch_apply, bind_apply, filled]
      rcases files.grantedMode mishap (Path.ofString written) with fault | granted
      · simp [undone]
      · simp only [moveOver_eq vacant]
        rcases (files.beside temporary.2).landing mishap (Path.ofString written) temporary.1 with
          fault | location
        · simp [undone]
        · rfl

end

def modeAt (files : Files) (location : Location) : Nat :=
  ((files.tree.get? location).map modeOf).getD privateMode

theorem lookFor_of_replacePlace {files : Files} {path : Path} (proper : path.IsProper)
    (admitted : admitPath path.text = .ok ()) {location : Location}
    (place : files.replacePlace path = .ok location) :
    files.lookFor path.text = .ok ((files.tree.get? location).map (location, ·)) := by
  have walk_eq : files.walk (leadingSlashes path.text) (pathNames path.text) =
      files.walk path.root path.names := by
    rw [Path.leadingSlashes_text proper, Path.pathNames_text proper]
  rcases of_replacePlace_eq_ok place with vacant | ⟨content, mode, found⟩
  · rw [(Tree.exists_of_walk_vacant (walk_eq_ok_iff.mp vacant)).1, lookFor, find, admitted, walk_eq,
      vacant]
    rfl
  · have named : path.names ≠ [] := by
      intro none
      rw [none] at found
      cases found
    have leads : files.find path.text = .ok (location, .file content mode) :=
      find_eq_ok_iff.mpr ⟨admitted, walk_eq.trans found, .inr (Path.pathEnd_text proper named)⟩
    rw [Tree.get?_of_walk_found (walk_eq_ok_iff.mp found), lookFor, leads]
    rfl

theorem eq_modeAt_of_grantedMode {files : Files} {path : Path} {mishap : Option Mishap}
    {location : Location} {mode : Nat}
    (looked : files.lookFor path.text = .ok ((files.tree.get? location).map (location, ·)))
    (granted : files.grantedMode mishap path = .ok mode) : mode = files.modeAt location := by
  rw [grantedMode, looked] at granted
  rw [modeAt]
  revert granted
  rcases risk mishap .fill with fault | _
  · exact nofun
  rcases files.tree.get? location with _ | entry
  · rintro ⟨⟩
    rfl
  · rcases risk mishap .setMode with fault | _
    · exact nofun
    · rintro ⟨⟩
      rfl

theorem landing_eq_ok_iff {files : Files} {path : Path} {mishap : Option Mishap} {written : String}
    {location : Location} :
    files.landing mishap path written = .ok location ↔
      risk mishap .move = .ok () ∧ admitPath path.text = .ok () ∧
        files.replacePlace path = .ok location := by
  rw [landing]
  rcases risk mishap .move with fault | _
  · simp
  rcases admitPath path.text with cause | _
  · simp
  rcases files.replacePlace path with cause | place <;> simp

/-- All that replacing a file can do: it fails and changes nothing, or it puts the bytes in the
place of the target, with the mode of what was there, and changes nothing else. -/
theorem replaceAmid_cases (stamps : List Stamp) (mishap : Option Mishap) (written : String)
    (bytes : Bytes) (files : Files) :
    (∃ fault, replaceAmid stamps mishap written bytes files = (.error fault, files)) ∨
    ∃ location, files.replacePlace (Path.ofString written) = .ok location ∧
      replaceAmid stamps mishap written bytes files =
        (.ok (), files.put location (.file bytes (files.modeAt location))) := by
  rw [replaceAmid_eq]
  rcases risk mishap .make with fault | _
  · exact .inl ⟨fault, rfl⟩
  cases free : files.freePlace (Path.ofString written) stamps with
  | error fault => exact .inl ⟨fault, rfl⟩
  | ok temporary =>
      obtain ⟨vacant, named⟩ := of_freePlace_eq_ok free
      dsimp only
      cases granted : files.grantedMode mishap (Path.ofString written) with
      | error fault => exact .inl ⟨fault, rfl⟩
      | ok mode =>
          cases landed : (files.beside temporary.2).landing mishap (Path.ofString written)
              temporary.1 with
          | error fault => exact .inl ⟨fault, rfl⟩
          | ok location =>
              obtain ⟨-, admitted, place⟩ := landing_eq_ok_iff.mp landed
              have before := (replacePlace_put_iff vacant _ _ named).mp place
              obtain rfl := eq_modeAt_of_grantedMode
                (lookFor_of_replacePlace (Path.isProper_ofString written) admitted before) granted
              exact .inr ⟨location, before, rfl⟩

theorem ne_nil_of_replacePlace {files : Files} {path : Path} {location : Location}
    (place : files.replacePlace path = .ok location) : location ≠ [] := by
  rcases get?_of_replacePlace place with nothing | ⟨_, _, present⟩
  · exact Tree.ne_nil_of_get?_eq_none nothing
  · exact Tree.ne_nil_of_get?_eq_file present

theorem sameOutside_put (files : Files) (location : Location) (entry : Entry) :
    SameOutside (· = location) files (files.put location entry) :=
  ⟨rfl, rfl, fun _ differs => Tree.get?_put_of_ne _ _ differs⟩

theorem replace_cases (stamps : List Stamp) (written : String) (bytes : Bytes)
    (moveFault : Option FileCause) (files : Files) :
    (∃ fault, replace stamps written bytes moveFault files = (.error fault, files)) ∨
    ∃ location after, files.replacePlace (Path.ofString written) = .ok location ∧
      replace stamps written bytes moveFault files = (.ok (), after) ∧
      after.tree.get? location = some (.file bytes (files.modeAt location)) ∧
      SameOutside (· = location) files after := by
  rcases replaceAmid_cases stamps (moveFault.map fun cause => { step := .move, cause })
    written bytes
      files with failed | ⟨location, place, done⟩
  · exact .inl failed
  · exact .inr ⟨location, _, place, done,
      Tree.get?_put_self _ _ (ne_nil_of_replacePlace place), sameOutside_put files location _⟩

namespace Alike

variable {first second : Files} (alike : Alike first second)

include alike

theorem grantedMode_eq (mishap : Option Mishap) (path : Path) :
    (first.grantedMode mishap path).map (fun _ => ()) =
      (second.grantedMode mishap path).map (fun _ => ()) := by
  have present := alike.present_eq path.text
  rw [grantedMode, grantedMode]
  rcases risk mishap .fill with fault | _
  · rfl
  generalize first.lookFor path.text = one at present
  generalize second.lookFor path.text = two at present
  rcases one with one | (_ | one) <;> rcases two with two | (_ | two) <;> cases present
  · rfl
  · rfl
  · rcases risk mishap .setMode with fault | _ <;> rfl

theorem landing_eq (mishap : Option Mishap) (path : Path) (written : String) :
    first.landing mishap path written = second.landing mishap path written := by
  rw [landing, landing, alike.replacePlace_eq]

/-- Whether replacing a file fails, and why, shows in the shape of the tree. -/
theorem replace_fst_eq (stamps : List Stamp) (written : String) (bytes : Bytes)
    (moveFault : Option FileCause) :
    (replace stamps written bytes moveFault first).1 =
      (replace stamps written bytes moveFault second).1 := by
  simp only [replace, replaceAmid_eq, alike.freePlace_eq]
  generalize moveFault.map (fun cause => ({ step := .move, cause } : Mishap)) = mishap
  rcases risk mishap .make with fault | _
  · rfl
  rcases second.freePlace (Path.ofString written) stamps with fault | temporary
  · rfl
  have granted := alike.grantedMode_eq mishap (Path.ofString written)
  have together : Alike (first.beside temporary.2) (second.beside temporary.2) :=
    alike.put temporary.2 rfl
  have landed := together.landing_eq mishap (Path.ofString written) temporary.1
  simp only [landed]
  generalize first.grantedMode mishap (Path.ofString written) = one at granted
  generalize second.grantedMode mishap (Path.ofString written) = two at granted
  rcases one with one | one <;> rcases two with two | two <;> cases granted
  · rfl
  · rcases (second.beside temporary.2).landing mishap (Path.ofString written) temporary.1 with
      fault | location <;> rfl

end Alike

end Files

end WarningSweep
