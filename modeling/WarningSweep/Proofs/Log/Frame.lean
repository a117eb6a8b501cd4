import WarningSweep.Log.Sink
import WarningSweep.Proofs.Files.Replace

/-!
# What logging does to the files

Files are rewritten when files take the place of files, and only in certain places.  Records that
are sent rewrite the log files of the sink.
-/

namespace WarningSweep

namespace Files

/-- Files are changed in certain places only, and no place gains or loses a file or a directory. -/
structure Rewrites (changed : Location → Prop) (files after : Files) : Prop
    extends SameOutside changed files after where
  alike : Tree.Alike files.tree after.tree

namespace Rewrites

variable {changed : Location → Prop} {first second third : Files}

theorem refl (changed : Location → Prop) (files : Files) : Rewrites changed files files :=
  ⟨.refl changed files, .refl files.tree⟩

theorem trans (one : Rewrites changed first second) (two : Rewrites changed second third) :
    Rewrites changed first third where
  here_eq := two.here_eq.trans one.here_eq
  hereText_eq := two.hereText_eq.trans one.hereText_eq
  get?_eq := fun location outside =>
    (two.get?_eq location outside).trans (one.get?_eq location outside)
  alike := one.alike.trans two.alike

theorem weaken {more : Location → Prop} (rewrites : Rewrites changed first second)
    (within : ∀ location, changed location → more location) : Rewrites more first second where
  here_eq := rewrites.here_eq
  hereText_eq := rewrites.hereText_eq
  get?_eq := fun location outside =>
    rewrites.get?_eq location fun inside => outside (within location inside)
  alike := rewrites.alike

theorem filesAlike (rewrites : Rewrites changed first second) : Alike first second :=
  ⟨rewrites.here_eq.symm, rewrites.hereText_eq.symm, rewrites.alike⟩

end Rewrites

theorem rewrites_of_get?_eq {location : Location} {files after : Files} {content : Bytes}
    {mode : Nat} {entry : Entry} (before : files.tree.get? location = some (.file content mode))
    (now : after.tree.get? location = some entry) (isFile : entry.isFile = true)
    (same : SameOutside (· = location) files after) : Rewrites (· = location) files after where
  toSameOutside := same
  alike := by
    intro other
    by_cases here : other = location
    · rw [here, before, now, Option.map_some, Option.map_some, isFile]
      rfl
    · rw [same.get?_eq other here]

theorem rewrites_put {location : Location} {files : Files} {content content' : Bytes}
    {mode mode' : Nat} (before : files.tree.get? location = some (.file content mode)) :
    Rewrites (· = location) files (files.put location (.file content' mode')) :=
  rewrites_of_get?_eq before
    (Tree.get?_put_self files.tree _ (Tree.ne_nil_of_get?_eq_file before)) rfl
    ⟨rfl, rfl, fun _ differs => Tree.get?_put_of_ne files.tree _ differs⟩

end Files

namespace Log

open Files

/-- The sink writes to the log file at a location. -/
def Sink.Logs (sink : Sink) (location : Location) : Prop :=
  ∃ level, Handler.file level (some location) ∈ sink.handlers

theorem Sink.logs_of_logs_lose {sink : Sink} {location place : Location}
    (logs : (sink.lose location).Logs place) : sink.Logs place := by
  obtain ⟨level, member⟩ := logs
  obtain ⟨handler, within, same⟩ := List.mem_map.mp member
  cases handler with
  | stream level => cases same
  | file level old =>
      simp only [Handler.file.injEq, Option.filter_eq_some_iff] at same
      obtain ⟨-, rfl, -⟩ := same
      exact ⟨level, within⟩

namespace Desk

theorem appendTo_rewrites (files : Files) (location : Location) (bytes : Bytes) :
    Rewrites (· = location) files (appendTo files location bytes) := by
  rw [appendTo]
  split
  next content mode found => exact rewrites_put found
  next => exact .refl _ files

/-- A step that leaves the sink as it is and writes to its log files only. -/
structure Writes (desk after : Desk) : Prop where
  sink_eq : after.sink = desk.sink
  rewrites : Rewrites desk.sink.Logs desk.files after.files

theorem Writes.refl (desk : Desk) : Writes desk desk := ⟨rfl, .refl _ desk.files⟩

theorem Writes.trans {first second third : Desk} (one : Writes first second)
    (two : Writes second third) : Writes first third where
  sink_eq := two.sink_eq.trans one.sink_eq
  rewrites := by
    have further := two.rewrites
    rw [one.sink_eq] at further
    exact one.rewrites.trans further

theorem handle_writes (desk : Desk) (line : String) {handler : Handler}
    (attached : handler ∈ desk.sink.handlers) : Writes desk (desk.handle line handler) := by
  cases handler with
  | stream level => exact ⟨rfl, .refl _ desk.files⟩
  | file level location =>
      cases location with
      | none => exact .refl desk
      | some location =>
          refine ⟨rfl, (appendTo_rewrites desk.files location _).weaken ?_⟩
          rintro place rfl
          exact ⟨level, attached⟩

theorem foldl_handle_writes (line : String) (handlers : List Handler) (desk : Desk)
    (attached : ∀ handler ∈ handlers, handler ∈ desk.sink.handlers) :
    Writes desk (handlers.foldl (fun desk handler => desk.handle line handler) desk) := by
  induction handlers generalizing desk with
  | nil => exact .refl desk
  | cons handler rest inductionHypothesis =>
      have here := desk.handle_writes line (attached handler List.mem_cons_self)
      refine here.trans (inductionHypothesis _ ?_)
      intro later member
      rw [here.sink_eq]
      exact attached later (List.mem_cons_of_mem _ member)

theorem emit_writes (time : String) (desk : Desk) (record : Record) :
    Writes desk (emit time desk record) := by
  rw [emit]
  split
  · exact .refl desk
  split
  · split
    · split
      · exact ⟨rfl, .refl _ desk.files⟩
      · exact .refl desk
    · exact .refl desk
  · split
    · exact .refl desk
    next line _ =>
      apply foldl_handle_writes
      intro handler member
      exact (List.mem_filter.mp member).1

theorem emitAll_writes (time : String) (desk : Desk) (records : List Record) :
    Writes desk (desk.emitAll time records) := by
  induction records generalizing desk with
  | nil => exact .refl desk
  | cons record rest inductionHypothesis =>
      exact (desk.emit_writes time record).trans (inductionHypothesis (emit time desk record))

end Desk

end Log

end WarningSweep
