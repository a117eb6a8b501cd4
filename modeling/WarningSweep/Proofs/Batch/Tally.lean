import Mathlib.Algebra.Ring.Int.Defs
import WarningSweep.Batch.Result

/-!
# Tallies

A tally that results are recorded in one by one counts each of them once, under its status.
-/

namespace WarningSweep.Tally

def count (tally : Tally) : Status → Nat
  | .modified => tally.modified
  | .unchanged => tally.unchanged
  | .failed => tally.failed

theorem record_total (tally : Tally) (result : FileResult) :
    (tally.record result).total = tally.total + 1 := by
  unfold record
  cases result.status <;> rfl

theorem record_removed (tally : Tally) (result : FileResult) :
    (tally.record result).removed = tally.removed + result.removed := by
  unfold record
  cases result.status <;> rfl

theorem record_count (tally : Tally) (result : FileResult) (status : Status) :
    (tally.record result).count status =
      tally.count status + if result.status = status then 1 else 0 := by
  unfold record count
  cases result.status <;> cases status <;> rfl

variable (tally : Tally) (results : List FileResult)

theorem foldl_record_total : (results.foldl record tally).total = tally.total + results.length := by
  induction results generalizing tally with
  | nil => rfl
  | cons result rest inductionHypothesis =>
      rw [List.foldl_cons, inductionHypothesis, record_total, List.length_cons]
      omega

theorem foldl_record_removed :
    (results.foldl record tally).removed =
      tally.removed + (results.map FileResult.removed).sum := by
  induction results generalizing tally with
  | nil => simp
  | cons result rest inductionHypothesis =>
      rw [List.foldl_cons, inductionHypothesis, record_removed, List.map_cons, List.sum_cons]
      omega

theorem foldl_record_count (status : Status) :
    (results.foldl record tally).count status =
      tally.count status + (results.filter fun result => result.status = status).length := by
  induction results generalizing tally with
  | nil => rfl
  | cons result rest inductionHypothesis =>
      rw [List.foldl_cons, inductionHypothesis, record_count, List.filter_cons]
      by_cases same : result.status = status
      · simp only [same, decide_true, if_true, List.length_cons]
        omega
      · simp [same]

theorem foldl_record_balanced
    (balanced : tally.total = tally.modified + tally.unchanged + tally.failed) :
    let after := results.foldl record tally
    after.total = after.modified + after.unchanged + after.failed := by
  induction results generalizing tally with
  | nil => exact balanced
  | cons result rest inductionHypothesis =>
      apply inductionHypothesis
      unfold record
      cases result.status <;> simp only <;> omega

end WarningSweep.Tally
