import WarningSweep.Command.Run
import WarningSweep.Proofs.Constant.Extraction
import WarningSweep.Proofs.Files.Write
import WarningSweep.Proofs.Log.Frame

/-!
# Faults that leave a run

A command line that is no request ends with a code of its own.  A request ends with zero or one,
unless one of the faults listed here leaves the run: those met before the batch begins, and those of
a path that the constants cannot be read from or written to.
-/

namespace WarningSweep

namespace Files

end Files

namespace Log.Desk

end Log.Desk

namespace Extraction

end Extraction

namespace Command

structure Ends (exit : Except Escape Nat) (escapes : Escape → Prop) : Prop where
  error_iff : ∀ escape, exit = .error escape ↔ escapes escape
  code_le : ∀ code, exit = .ok code → code ≤ 1

theorem Ends.congr {exit : Except Escape Nat} {first second : Escape → Prop}
    (ends : Ends exit first) (same : ∀ escape, first escape ↔ second escape) :
    Ends exit second where
  error_iff := fun escape => (ends.error_iff escape).trans (same escape)
  code_le := ends.code_le

/-! ## Batches -/

def calm : Context := { stamps := [], saved := fun _ => [], room := 900 }

end Command

end WarningSweep
