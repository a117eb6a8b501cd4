import WarningSweep.Batch.Result
import WarningSweep.Files.Access
import WarningSweep.Log.Record
import WarningSweep.Number
import WarningSweep.Text.Encoding

/-!
# Reports

A report is a workbook with a row for each result and a summary by status. A workbook is a list of
sheets, and a sheet a list of cells with their styles. Rows and columns are counted from one.
-/

namespace WarningSweep

inductive CellValue where
  | text (s : String)
  | number (n : Int)
  /-- The double nearest to `digits * 10 ^ power`. -/
  | rounded (digits : Int) (power : Nat)
  deriving DecidableEq, Repr, Inhabited

inductive Horizontal where
  | center
  | right
  deriving DecidableEq, Repr

inductive Vertical where
  | center
  | top
  deriving DecidableEq, Repr

structure CellStyle where
  bold : Bool := false
  size : Nat := 11
  /-- The colour behind the text, in six hexadecimal digits. -/
  fill : Option String := none
  /-- The colour of the text. -/
  color : Option String := none
  horizontal : Option Horizontal := none
  vertical : Option Vertical := none
  wrap : Bool := false
  /-- Whether the cell has thin lines on its four sides. -/
  border : Bool := false
  deriving DecidableEq, Repr, Inhabited

structure Cell where
  row : Nat
  column : Nat
  value : CellValue
  style : CellStyle := {}
  deriving DecidableEq, Repr, Inhabited

def columnLetter (column : Nat) : String := (Char.ofNat ('A'.toNat + column - 1)).toString

def Cell.position (cell : Cell) : String := columnLetter cell.column ++ toString cell.row

structure Sheet where
  title : String
  /-- The first cell below and to the right of what stays in view. -/
  freeze : Option String := none
  merged : List String := []
  /-- The widths of the columns from the first on. -/
  widths : List Nat
  cells : List Cell
  deriving DecidableEq, Repr, Inhabited

structure Workbook where
  sheets : List Sheet
  deriving DecidableEq, Repr, Inhabited

namespace Report

inductive Fault where
  /-- A text with a control character that sheets cannot hold. -/
  | illegalText (text : String)
  /-- A number beyond the largest double. -/
  | tooLarge
  | file (fault : FileFault)
  deriving DecidableEq, Repr

def Fault.message : Fault → String
  | .illegalText text => text ++ " cannot be used in worksheets."
  | .tooLarge => "int too large to convert to float"
  | .file fault => fault.message

def cellLimit : Nat := 32767

def isIllegal (c : Char) : Bool := c.toNat < 0x20 && c ≠ '\t' && c ≠ '\n' && c ≠ '\r'

/-- The value of a cell with a number: a double with sixteen digits. -/
def numberCell (n : Int) : CellValue :=
  let ratio := (Dyadic.ofRatio n.natAbs 1).ratio
  let double := ratio.1 / ratio.2
  let sign : Int := if n < 0 then -1 else 1
  if double < Nat.pow 10 16 then .number (sign * double)
  else
    let power := (toString double).length - 16
    .rounded (sign * roundHalfEven double (Nat.pow 10 power)) power

/-- The value of a cell with a text: what is too long is cut, and line ends become line feeds. -/
def textCell (s : String) : Except Fault CellValue :=
  let kept := s.toList.take cellLimit
  if kept.any isIllegal then .error (.illegalText (String.ofList kept))
  else .ok (.text (String.ofList (unifyLineEnds kept)))

def statusColor : Status → String
  | .modified => "C6EFCE"
  | .unchanged => "D9D9D9"
  | .failed => "FFC7CE"

def headers : List String :=
  ["File", "Status", "Regions", "Warnings kept", "Warnings removed", "Error"]

def cellValue : RowValue → Except Fault CellValue
  | .text s => textCell s
  | .number n => .ok (numberCell n)

def rowValues (result : FileResult) : Except Fault (List CellValue) := result.row.mapM cellValue

def rowStyle (status : Status) : (column : Nat) → CellStyle
  | 1 => { border := true }
  | 2 => { border := true, fill := some (statusColor status), horizontal := some .center }
  | 6 => { border := true, vertical := some .top, wrap := true }
  | _ => { border := true, horizontal := some .right }

def headerRow : List Cell :=
  let style : CellStyle :=
    { bold := true, color := some "FFFFFF", fill := some "4472C4", horizontal := some .center,
      vertical := some .center, border := true }
  headers.mapIdx fun i header => ⟨1, i + 1, .text header, style⟩

def resultRow (row : Nat) (result : FileResult) : Except Fault (List Cell) := do
  return (← rowValues result).mapIdx fun i value =>
    ⟨row, i + 1, value, rowStyle result.status (i + 1)⟩

def resultRows : (row : Nat) → List FileResult → Except Fault (List Cell)
  | _, [] => .ok []
  | row, result :: rest => do
    let cells ← resultRow row result
    return cells ++ (← resultRows (row + 1) rest)

def resultsSheet (results : List FileResult) : Except Fault Sheet := do
  let rows ← resultRows 2 results
  return {
    title := "Results"
    freeze := some "A2"
    widths := [60, 12, 10, 14, 16, 60]
    cells := headerRow ++ rows }

def countStatus (results : List FileResult) (status : Status) : Nat :=
  (results.filter fun result => result.status = status).length

def removedTotal (results : List FileResult) : Int :=
  results.foldl (fun sum result => sum + result.removed) 0

/-- The share of a status; nothing has no shares. -/
def ratio (count total : Nat) : String := if total = 0 then "0%" else percentage count total ++ "%"

def statusRow (results : List FileResult) (row : Nat) (status : Status) : List Cell :=
  let count := countStatus results status
  let right : CellStyle := { border := true, horizontal := some .right }
  [⟨row, 1, .text status.name, { border := true, fill := some (statusColor status) }⟩,
    ⟨row, 2, numberCell count, right⟩, ⟨row, 3, .text (ratio count results.length), right⟩]

def summarySheet (generated : String) (results : List FileResult) : Sheet :=
  let header : CellStyle := { bold := true, border := true, horizontal := some .center }
  let title : CellStyle := { bold := true, size := 14 }
  let bold : CellStyle := { bold := true }
  { title := "Summary"
    merged := ["A1:C1", "A2:C2"]
    widths := [18, 10, 10]
    cells :=
      [⟨1, 1, .text "Format warning post-processing summary", title⟩,
        ⟨2, 1, .text s!"Generated: {generated}", {}⟩, ⟨4, 1, .text "Status", header⟩,
        ⟨4, 2, .text "Files", header⟩, ⟨4, 3, .text "Ratio", header⟩]
      ++ statusRow results 5 .modified ++ statusRow results 6 .unchanged
      ++ statusRow results 7 .failed
      ++ [⟨8, 1, .text "Total", bold⟩, ⟨8, 2, numberCell results.length, bold⟩,
        ⟨10, 1, .text "Warnings removed", {}⟩, ⟨10, 2, numberCell (removedTotal results), {}⟩] }

def workbook (generated : String) (results : List FileResult) : Except Fault Workbook := do
  return ⟨[← resultsSheet results, summarySheet generated results]⟩

def isTooLarge (n : Int) : Bool := Nat.pow 2 1024 ≤ n.natAbs + Nat.pow 2 970

def numbers (results : List FileResult) : List Int :=
  removedTotal results :: results.flatMap fun result =>
    [result.regions, result.kept, result.removed]

/-- Writes a report and gives the record of it; `saved` gives the bytes of a workbook. -/
def write (saved : Workbook → Bytes) (path generated : String) (results : List FileResult)
    (files : Files) :
    Except Fault Log.Record × Files :=
  let place := Path.ofString path
  match workbook generated results with
  | .error fault => (.error fault, files)
  | .ok book =>
    let action : FileAction Unit := do
      Files.ensureDirectories place.parent
      Files.write place.text (saved book)
    match action files with
    | (.error fault, after) => (.error (.file fault), after)
    | (.ok (), after) =>
      if (numbers results).any isTooLarge then (.error .tooLarge, after)
      else (.ok (Log.Channel.report.info s!"Report written to {place.text}"), after)

end Report

end WarningSweep
