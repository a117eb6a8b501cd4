import Mathlib.Algebra.Ring.Nat
import WarningSweep.Proofs.Batch.Tally
import WarningSweep.Proofs.Files.Write
import WarningSweep.Proofs.Text.Portion
import WarningSweep.Report

/-!
# Reports and tallies

A report on results shows the numbers that a tally of the same results has, and every result stands
in a row of its own with all of its values.
-/

namespace WarningSweep

open Operation

/-! ### Values that cells keep -/

theorem roundHalfEven_one (n : Nat) : roundHalfEven n 1 = n := by
  unfold roundHalfEven
  simp [Nat.mod_one]

namespace Dyadic

theorem units_one_neg (n e : Nat) : units n 1 (-((e + 1 : Nat) : Int)) = n * 2 ^ (e + 1) := by
  unfold units
  rw [if_neg (by omega), roundHalfEven_one]
  rfl

theorem ratio_ofRatio_one {n : Nat} (small : n < 2 ^ precision) :
    (ofRatio n 1).ratio.1 / (ofRatio n 1).ratio.2 = n := by
  by_cases zero : n = 0
  · subst zero
    decide
  · have bits : n.log2 < 53 := (Nat.log2_lt zero).mpr small
    obtain ⟨e, e_eq⟩ : ∃ e, n.log2 + (e + 1) = 53 := ⟨52 - n.log2, by omega⟩
    have guess : max ((n.log2 : Int) - ((1 : Nat).log2 : Int) - (precision : Int)) leastExponent =
        -((e + 1 : Nat) : Int) := by
      have one : (1 : Nat).log2 = 0 := by decide
      rw [one]
      simp only [precision, leastExponent]
      omega
    have large : 2 ^ precision ≤ n * 2 ^ (e + 1) := by
      have factors : 2 ^ precision = 2 ^ n.log2 * 2 ^ (e + 1) := by
        rw [← Nat.pow_add, e_eq, precision]
      rw [factors]
      exact Nat.mul_le_mul_right _ (Nat.log2_self_le zero)
    have next : -((e + 1 : Nat) : Int) + 1 = -(e : Int) := by omega
    have double : ofRatio n 1 = ⟨units n 1 (-(e : Int)), -(e : Int)⟩ := by
      unfold ofRatio
      rw [if_neg (by simp [zero])]
      simp only [guess, units_one_neg, Nat.pow_eq]
      rw [if_neg (Nat.not_lt.mpr large), next]
    rw [double]
    cases e with
    | zero => simp [ratio, units, roundHalfEven_one]
    | succ e =>
        rw [units_one_neg]
        unfold ratio
        rw [if_neg (by simp only; omega)]
        exact Nat.mul_div_cancel n (Nat.two_pow_pos (e + 1))

end Dyadic

/-- A text that sheets can hold. -/
def IsLegalText (s : String) : Prop :=
  ∀ c ∈ s.toList.take Report.cellLimit, Report.isIllegal c = false

-- characters are finitely many, and the instance that tries each of them must not be found
instance : DecidablePred IsLegalText := fun s =>
  List.decidableBAll (fun c => Report.isIllegal c = false) (s.toList.take Report.cellLimit)

/-- A text without line ends other than line feeds that a cell can hold whole, or a number that is a
double. -/
def RowValue.IsPlain : RowValue → Prop
  | .text s => IsLegalText s ∧ s.toList.length ≤ Report.cellLimit ∧ '\r' ∉ s.toList
  | .number n => n.natAbs < 2 ^ Dyadic.precision

instance : DecidablePred RowValue.IsPlain
  | .text s => inferInstanceAs
    (Decidable (IsLegalText s ∧ s.toList.length ≤ Report.cellLimit ∧ '\r' ∉ s.toList))
  | .number n => inferInstanceAs (Decidable (n.natAbs < 2 ^ Dyadic.precision))

def RowValue.asCell : RowValue → CellValue
  | .text s => .text s
  | .number n => .number n

def FileResult.IsLegal (result : FileResult) : Prop :=
  IsLegalText result.path ∧ IsLegalText result.errorText

instance : DecidablePred FileResult.IsLegal := fun result =>
  inferInstanceAs (Decidable (IsLegalText result.path ∧ IsLegalText result.errorText))

namespace Report

theorem textCell_of_legal {s : String} (legal : IsLegalText s) :
    textCell s = .ok (.text (String.ofList (unifyLineEnds (s.toList.take cellLimit)))) := by
  unfold textCell
  have clean : (s.toList.take cellLimit).any isIllegal = false := by
    rw [List.any_eq_false]
    intro c member
    rw [legal c member]
    decide
  simp [clean]

theorem isLegalText_of_textCell {s : String} {value : CellValue} (made : textCell s = .ok value) :
    IsLegalText s := by
  intro c member
  refine Bool.eq_false_iff.mpr fun illegal => ?_
  have found : (s.toList.take cellLimit).any isIllegal = true :=
    List.any_eq_true.mpr ⟨c, member, illegal⟩
  unfold textCell at made
  simp only [found, if_true] at made
  cases made

theorem numberCell_of_small {n : Int} (small : n.natAbs < 2 ^ Dyadic.precision) :
    numberCell n = .number n := by
  have whole := Dyadic.ratio_ofRatio_one small
  have limit : 2 ^ Dyadic.precision < Nat.pow 10 16 := by decide
  unfold numberCell
  simp only [whole]
  rw [if_pos (Nat.lt_trans small limit)]
  by_cases negative : n < 0
  · rw [if_pos negative]
    congr 1
    omega
  · rw [if_neg negative]
    congr 1
    omega

theorem cellValue_of_plain {value : RowValue} (plain : value.IsPlain) :
    cellValue value = .ok value.asCell := by
  cases value with
  | text s =>
      obtain ⟨legal, short, ends⟩ := plain
      change textCell s = .ok (.text s)
      rw [textCell_of_legal legal, List.take_of_length_le short, unifyLineEnds_of_not_mem ends,
        String.ofList_toList]
  | number n => exact congrArg Except.ok (numberCell_of_small plain)

theorem mapM_cellValue_of_plain {row : List RowValue} (plain : ∀ value ∈ row, value.IsPlain) :
    row.mapM cellValue = .ok (row.map RowValue.asCell) := by
  induction row with
  | nil => rfl
  | cons value rest inductionHypothesis =>
      rw [List.mapM_cons, cellValue_of_plain (plain value List.mem_cons_self),
        inductionHypothesis fun later member => plain later (List.mem_cons_of_mem _ member)]
      rfl

theorem isLegalText_name (status : Status) : IsLegalText status.name := by
  cases status <;> decide +kernel

theorem exists_rowValues {result : FileResult} (legal : result.IsLegal) :
    ∃ values, rowValues result = .ok values := by
  unfold rowValues FileResult.row
  simp only [List.mapM_cons, List.mapM_nil, cellValue, textCell_of_legal legal.1,
    textCell_of_legal legal.2, textCell_of_legal (isLegalText_name result.status)]
  exact ⟨_, rfl⟩

theorem isLegal_of_rowValues {result : FileResult} {values : List CellValue}
    (made : rowValues result = .ok values) : result.IsLegal := by
  have cells := forall_of_mapM_eq_ok made
  obtain ⟨_, path⟩ := cells (.text result.path) (by simp [FileResult.row])
  obtain ⟨_, error⟩ := cells (.text result.errorText) (by simp [FileResult.row])
  exact ⟨isLegalText_of_textCell path, isLegalText_of_textCell error⟩

/-! ### Rows -/

def resultCells (row : Nat) (result : FileResult) (values : List CellValue) : List Cell :=
  values.mapIdx fun i value => ⟨row, i + 1, value, rowStyle result.status (i + 1)⟩

theorem row_of_mem_resultCells {row : Nat} {result : FileResult}
    {values : List CellValue} {cell : Cell}
    (member : cell ∈ resultCells row result values) : cell.row = row := by
  obtain ⟨i, below, rfl⟩ := List.mem_mapIdx.mp member
  rfl

theorem filter_resultCells (row : Nat) (result : FileResult) (values : List CellValue)
    (other : Nat) :
    (resultCells row result values).filter (fun cell => cell.row = other) =
      if row = other then resultCells row result values else [] := by
  split
  next same =>
    apply List.filter_eq_self.mpr
    intro cell member
    rw [row_of_mem_resultCells member]
    exact decide_eq_true same
  next differs =>
    apply List.filter_eq_nil_iff.mpr
    intro cell member
    rw [row_of_mem_resultCells member]
    simpa using differs

/-- The results stand in the rows from one row on, each in its own, and in no other row. -/
theorem exists_resultRows (row : Nat) {results : List FileResult}
    (legal : ∀ result ∈ results, result.IsLegal) :
    ∃ cells, resultRows row results = .ok cells ∧
      (∀ other, other < row ∨ row + results.length ≤ other →
        cells.filter (fun cell => cell.row = other) = []) ∧
      ∀ i result, results[i]? = some result → ∃ values, rowValues result = .ok values ∧
        cells.filter (fun cell => cell.row = row + i) = resultCells (row + i) result values := by
  induction results generalizing row with
  | nil => exact ⟨[], rfl, fun other outside => rfl, fun i result found => by simp at found⟩
  | cons result rest inductionHypothesis =>
      obtain ⟨values, values_eq⟩ := exists_rowValues (legal result List.mem_cons_self)
      obtain ⟨cells, cells_eq, outside, inside⟩ := inductionHypothesis (row + 1)
        fun later member => legal later (List.mem_cons_of_mem _ member)
      refine ⟨resultCells row result values ++ cells, ?_, ?_, ?_⟩
      · unfold resultRows resultRow
        rw [values_eq, cells_eq]
        rfl
      · intro other apart
        rw [List.length_cons] at apart
        rw [List.filter_append, filter_resultCells, if_neg (by omega), outside other (by omega)]
        rfl
      · intro i given found
        cases i with
        | zero =>
            obtain rfl : result = given := by simpa using found
            refine ⟨values, values_eq, ?_⟩
            rw [List.filter_append, filter_resultCells, if_pos (Nat.add_zero row).symm,
              outside (row + 0) (by omega), List.append_nil]
            rfl
        | succ i =>
            obtain ⟨given_values, given_eq, cells_of⟩ := inside i given (by simpa using found)
            refine ⟨given_values, given_eq, ?_⟩
            have place : row + (i + 1) = row + 1 + i := by omega
            rw [place, List.filter_append, filter_resultCells, if_neg (by omega), cells_of]
            rfl

theorem isLegal_of_resultRows {row : Nat} {results : List FileResult} {cells : List Cell}
    (made : resultRows row results = .ok cells) : ∀ result ∈ results, result.IsLegal := by
  induction results generalizing row cells with
  | nil => exact nofun
  | cons result rest inductionHypothesis =>
      unfold resultRows resultRow at made
      obtain ⟨_, here, made⟩ := bind_eq_ok_iff.mp made
      obtain ⟨_, values, -⟩ := bind_eq_ok_iff.mp here
      obtain ⟨_, later, -⟩ := bind_eq_ok_iff.mp made
      exact List.forall_mem_cons.mpr ⟨isLegal_of_rowValues values, inductionHypothesis later⟩

/-- The columns and the values of the cells in a row of a sheet, in the order in which they are
written. -/
def rowOf (book : Workbook) (title : String) (row : Nat) : List (Nat × CellValue) :=
  (book.sheets.filter fun sheet => sheet.title = title).flatMap fun sheet =>
    (sheet.cells.filter fun cell => cell.row = row).map fun cell => (cell.column, cell.value)

def fromFirst (values : List CellValue) : List (Nat × CellValue) :=
  values.mapIdx fun i value => (i + 1, value)

theorem map_resultCells (row : Nat) (result : FileResult) (values : List CellValue) :
    (resultCells row result values).map (fun cell => (cell.column, cell.value)) =
      fromFirst values := by
  unfold resultCells fromFirst
  rw [List.mapIdx_eq_zipIdx_map, List.mapIdx_eq_zipIdx_map, List.map_map]
  rfl

theorem filter_headerRow {row : Nat} (below : 1 < row) :
    headerRow.filter (fun cell => cell.row = row) = [] := by
  apply List.filter_eq_nil_iff.mpr
  intro cell member
  obtain ⟨i, within, rfl⟩ := List.mem_mapIdx.mp member
  simp only [decide_eq_true_eq]
  omega

/-- A workbook shows a tally in its summary and each result in its own row. -/
structure Shows (book : Workbook) (tally : Tally) (results : List FileResult) : Prop where
  statusRow : ∀ i status, Status.all[i]? = some status →
    rowOf book "Summary" (5 + i) = fromFirst [.text status.name, numberCell (tally.count status),
      .text (ratio (tally.count status) tally.total)]
  totalRow : rowOf book "Summary" 8 = fromFirst [.text "Total", numberCell tally.total]
  removedRow : rowOf book "Summary" 10 =
    fromFirst [.text "Warnings removed", numberCell tally.removed]
  headerRow : rowOf book "Results" 1 = fromFirst (headers.map .text)
  resultRow : ∀ i result, results[i]? = some result → ∃ values,
    result.row.mapM cellValue = .ok values ∧ rowOf book "Results" (i + 2) = fromFirst values
  noFurtherRow : ∀ row, results.length + 2 ≤ row → rowOf book "Results" row = []

theorem removedTotal_eq (results : List FileResult) :
    removedTotal results = (results.map FileResult.removed).sum := by
  unfold removedTotal
  rw [List.sum_eq_foldl, List.foldl_map]

theorem rowOf_results (generated : String) (results : List FileResult) (cells : List Cell)
    (row : Nat) :
    rowOf ⟨[⟨"Results", some "A2", [], [60, 12, 10, 14, 16, 60], cells⟩,
        summarySheet generated results]⟩ "Results" row =
      (cells.filter fun cell => cell.row = row).map fun cell => (cell.column, cell.value) := by
  simp [rowOf, summarySheet]

/-- The summary shows how many warnings all results together removed. -/
theorem removedRow_of_workbook {generated : String} {results : List FileResult} {book : Workbook}
    (made : workbook generated results = .ok book) :
    rowOf book "Summary" 10 =
      fromFirst [.text "Warnings removed", numberCell (results.map FileResult.removed).sum] := by
  unfold workbook resultsSheet at made
  obtain ⟨sheet, sheet_eq, done⟩ := bind_eq_ok_iff.mp made
  obtain ⟨rows, -, same⟩ := bind_eq_ok_iff.mp sheet_eq
  cases same
  cases done
  rw [← removedTotal_eq]
  rfl

theorem exists_workbook (generated : String) {results : List FileResult}
    (legal : ∀ result ∈ results, result.IsLegal) :
    ∃ book, workbook generated results = .ok book ∧
      Shows book (results.foldl Tally.record {}) results := by
  obtain ⟨cells, cells_eq, outside, inside⟩ := exists_resultRows 2 legal
  have total := Tally.foldl_record_total {} results
  have count := Tally.foldl_record_count {} results
  have removed := Tally.foldl_record_removed {} results
  generalize results.foldl Tally.record {} = tally at total count removed
  have total_eq : tally.total = results.length := by simpa using total
  have count_eq (status : Status) : tally.count status = countStatus results status := by
    rw [count]
    cases status <;> exact Nat.zero_add _
  have removed_eq : tally.removed = removedTotal results := by
    rw [removed, removedTotal_eq]
    exact Int.zero_add _
  refine ⟨_, by rw [workbook, resultsSheet, cells_eq]; rfl, ?_⟩
  constructor
  · intro i status found
    rw [count_eq, total_eq]
    match i, found with
    | 0, found =>
        cases found
        rfl
    | 1, found =>
        cases found
        rfl
    | 2, found =>
        cases found
        rfl
    | i + 3, found => simp [Status.all] at found
  · rw [total_eq]
    rfl
  · rw [removed_eq]
    rfl
  · rw [rowOf_results, List.filter_append, outside 1 (.inl (by decide)), List.append_nil]
    rfl
  · intro i result found
    obtain ⟨values, values_eq, cells_of⟩ := inside i result found
    refine ⟨values, values_eq, ?_⟩
    rw [rowOf_results, List.filter_append, filter_headerRow (by omega), List.nil_append,
      Nat.add_comm i 2, cells_of, map_resultCells]
  · intro row beyond
    rw [rowOf_results, List.filter_append, filter_headerRow (by omega), List.nil_append,
      outside row (.inr (by omega))]
    rfl

theorem isLegal_of_workbook {generated : String} {results : List FileResult} {book : Workbook}
    (made : workbook generated results = .ok book) : ∀ result ∈ results, result.IsLegal := by
  unfold workbook resultsSheet at made
  obtain ⟨_, sheet, -⟩ := bind_eq_ok_iff.mp made
  obtain ⟨_, rows, -⟩ := bind_eq_ok_iff.mp sheet
  exact isLegal_of_resultRows rows

/-! ### Writing -/

/-- What a report needs: texts that sheets can hold, numbers up to the largest double, directories
that can be made, and a file that can be opened in them. -/
structure IsWritable (path : String) (results : List FileResult) (files : Files) : Prop where
  legal : ∀ result ∈ results, result.IsLegal
  small : ∀ n ∈ numbers results, isTooLarge n = false
  opens : ∃ ready place,
    Files.ensureDirectories (Path.ofString path).parent files = (.ok (), ready) ∧
      ready.openPlace (Path.ofString path).text = .ok place

/-- A report is written exactly if it has all that it needs, and its file then holds what was
saved. -/
theorem write_eq_ok_iff {saved : Workbook → Bytes} {path generated : String}
    {results : List FileResult} {files after : Files} {record : Log.Record} :
    write saved path generated results files = (.ok record, after) ↔
      ∃ book ready, workbook generated results = .ok book ∧
        Files.ensureDirectories (Path.ofString path).parent files = (.ok (), ready) ∧
        Files.write (Path.ofString path).text (saved book) ready = (.ok (), after) ∧
        (∀ n ∈ numbers results, isTooLarge n = false) ∧
        Log.Channel.report.info s!"Report written to {(Path.ofString path).text}" = record := by
  constructor
  · intro done
    unfold write at done
    cases made : workbook generated results with
    | error fault =>
        rw [made] at done
        cases done
    | ok book =>
        simp only [made, bind_apply] at done
        rcases ensured : Files.ensureDirectories (Path.ofString path).parent files with
          ⟨fault | _, ready⟩ <;> simp only [ensured] at done
        · cases done
        rcases written : Files.write (Path.ofString path).text (saved book) ready with
          ⟨fault | _, last⟩ <;> simp only [written] at done
        · cases done
        split at done
        · cases done
        next small =>
          cases done
          refine ⟨book, ready, rfl, rfl, written, ?_, rfl⟩
          simpa using small
  · rintro ⟨book, ready, made, ensured, written, small, rfl⟩
    have fits : (numbers results).any isTooLarge = false := by
      rw [List.any_eq_false]
      exact fun n member => Bool.eq_false_iff.mp (small n member)
    simp [write, made, ensured, written, fits]

theorem exists_write_iff {saved : Workbook → Bytes} {path generated : String}
    {results : List FileResult} {files : Files} :
    (∃ record after, write saved path generated results files = (.ok record, after)) ↔
      IsWritable path results files := by
  constructor
  · rintro ⟨record, after, done⟩
    obtain ⟨book, ready, made, ensured, written, small, -⟩ := write_eq_ok_iff.mp done
    refine ⟨isLegal_of_workbook made, small, ready, ?_⟩
    rw [Files.write_apply] at written
    cases opened : ready.openPlace (Path.ofString path).text with
    | error cause =>
        rw [opened] at written
        cases written
    | ok place => exact ⟨place, ensured, rfl⟩
  · rintro ⟨legal, small, ready, ⟨location, content, mode⟩, ensured, opened⟩
    obtain ⟨book, made, -⟩ := exists_workbook generated legal
    have written : Files.write (Path.ofString path).text (saved book) ready =
        (.ok (), ready.put location (.file (saved book) mode)) := by
      rw [Files.write_apply, opened]
    exact ⟨_, _, write_eq_ok_iff.mpr ⟨book, ready, made, ensured, written, small, rfl⟩⟩

/-- The tally of results and the report on them agree: every result is counted once under its
status, the summary shows the numbers of the tally, and the values of each result stand, from the
first column on, in a row of their own, in the order of the results.  Cells keep numbers that are
doubles, and texts of at most the greatest length without carriage returns, as they are.  The report
is written exactly if it has all that it needs, and its file then holds this workbook. -/
theorem report_agrees_with_tally (generated : String) (results : List FileResult) :
    let tally := results.foldl Tally.record {}
    (tally.total = results.length ∧
      tally.total = tally.modified + tally.unchanged + tally.failed ∧
      (∀ status, tally.count status =
        (results.filter fun result => result.status = status).length) ∧
      tally.removed = (results.map FileResult.removed).sum) ∧
    (∀ row : List RowValue, (∀ value ∈ row, value.IsPlain) →
      row.mapM cellValue = .ok (row.map RowValue.asCell)) ∧
    ((∀ result ∈ results, result.IsLegal) → ∃ book, workbook generated results = .ok book ∧
      Shows book tally results) ∧
    ∀ (saved : Workbook → Bytes) (path : String) (files : Files),
      ((∃ record after, write saved path generated results files = (.ok record, after)) ↔
        IsWritable path results files) ∧
      ∀ record after, write saved path generated results files = (.ok record, after) →
        ∃ book, workbook generated results = .ok book ∧ Shows book tally results ∧
          after.read (Path.ofString path).text = .ok (saved book) := by
  intro tally
  refine ⟨⟨?_, ?_, ?_, ?_⟩, fun row => mapM_cellValue_of_plain, exists_workbook generated, ?_⟩
  · exact (Tally.foldl_record_total {} results).trans (Nat.zero_add _)
  · exact Tally.foldl_record_balanced {} results rfl
  · intro status
    have count := Tally.foldl_record_count {} results status
    cases status <;> exact count.trans (Nat.zero_add _)
  · exact (Tally.foldl_record_removed {} results).trans (Int.zero_add _)
  · intro saved path files
    refine ⟨exists_write_iff, ?_⟩
    intro record after done
    obtain ⟨book, ready, made, -, written, -, -⟩ := write_eq_ok_iff.mp done
    obtain ⟨_, same, shows⟩ := exists_workbook generated (isLegal_of_workbook made)
    cases made.symm.trans same
    exact ⟨book, made, shows, Files.read_of_write written⟩

/-- A report on two results in a directory that has to be made.  The bytes are the columns of the
second result's row. -/
theorem report_agrees_with_tally_of_two :
    let results : List FileResult :=
      [{ path := "a.m", status := .modified, regions := 2, removed := 1 },
      { path := "b.m", status := .failed, error := some "boom" }]
    let tally : Tally := { total := 2, modified := 1, failed := 1, removed := 1 }
    let saved (book : Workbook) : Bytes :=
      (rowOf book "Results" 3).map fun cell => UInt8.ofNat cell.1
    results.foldl Tally.record {} = tally ∧ (∀ result ∈ results, result.IsLegal) ∧
      ∃ book record after, workbook "now" results = .ok book ∧
        rowOf book "Summary" 8 = [(1, .text "Total"), (2, numberCell 2)] ∧
        rowOf book "Results" 3 = [(1, .text "b.m"), (2, .text "failed"), (3, .number 0),
          (4, .number 0),
          (5, .number 0), (6, .text "boom")] ∧
        write saved "out/report.xlsx" "now" results {} = (.ok record, after) ∧
        after.read "out/report.xlsx" = .ok [1, 2, 3, 4, 5, 6] := by
  intro results tally saved
  have legal : ∀ result ∈ results, result.IsLegal := by decide +kernel
  have text : (Path.ofString "out/report.xlsx").text = "out/report.xlsx" := by decide +kernel
  have directory : admitPath (Path.mk 0 ["out"]).text = .ok () :=
    admitPath_eq_ok_iff.mpr (by decide +kernel)
  have file : admitPath "out/report.xlsx" = .ok () := admitPath_eq_ok_iff.mpr (by decide +kernel)
  have writable : IsWritable "out/report.xlsx" results {} := {
    legal := legal
    small := by decide +kernel
    opens := by
      refine ⟨Files.put {} ["out"] .directory, (["out", "report.xlsx"], [], 0o644), ?_, ?_⟩
      · have parent : (Path.ofString "out/report.xlsx").parent = ⟨0, ["out"]⟩ := by decide +kernel
        rw [parent]
        apply Files.ensureDirectories_of_makeDirectory
        rw [Files.makeDirectory, directory]
        rfl
      · rw [text, Files.openPlace, file]
        decide +kernel }
  obtain ⟨-, kept, -, writes⟩ := report_agrees_with_tally "now" results
  obtain ⟨writes, shown⟩ := writes saved "out/report.xlsx" {}
  obtain ⟨record, after, done⟩ := writes.mpr writable
  obtain ⟨book, made, shows, holds⟩ := shown record after done
  obtain ⟨values, values_eq, row⟩ := shows.resultRow 1 _ rfl
  cases (kept _ (by decide +kernel)).symm.trans values_eq
  have bytes : saved book = [1, 2, 3, 4, 5, 6] := congrArg (List.map _) row
  refine ⟨rfl, legal, book, record, after, made, shows.totalRow, row, done, ?_⟩
  rw [← text, holds, bytes]

end Report

end WarningSweep
