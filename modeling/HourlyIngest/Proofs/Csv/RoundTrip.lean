import HourlyIngest.Proofs.Csv.Defect
import HourlyIngest.Proofs.Csv.Sheet

/-!
# What is written is what is read

A table of texts that is written as a sheet, whatever the choices, is read as this table: every row
gives one observation, and its sixteen values are the cells of the row (`read_sheet`).  The machine
gives back the bytes of the cells, and below a wide enough header a file of such cells conveys them.
-/

namespace HourlyIngest

open Text

namespace Contents

/-- A file whose records are a header and rows no wider than it is read as these. -/
theorem read_of_cells (label : String) {bytes : Bytes} {header : List String}
    {rows : List (List String)}
    (hcells : (Csv.records true bytes).map Csv.Record.cells =
      (header :: rows).map fun fields => fields.map encode)
    (hheader : columnCount ≤ header.length)
    (hwidth : ∀ fields ∈ rows, fields.length ≤ header.length) :
    read label { bytes := bytes } =
      .ok ⟨header.length, mismatches header, rows.map Observation.ofRecord⟩ := by
  obtain ⟨first, records, hrecords, hfirst, hrest⟩ := List.map_eq_cons_iff.mp hcells
  have hwritten : List.Forall₂ (fun fields record => fields.map encode = record.cells)
      rows records := by
    rw [← List.forall₂_map_right_iff, ← List.forall₂_map_left_iff, hrest, List.forall₂_same]
    exact fun _ _ => rfl
  have hsound : List.Forall₂ (Sound header.length) records rows := by
    apply List.Forall₂.flip
    apply ((List.forall₂_and_left rows records).mpr ⟨hwidth, hwritten⟩).imp
    rintro fields record ⟨hfields, hcells⟩
    exact ⟨hcells.symm, hfields⟩
  apply read_of_conveys
  exact ⟨first, records, header, rows, hrecords, hfirst, hheader, hsound, rfl, rfl, rfl,
    mismatches_eq hheader, rfl⟩

end Contents

/-- **A written table is read as it was written.**  However a table is written as a sheet, reading
it succeeds; the header's cells are counted; and each row gives one observation, in order, whose
sixteen values are the cells of the row, an empty cell and a missing one being absent.  Cells from
the seventeenth on do not show. -/
theorem read_sheet (label : String) (sheet : Csv.Sheet)
    (hheader : 16 ≤ sheet.header.cells.length)
    (hmark : ∀ cell, sheet.header.cells.head? = some cell →
      cell.text.toList.head? ≠ some Csv.markChar)
    (hrows : ∀ record ∈ sheet.rows, record.cells.length ≤ sheet.header.cells.length) :
    ∃ contents, Contents.read label { bytes := encode sheet.text } = .ok contents ∧
      contents.sourceColumns = sheet.header.cells.length ∧
        List.Forall₂ (fun record row => row.values.length = 16 ∧ ∀ column < 16,
            row.values[column]? = some (match record.texts[column]? with
              | none => none
              | some text => if text = "" then none else some text))
          sheet.rows contents.rows := by
  have hlength : ∀ record : Csv.WrittenRecord, record.texts.length = record.cells.length :=
    fun record => List.length_map _
  have hcells : (Csv.records true (encode sheet.text)).map Csv.Record.cells =
      (sheet.header.texts :: sheet.rows.map Csv.WrittenRecord.texts).map
        fun fields => fields.map encode := by
    rw [Csv.map_cells_records_sheet sheet hmark, ← List.map_cons, List.map_map]
    rfl
  have hread := Contents.read_of_cells label hcells
    (by rw [hlength]; exact hheader) (by
      intro fields hfields
      obtain ⟨record, hrecord, rfl⟩ := List.mem_map.mp hfields
      rw [hlength, hlength]
      exact hrows record hrecord)
  refine ⟨_, hread, hlength sheet.header, ?_⟩
  rw [List.map_map, List.forall₂_map_right_iff, List.forall₂_same]
  intro record hrecord
  refine ⟨Observation.length_ofRecord _, fun column hcolumn => ?_⟩
  rw [Function.comp_apply, Observation.getElem?_ofRecord _ hcolumn]
  cases record.texts[column]? <;> rfl

namespace Sample

/-- A cell in quotes. -/
def quotedCell (text : String) : Csv.WrittenCell :=
  ⟨text, true, fun hquoted => absurd hquoted (by simp)⟩

def bareCell : Csv.WrittenCell :=
  ⟨"x", false, by simp [Csv.delicate]⟩

/-- A sheet with a mark, blank lines, every kind of ending, a record of one empty cell, and no
ending behind its last record. -/
def sheet : Csv.Sheet where
  marked := true
  header := ⟨List.replicate 17 bareCell, .crlf, [.lf, .cr], by simp, by simp⟩
  rows :=
    [⟨[quotedCell "a,\"b\"\n", bareCell], .cr, [], by simp, by simp⟩,
      ⟨[quotedCell ""], .lf, [.crlf], by simp, by simp [quotedCell]⟩,
      ⟨List.replicate 17 (quotedCell "y"), .lf, [], by simp, by simp⟩]
  ended := false

end Sample

/-- Three rows are read from the sample sheet: quotes, a comma and a line break come back, and so do
a missing cell, an empty one and the last column that counts. -/
theorem read_sheet_sample :
    16 ≤ Sample.sheet.header.cells.length ∧
      (∀ cell, Sample.sheet.header.cells.head? = some cell →
        cell.text.toList.head? ≠ some Csv.markChar) ∧
      (∀ record ∈ Sample.sheet.rows,
        record.cells.length ≤ Sample.sheet.header.cells.length) ∧
      ∃ contents first second third,
        Contents.read "x.csv" { bytes := encode Sample.sheet.text } = .ok contents ∧
          contents.sourceColumns = 17 ∧ contents.rows = [first, second, third] ∧
            first.values[0]? = some (some "a,\"b\"\n") ∧ first.values[2]? = some none ∧
              second.values[0]? = some none ∧ third.values[15]? = some (some "y") := by
  have hheader : 16 ≤ Sample.sheet.header.cells.length := by simp [Sample.sheet]
  have hmark : ∀ cell, Sample.sheet.header.cells.head? = some cell →
      cell.text.toList.head? ≠ some Csv.markChar := by
    simp [Sample.sheet, Sample.bareCell, Csv.markChar]
  have hrows : ∀ record ∈ Sample.sheet.rows,
      record.cells.length ≤ Sample.sheet.header.cells.length := by
    simp [Sample.sheet]
  refine ⟨hheader, hmark, hrows, ?_⟩
  obtain ⟨contents, hread, hcolumns, hvalues⟩ := read_sheet "x.csv" Sample.sheet hheader hmark hrows
  generalize hcontents : contents.rows = rows at hvalues
  cases hvalues with
  | cons hfirst hvalues =>
  cases hvalues with
  | cons hsecond hvalues =>
  cases hvalues with
  | cons hthird hvalues =>
  cases hvalues
  exact ⟨contents, _, _, _, hread, hcolumns, hcontents, hfirst.2 0 (by decide),
    hfirst.2 2 (by decide), hsecond.2 0 (by decide), hthird.2 15 (by decide)⟩

end HourlyIngest
