import HourlyIngest.Observation.Decode
import HourlyIngest.Proofs.Csv.RoundTrip
import HourlyIngest.Proofs.Observation.Record
import HourlyIngest.Proofs.Sql.Layout

/-!
# Complete rows

The statement that inserts rows has sixteen placeholders for each of them, and an empty text is not
NULL.  So a writer relies on rows that have a value for each column and no empty text among them
(`Sql.sendable_iff`), and these are the rows of records (`exists_ofRecord_iff`).  JSON gives any row
whatever: reading asks for an array of texts and nulls and takes it as it is (`decode_eq_ok_iff`).
-/

namespace HourlyIngest

namespace Observation

/-! ## Rows of JSON values -/

theorem decodeCell_eq_ok_iff {value : Json} {cell : Cell} :
    decodeCell value = .ok cell ↔ value = Json.ofOption .string cell := by
  cases value <;> cases cell <;> simp [decodeCell, Json.ofOption]

theorem mapM_decodeCell_eq_ok_iff {elements : List Json} {cells : List Cell} :
    elements.mapM decodeCell = .ok cells ↔ elements = cells.map (Json.ofOption .string) := by
  constructor
  · intro hread
    induction elements generalizing cells with
    | nil =>
        obtain rfl : [] = cells := Except.ok.inj hread
        rfl
    | cons element elements ih =>
        rw [List.mapM_cons] at hread
        cases hcell : decodeCell element with
        | error fault =>
            rw [hcell] at hread
            cases hread
        | ok cell =>
            cases hrest : elements.mapM decodeCell with
            | error fault =>
                rw [hcell, hrest] at hread
                cases hread
            | ok rest =>
                rw [hcell, hrest] at hread
                obtain rfl : cell :: rest = cells := Except.ok.inj hread
                rw [List.map_cons, decodeCell_eq_ok_iff.mp hcell, ih hrest]
  · rintro rfl
    induction cells with
    | nil => rfl
    | cons cell cells ih =>
        rw [List.map_cons, List.mapM_cons, decodeCell_eq_ok_iff.mpr rfl, ih]
        rfl

theorem decodeValues_eq_ok_iff {value : Json} {row : Observation} :
    decodeValues value = .ok row ↔ value = row.valuesJson := by
  cases value with
  | array elements =>
      rw [valuesJson, Json.array.injEq, ← mapM_decodeCell_eq_ok_iff, decodeValues]
      cases elements.mapM decodeCell with
      | error fault => simp [Except.map]
      | ok cells =>
          cases row
          simp [Except.map]
  | _ => simp [decodeValues, valuesJson]

/-- A row is read from its own values, as the member of an object or as the one element of an array,
and from nothing else. -/
theorem decode_eq_ok_iff {json : Json} {row : Observation} :
    decode json = .ok row ↔
      json = .array [row.valuesJson] ∨ json.member? "values" = some row.valuesJson := by
  cases json with
  | array elements =>
      have hmember : (Json.array elements).member? "values" = none := rfl
      rw [hmember]
      match elements with
      | [] => simp [decode]
      | [values] =>
          have hvalues : decode (.array [values]) = decodeValues values := by
            rw [decode]
            cases decodeValues values <;> rfl
          simp [hvalues, decodeValues_eq_ok_iff]
      | first :: second :: rest =>
          rw [decode]
          cases decodeValues first <;> simp
  | object members =>
      rw [decode]
      cases (Json.object members).member? "values" with
      | none => simp
      | some values => simp [decodeValues_eq_ok_iff]
  | _ => simp [decode, Json.member?]

/-- A row is read back from how it is written, whatever its values are. -/
theorem decode_encode (row : Observation) : decode row.encode = .ok row :=
  decode_eq_ok_iff.mpr (.inr rfl)

end Observation

/-! ## Rows that are sent -/

namespace Sql

open Observation

variable {table : String} {rows : List Observation}

/-- What a writer relies on, however it divides rows into chunks: a chunk has sixteen parameters for
each of its rows, the statement for it names as many, and none of them is an empty text. -/
structure Sendable (table : String) (rows : List Observation) : Prop where
  numbers : ∀ chunk, chunk ⊆ rows →
    (parameters chunk).length = 16 * chunk.length ∧
      placeholders (insertStatement table chunk.length) =
        some ((List.range (16 * chunk.length)).map (· + 1))
  nulls : ∀ parameter ∈ parameters rows, parameter.bytes ≠ some []

theorem mem_parameters_iff {parameter : Parameter} :
    parameter ∈ parameters rows ↔
      ∃ row ∈ rows, ∃ cell ∈ row.values, Parameter.ofCell cell = parameter := by
  rw [parameters, List.map_flatMap, List.mem_flatMap]
  simp only [List.mem_map]

/-- An empty text is sent for a cell exactly if the cell is one. -/
theorem bytes_ofCell_eq_nil_iff {cell : Cell} :
    (Parameter.ofCell cell).bytes = some [] ↔ cell = some "" := by
  cases cell with
  | none => simp [Parameter.ofCell]
  | some text => simp [Parameter.ofCell, Text.encode_eq_nil_iff]

theorem sendable_iff : Sendable table rows ↔ ∀ row ∈ rows, row.Complete := by
  constructor
  · intro hsendable row hrow
    constructor
    · -- a chunk of this row alone
      have hlength := (hsendable.numbers [row] (by simpa using hrow)).1
      simpa [parameters, columnCount] using hlength
    · intro hempty
      exact hsendable.nulls _ (mem_parameters_iff.mpr ⟨row, hrow, _, hempty, rfl⟩)
        (bytes_ofCell_eq_nil_iff.mpr rfl)
  · intro hcomplete
    constructor
    · intro chunk hchunk
      have hwidth : ∀ row ∈ chunk, row.values.length = columnCount :=
        fun row hrow => (hcomplete row (hchunk hrow)).width
      exact ⟨(length_parameters hwidth).trans (Nat.mul_comm _ _), placeholders_eq_range table _⟩
    · intro parameter hparameter hbytes
      obtain ⟨row, hrow, cell, hcell, rfl⟩ := mem_parameters_iff.mp hparameter
      rw [bytes_ofCell_eq_nil_iff.mp hbytes] at hcell
      exact (hcomplete row hrow).filled hcell

/-- Records are sent as their first sixteen fields, NULL for one that is empty or missing. -/
theorem parameters_map_ofRecord (records : List (List String)) :
    parameters (records.map ofRecord) =
      records.flatMap fun fields => (List.range 16).map fun column =>
        ⟨(fields[column]?.filter (· ≠ "")).map Text.encode, .text⟩ := by
  have hcell : ∀ field : Option String, Parameter.ofCell (field.bind Cell.ofText) =
      ⟨(field.filter (· ≠ "")).map Text.encode, .text⟩ := by
    intro field
    cases field with
    | none => rfl
    | some text =>
        rw [Option.bind_some, Cell.ofText]
        split
        · next hempty => simp [Parameter.ofCell, Option.filter, hempty]
        · next htext => simp [Parameter.ofCell, Option.filter, htext]
  rw [parameters, List.flatMap_map, List.map_flatMap]
  simp only [values_ofRecord, List.map_map, Function.comp_def, hcell, columnCount]

end Sql

namespace Observation

/-- **Records give the rows that a writer can send, and JSON gives any rows.**  The rows of records
are the complete ones, and they travel as the first sixteen fields, NULL for one that is empty or
missing.  Rows can be sent exactly if all of them are complete.  But a row is read from JSON exactly
if its values stand there, as many as there are and empty texts among them, so every row can be. -/
theorem complete_rows_by_source (table : String) :
    (∀ row : Observation, (∃ fields, ofRecord fields = row) ↔ row.Complete) ∧
    (∀ records : List (List String), Sql.parameters (records.map ofRecord) =
      records.flatMap fun fields => (List.range 16).map fun column =>
        ⟨(fields[column]?.filter (· ≠ "")).map Text.encode, .text⟩) ∧
    (∀ rows : List Observation, Sql.Sendable table rows ↔ ∀ row ∈ rows, row.Complete) ∧
    (∀ json row, decode json = .ok row ↔
      json = .array [row.valuesJson] ∨ json.member? "values" = some row.valuesJson) ∧
    ∀ row : Observation, ∃ json, decode json = .ok row :=
  ⟨fun _ => exists_ofRecord_iff, Sql.parameters_map_ofRecord, fun _ => Sql.sendable_iff,
    fun _ _ => decode_eq_ok_iff, fun row => ⟨row.encode, decode_encode row⟩⟩

/-- A short record and a long one give complete rows.  The empty field travels as NULL, as do the
fields that the short record lacks. -/
theorem complete_rows_by_source_sample :
    let short := ["a", ""]
    let long := List.replicate 17 "b"
    (∀ row ∈ [ofRecord short, ofRecord long], row.Complete) ∧
      Sql.Sendable "t" [ofRecord short, ofRecord long] ∧
        Sql.parameters ([short].map ofRecord) =
          ⟨some [0x61], .text⟩ :: List.replicate 15 ⟨none, .text⟩ := by
  intro short long
  obtain ⟨hrecords, hparameters, hsendable, -, -⟩ := complete_rows_by_source "t"
  have hcomplete : ∀ row ∈ [ofRecord short, ofRecord long], row.Complete := by
    intro row hrow
    rw [List.mem_cons, List.mem_singleton] at hrow
    rcases hrow with rfl | rfl
    · exact (hrecords _).mp ⟨short, rfl⟩
    · exact (hrecords _).mp ⟨long, rfl⟩
  refine ⟨hcomplete, (hsendable _).mpr hcomplete, ?_⟩
  rw [hparameters]
  decide +kernel

/-- Not every row is complete: three values come from JSON, one of them an empty text.  They are
sent with a statement of sixteen placeholders, and the empty text does not travel as NULL. -/
theorem incomplete_row_of_json :
    let json := Json.object [("values", .array [.string "a", .null, .string ""])]
    let row : Observation := ⟨[some "a", none, some ""]⟩
    decode json = .ok row ∧ row.values.length ≠ 16 ∧ some "" ∈ row.values ∧
      Sql.placeholders (Sql.insertStatement "t" [row].length) =
        some ((List.range 16).map (· + 1)) ∧
      Sql.parameters [row] = [⟨some [0x61], .text⟩, ⟨none, .text⟩, ⟨some [], .text⟩] := by
  intro json row
  have hdecode : decode json = .ok row := decode_eq_ok_iff.mpr (.inr rfl)
  exact ⟨hdecode, by decide, by decide, Sql.placeholders_eq_range "t" 1, by decide +kernel⟩

end Observation

end HourlyIngest
