import HourlyIngest.Observation

/-!
# Rows of records

The row of a record has a value for each of the sixteen columns: the field there, or nothing where
the record is too short or the field is empty (`values_ofRecord`).  So the rows of records are those
that are complete and have no empty text among them (`exists_ofRecord_iff`).
-/

namespace HourlyIngest

theorem length_destinationColumns : destinationColumns.length = columnCount := rfl

namespace Observation

@[simp] theorem length_ofRecord (fields : List String) :
    (ofRecord fields).values.length = columnCount := by
  simp only [ofRecord, List.length_append, List.length_replicate, List.length_map,
    List.length_take]
  omega

theorem ne_empty_of_mem_ofRecord {fields : List String} {text : String}
    (hmem : some text ∈ (ofRecord fields).values) : text ≠ "" := by
  simp only [ofRecord, List.mem_append, List.mem_map, List.mem_replicate] at hmem
  rcases hmem with ⟨field, _, hfield⟩ | ⟨_, hnone⟩
  · unfold Cell.ofText at hfield
    split at hfield
    · cases hfield
    · next hne => cases hfield; exact hne
  · cases hnone

/-- The value in a column is the field there, if the record has one. -/
theorem getElem?_ofRecord (fields : List String) {column : Nat}
    (hcolumn : column < columnCount) :
    (ofRecord fields).values[column]? = some (fields[column]?.bind Cell.ofText) := by
  have hkept : ((fields.take columnCount).map Cell.ofText)[column]? =
      fields[column]?.map Cell.ofText := by
    rw [List.getElem?_map, List.getElem?_take_of_lt hcolumn]
  rw [ofRecord]
  cases hfield : fields[column]? with
  | some field =>
      rw [hfield, Option.map_some] at hkept
      rw [List.getElem?_append_left (List.getElem?_eq_some_iff.mp hkept).1, hkept]
      rfl
  | none =>
      rw [hfield, Option.map_none, List.getElem?_eq_none_iff] at hkept
      rw [List.getElem?_append_right hkept, List.getElem?_replicate, if_pos (by omega)]
      rfl

/-- The row has a value for each column, and an empty text is none of them. -/
structure Complete (row : Observation) : Prop where
  width : row.values.length = columnCount
  filled : some "" ∉ row.values

theorem complete_ofRecord (fields : List String) : (ofRecord fields).Complete where
  width := length_ofRecord fields
  filled := fun hmem => ne_empty_of_mem_ofRecord hmem rfl

/-- A record of the row: its texts, and an empty one for each absent value. -/
def texts (row : Observation) : List String :=
  row.values.map (·.getD "")

theorem ofText_getD {cell : Cell} (hcell : cell ≠ some "") : Cell.ofText (cell.getD "") = cell := by
  cases cell with
  | none => rfl
  | some text =>
      have htext : text ≠ "" := fun hempty => hcell (congrArg some hempty)
      rw [Option.getD_some, Cell.ofText, if_neg htext]

theorem ofRecord_texts {row : Observation} (hrow : row.Complete) : ofRecord row.texts = row := by
  have hkept : (row.texts.take columnCount).map Cell.ofText = row.values := by
    have hwidth : row.texts.length ≤ columnCount :=
      Nat.le_of_eq ((List.length_map _).trans hrow.width)
    have hsame : ∀ cell ∈ row.values, Cell.ofText (cell.getD "") = cell :=
      fun cell hcell => ofText_getD fun hempty => hrow.filled (hempty ▸ hcell)
    rw [List.take_of_length_le hwidth, texts, List.map_map]
    exact (List.map_congr_left hsame).trans (List.map_id _)
  rw [ofRecord, hkept]
  simp only [hrow.width, Nat.sub_self, List.replicate_zero, List.append_nil]

/-- The rows of records are the complete rows. -/
theorem exists_ofRecord_iff {row : Observation} :
    (∃ fields, ofRecord fields = row) ↔ row.Complete := by
  constructor
  · rintro ⟨fields, rfl⟩
    exact complete_ofRecord fields
  · intro hrow
    exact ⟨row.texts, ofRecord_texts hrow⟩

theorem values_ofRecord (fields : List String) :
    (ofRecord fields).values =
      (List.range columnCount).map fun column => fields[column]?.bind Cell.ofText := by
  apply List.ext_getElem?
  intro column
  by_cases hcolumn : column < columnCount
  · rw [getElem?_ofRecord fields hcolumn, List.getElem?_map, List.getElem?_range hcolumn]
    rfl
  · rw [List.getElem?_eq_none (by rw [length_ofRecord]; omega),
      List.getElem?_eq_none (by rw [List.length_map, List.length_range]; omega)]

end Observation

end HourlyIngest
