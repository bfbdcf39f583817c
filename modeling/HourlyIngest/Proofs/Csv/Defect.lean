import HourlyIngest.Csv.Contents
import HourlyIngest.Proofs.Observation.Record
import HourlyIngest.Proofs.Text.Utf8
import Mathlib.Data.List.Forall2

/-!
# The first defect of a file

A file is cut into records, the first of which is the header, and reading it either gives the
contents of all records or names a defect.  Which of several defects is named follows from the order
of the file alone (`Defect`): first come those of the header, then those of each record in turn, and
a fault in the place of the end comes behind all records that were complete before it.  Without a
defect the contents are made of the fields of the records and of nothing else (`Conveys`), and a file
either conveys contents or has a first defect, as reading says (`read_spec`).

Both relations speak of whole files and not of the loop that reads them.  What they take from the
machine are the records, and a cell is a text if it is the bytes of one.
-/

namespace HourlyIngest

open Text

/-- The records that an input splits into.  Where a fault stands in the place of the end, the record
that is open there is none. -/
def Input.records (input : Input) : List Csv.Record :=
  Csv.records input.fault.isNone input.bytes

namespace Contents

/-! ## Records -/

/-- A cell of the record is no text.  The failure names the first such cell, and the offset in it. -/
def Garbled (record : Csv.Record) (failure : Failure) : Prop :=
  ∃ (good : List String) (bad : Bytes) (rest : List Bytes) (offset : Nat),
    record.cells = good.map encode ++ bad :: rest ∧ (∀ text, bad ≠ encode text) ∧
      firstBroken? bad = some offset ∧
        failure = .csv (.notText record.number record.start good.length offset)

/-- Below a header of `columns` columns, the record has these fields and nothing wrong with it. -/
def Sound (columns : Nat) (record : Csv.Record) (fields : List String) : Prop :=
  record.cells = fields.map encode ∧ fields.length ≤ columns

/-- What is wrong with a record below a header of `columns` columns. -/
inductive Spoiled (label : String) (columns : Nat) (record : Csv.Record) : Failure → Prop where
  | garbled {failure : Failure} : Garbled record failure → Spoiled label columns record failure
  | wide {fields : List String} : record.cells = fields.map encode → columns < fields.length →
      Spoiled label columns record
        (.malformedRow label record.start.line (wideRowText columns fields.length))

variable {label : String} {columns : Nat} {record : Csv.Record} {fields : List String}
  {failure : Failure}

theorem firstBroken?_eq_some_iff {bytes : Bytes} {offset : Nat} :
    firstBroken? bytes = some offset ↔ decode bytes = .error offset := by
  unfold decode
  cases firstBroken? bytes <;> simp

theorem decodeCells_map_encode (number : Nat) (fields : List String) :
    Csv.decodeCells number (fields.map encode) = .ok fields := by
  induction fields generalizing number with
  | nil => rfl
  | cons field fields ih =>
      rw [List.map_cons, Csv.decodeCells, decode_encode, ih]
      rfl

theorem decodeCells_eq_ok_iff {cells : List Bytes} {number : Nat} :
    Csv.decodeCells number cells = .ok fields ↔ cells = fields.map encode := by
  refine ⟨fun hdecode => ?_, fun hcells => hcells ▸ decodeCells_map_encode number fields⟩
  induction cells generalizing number fields with
  | nil =>
      rw [Csv.decodeCells, Except.ok.injEq] at hdecode
      rw [← hdecode]
      rfl
  | cons cell cells ih =>
      rw [Csv.decodeCells] at hdecode
      split at hdecode
      · cases hdecode
      next text htext =>
      cases hrest : Csv.decodeCells (number + 1) cells with
      | error defect => rw [hrest] at hdecode; cases hdecode
      | ok texts =>
          rw [hrest] at hdecode
          obtain rfl := Except.ok.inj hdecode
          rw [List.map_cons, ← ih hrest, decode_eq_ok_iff.mp htext]

/-- The first cell that is no text is the one that is reported. -/
theorem decodeCells_eq_error_iff {cells : List Bytes} {number cell offset : Nat} :
    Csv.decodeCells number cells = .error (cell, offset) ↔
      ∃ (good : List String) (bad : Bytes) (rest : List Bytes),
        cells = good.map encode ++ bad :: rest ∧ firstBroken? bad = some offset ∧
          cell = number + good.length := by
  induction cells generalizing number with
  | nil => simp [Csv.decodeCells]
  | cons first cells ih =>
      rw [Csv.decodeCells]
      cases htext : decode first with
      | error broken =>
          have hfirst := firstBroken?_eq_some_iff.mpr htext
          constructor
          · intro herror
            obtain ⟨rfl, rfl⟩ := Prod.mk.inj (Except.error.inj herror)
            exact ⟨[], first, cells, rfl, hfirst, rfl⟩
          · rintro ⟨good, bad, rest, hcells, hbad, rfl⟩
            cases good with
            | nil =>
                obtain ⟨rfl, -⟩ := List.cons.inj hcells
                obtain rfl := Option.some.inj (hfirst.symm.trans hbad)
                rfl
            | cons text good =>
                obtain ⟨rfl, -⟩ := List.cons.inj hcells
                rw [decode_encode] at htext
                cases htext
      | ok text =>
          obtain rfl := decode_eq_ok_iff.mp htext
          have hmap : ∀ result : Except (Nat × Nat) (List String),
              result.map (text :: ·) = .error (cell, offset) ↔ result = .error (cell, offset) := by
            rintro (_ | _) <;> simp [Except.map]
          simp only [hmap, ih]
          constructor
          · rintro ⟨good, bad, rest, rfl, hbad, rfl⟩
            exact ⟨text :: good, bad, rest, rfl, hbad, by rw [List.length_cons]; omega⟩
          · rintro ⟨good, bad, rest, hcells, hbad, rfl⟩
            cases good with
            | nil =>
                obtain ⟨rfl, -⟩ := List.cons.inj hcells
                rw [firstBroken?_encode] at hbad
                cases hbad
            | cons other good =>
                obtain ⟨-, rfl⟩ := List.cons.inj hcells
                exact ⟨good, bad, rest, rfl, hbad, by rw [List.length_cons]; omega⟩

theorem texts_eq_ok_iff : texts record = .ok fields ↔ record.cells = fields.map encode := by
  have hcells : Csv.decodeCells 0 record.cells = .ok fields ↔ record.cells = fields.map encode :=
    decodeCells_eq_ok_iff
  rw [← hcells, texts]
  cases Csv.decodeCells 0 record.cells <;> simp

theorem texts_eq_error_iff : texts record = .error failure ↔ Garbled record failure := by
  unfold texts
  constructor
  · intro herror
    split at herror
    · cases herror
    next cell offset hdecode =>
    obtain ⟨good, bad, rest, hcells, hbad, hcell⟩ := decodeCells_eq_error_iff.mp hdecode
    rw [Nat.zero_add] at hcell
    refine ⟨good, bad, rest, offset, hcells, ?_, hbad, ?_⟩
    · rintro text rfl
      rw [firstBroken?_encode] at hbad
      cases hbad
    · rw [← hcell]
      exact (Except.error.inj herror).symm
  · rintro ⟨good, bad, rest, offset, hcells, -, hbad, rfl⟩
    have hdecode : Csv.decodeCells 0 record.cells = .error (good.length, offset) :=
      decodeCells_eq_error_iff.mpr ⟨good, bad, rest, hcells, hbad, (Nat.zero_add _).symm⟩
    rw [hdecode]

theorem observation_eq_ok_iff {row : Observation} :
    observation label columns record = .ok row ↔
      ∃ fields, Sound columns record fields ∧ row = Observation.ofRecord fields := by
  unfold observation
  cases htexts : texts record with
  | error failure =>
      refine iff_of_false (by simp) ?_
      rintro ⟨fields, ⟨hcells, -⟩, -⟩
      rw [texts_eq_ok_iff.mpr hcells] at htexts
      cases htexts
  | ok fields =>
      have hcells := texts_eq_ok_iff.mp htexts
      constructor
      · intro hrow
        dsimp only at hrow
        split at hrow
        · cases hrow
        · next hwidth => exact ⟨fields, ⟨hcells, Nat.not_lt.mp hwidth⟩, (Except.ok.inj hrow).symm⟩
      · rintro ⟨other, ⟨hother, hwidth⟩, rfl⟩
        obtain rfl : fields = other :=
          Except.ok.inj (htexts.symm.trans (texts_eq_ok_iff.mpr hother))
        exact if_neg (Nat.not_lt.mpr hwidth)

theorem observation_eq_error_iff :
    observation label columns record = .error failure ↔ Spoiled label columns record failure := by
  unfold observation
  cases htexts : texts record with
  | error garbled =>
      constructor
      · intro herror
        obtain rfl := Except.error.inj herror
        exact .garbled (texts_eq_error_iff.mp htexts)
      · intro hspoiled
        cases hspoiled with
        | garbled hgarbled =>
            obtain rfl := Except.error.inj (htexts.symm.trans (texts_eq_error_iff.mpr hgarbled))
            rfl
        | wide hcells hwidth =>
            rw [texts_eq_ok_iff.mpr hcells] at htexts
            cases htexts
  | ok fields =>
      constructor
      · intro herror
        dsimp only at herror
        split at herror
        · next hwidth =>
          rw [← Except.error.inj herror]
          exact .wide (texts_eq_ok_iff.mp htexts) hwidth
        · cases herror
      · intro hspoiled
        cases hspoiled with
        | garbled hgarbled =>
            rw [texts_eq_error_iff.mpr hgarbled] at htexts
            cases htexts
        | wide hcells hwidth =>
            obtain rfl := Except.ok.inj (htexts.symm.trans (texts_eq_ok_iff.mpr hcells))
            exact if_pos hwidth

/-! ## The records below the header -/

theorem observations_eq_ok_iff {records : List Csv.Record} {rows : List Observation} :
    observations label columns records = .ok rows ↔
      ∃ table, List.Forall₂ (Sound columns) records table ∧
        rows = table.map Observation.ofRecord := by
  induction records generalizing rows with
  | nil =>
      rw [observations, Except.ok.injEq]
      constructor
      · rintro rfl
        exact ⟨[], .nil, rfl⟩
      · rintro ⟨table, hsound, rfl⟩
        cases hsound
        rfl
  | cons record records ih =>
      rw [observations]
      constructor
      · intro hrows
        split at hrows
        · cases hrows
        next row hrow =>
        split at hrows
        · cases hrows
        next others hothers =>
        obtain ⟨fields, hsound, rfl⟩ := observation_eq_ok_iff.mp hrow
        obtain ⟨table, htable, rfl⟩ := ih.mp hothers
        exact ⟨fields :: table, .cons hsound htable, (Except.ok.inj hrows).symm⟩
      · rintro ⟨table, hsound, rfl⟩
        cases hsound with
        | cons hfirst hrest =>
            rw [observation_eq_ok_iff.mpr ⟨_, hfirst, rfl⟩, ih.mpr ⟨_, hrest, rfl⟩]
            rfl

/-- The failure is that of the first record with which something is wrong. -/
theorem observations_eq_error_iff {records : List Csv.Record} :
    observations label columns records = .error failure ↔
      ∃ before record after, records = before ++ record :: after ∧
        (∀ row ∈ before, ∃ fields, Sound columns row fields) ∧
          Spoiled label columns record failure := by
  induction records with
  | nil => simp [observations]
  | cons record records ih =>
      cases hfirst : observation label columns record with
      | error spoiled =>
          have hspoiled := observation_eq_error_iff.mp hfirst
          rw [observations, hfirst]
          constructor
          · intro herror
            obtain rfl := Except.error.inj herror
            exact ⟨[], record, records, rfl, by simp, hspoiled⟩
          · rintro ⟨before, other, after, hrecords, hsound, hother⟩
            cases before with
            | nil =>
                obtain ⟨rfl, -⟩ := List.cons.inj hrecords
                obtain rfl :=
                  Except.error.inj (hfirst.symm.trans (observation_eq_error_iff.mpr hother))
                rfl
            | cons row before =>
                -- a record cannot be both sound and spoiled
                obtain ⟨rfl, -⟩ := List.cons.inj hrecords
                obtain ⟨fields, hfields⟩ := hsound _ List.mem_cons_self
                rw [observation_eq_ok_iff.mpr ⟨fields, hfields, rfl⟩] at hfirst
                cases hfirst
      | ok row =>
          obtain ⟨fields, hfields, -⟩ := observation_eq_ok_iff.mp hfirst
          have hrest : observations label columns (record :: records) = .error failure ↔
              observations label columns records = .error failure := by
            rw [observations, hfirst]
            cases observations label columns records <;> simp
          refine hrest.trans (ih.trans ?_)
          constructor
          · rintro ⟨before, other, after, rfl, hsound, hother⟩
            refine ⟨record :: before, other, after, rfl, ?_, hother⟩
            exact List.forall_mem_cons.mpr ⟨⟨fields, hfields⟩, hsound⟩
          · rintro ⟨before, other, after, hrecords, hsound, hother⟩
            cases before with
            | nil =>
                obtain ⟨rfl, -⟩ := List.cons.inj hrecords
                rw [observation_eq_error_iff.mpr hother] at hfirst
                cases hfirst
            | cons first before =>
                obtain ⟨-, rfl⟩ := List.cons.inj hrecords
                exact ⟨before, other, after, rfl, (List.forall_mem_cons.mp hsound).2, hother⟩

/-! ## The header -/

/-- What is wrong with a column of the header, if anything is: its name, blanks around it and letter
case aside, is not that of the destination's column in this position. -/
def mismatch? (header : List String) (position : Nat) : Option HeaderMismatch :=
  match header[position]?, destinationColumns[position]? with
  | some found, some expected =>
      if sameColumn found expected then none else some ⟨position, expected, found⟩
  | _, _ => none

theorem mismatchesFrom_eq (first : Nat) (pairs : List (String × String)) :
    mismatchesFrom first pairs = (List.range pairs.length).filterMap fun position =>
      pairs[position]?.bind fun pair =>
        if sameColumn pair.1 pair.2 then none
        else some ⟨first + position, pair.2, pair.1⟩ := by
  induction pairs generalizing first with
  | nil => rfl
  | cons pair pairs ih =>
      rw [mismatchesFrom, ih, List.length_cons, List.range_succ_eq_map, List.filterMap_cons,
        List.filterMap_map]
      have hlater : (fun position => (pair :: pairs)[position]?.bind fun pair =>
          if sameColumn pair.1 pair.2 then none
          else some (⟨first + position, pair.2, pair.1⟩ : HeaderMismatch)) ∘ Nat.succ =
          fun position => pairs[position]?.bind fun pair =>
            if sameColumn pair.1 pair.2 then none
            else some ⟨first + 1 + position, pair.2, pair.1⟩ := by
        funext position
        have hposition : first + (position + 1) = first + 1 + position := by omega
        simp only [Function.comp_apply, Nat.succ_eq_add_one, List.getElem?_cons_succ, hposition]
      rw [hlater]
      cases hsame : sameColumn pair.1 pair.2 <;> simp [hsame]

/-- The mismatches of a wide enough header, position by position. -/
theorem mismatches_eq {header : List String} (hwidth : columnCount ≤ header.length) :
    mismatches header = (List.range columnCount).filterMap (mismatch? header) := by
  have hlength : (header.zip destinationColumns).length = columnCount := by
    rw [List.length_zip, length_destinationColumns]
    omega
  rw [mismatches, mismatchesFrom_eq, hlength]
  refine List.filterMap_congr fun position _ => ?_
  rw [List.zip, List.getElem?_zipWith, mismatch?, Nat.zero_add]
  cases header[position]? <;> cases destinationColumns[position]? <;> rfl

/-! ## Whole files -/

/-- What a file without a defect conveys: the number of the header's columns, where their names are
not the destination's, and one row for each record below. -/
def Conveys (input : Input) (contents : Contents) : Prop :=
  ∃ (first : Csv.Record) (rest : List Csv.Record) (header : List String)
    (table : List (List String)),
    input.records = first :: rest ∧ first.cells = header.map encode ∧
      columnCount ≤ header.length ∧ List.Forall₂ (Sound header.length) rest table ∧
        input.fault = none ∧ contents.sourceColumns = header.length ∧
          contents.discardedColumns = header.length - columnCount ∧
            contents.headerMismatches = (List.range columnCount).filterMap (mismatch? header) ∧
              contents.rows = table.map Observation.ofRecord

/-- The first defect of a file, in the order of the file. -/
inductive Defect (label : String) (input : Input) : Failure → Prop where
  /-- Not even the header could be read. -/
  | unreadable {fault : IoFault} : input.records = [] → input.fault = some fault →
      Defect label input (.csv (.unreadable fault))
  /-- There is no header. -/
  | empty : input.records = [] → input.fault = none →
      Defect label input (.columnCount label 0 columnCount)
  | header {first : Csv.Record} {rest : List Csv.Record} {failure : Failure} :
      input.records = first :: rest → Garbled first failure → Defect label input failure
  | narrow {first : Csv.Record} {rest : List Csv.Record} {header : List String} :
      input.records = first :: rest → first.cells = header.map encode →
        header.length < columnCount →
          Defect label input (.columnCount label header.length columnCount)
  /-- All records before the one with a defect are sound. -/
  | row {first record : Csv.Record} {before after : List Csv.Record} {header : List String}
      {failure : Failure} :
      input.records = first :: (before ++ record :: after) → first.cells = header.map encode →
        columnCount ≤ header.length →
          (∀ row ∈ before, ∃ fields, Sound header.length row fields) →
            Spoiled label header.length record failure → Defect label input failure
  /-- All records are sound, but the end was not reached. -/
  | brokenOff {first : Csv.Record} {rest : List Csv.Record} {header : List String}
      {fault : IoFault} :
      input.records = first :: rest → first.cells = header.map encode →
        columnCount ≤ header.length → (∀ row ∈ rest, ∃ fields, Sound header.length row fields) →
          input.fault = some fault → Defect label input (.csv (.unreadable fault))

variable {input : Input} {first : Csv.Record} {rest : List Csv.Record} {header : List String}

theorem header_of_records (hrecords : input.records = first :: rest) :
    Contents.header input = (texts first).map fun fields => (fields, rest) := by
  have hsplit : Csv.records input.fault.isNone input.bytes = first :: rest := hrecords
  rw [Contents.header, hsplit]

/-- Below a wide enough header the records decide, and the end of the file comes after them. -/
theorem read_of_header (label : String) (hrecords : input.records = first :: rest)
    (hfirst : first.cells = header.map encode) (hwidth : columnCount ≤ header.length) :
    read label input =
      match observations label header.length rest, input.fault with
      | .error failure, _ => .error failure
      | .ok _, some fault => .error (.csv (.unreadable fault))
      | .ok rows, none => .ok ⟨header.length, mismatches header, rows⟩ := by
  have hheader : Contents.header input = .ok (header, rest) := by
    rw [header_of_records hrecords, texts_eq_ok_iff.mpr hfirst]
    rfl
  rw [read, hheader]
  exact if_neg (Nat.not_lt.mpr hwidth)

theorem read_of_conveys (label : String) {contents : Contents} (hconveys : Conveys input contents) :
    read label input = .ok contents := by
  obtain ⟨first, rest, header, table, hrecords, hfirst, hwidth, htable, hfault, hcolumns, -,
    hmismatches, hrows⟩ := hconveys
  rw [read_of_header label hrecords hfirst hwidth,
    observations_eq_ok_iff.mpr ⟨table, htable, rfl⟩, hfault, mismatches_eq hwidth, ← hcolumns,
    ← hmismatches, ← hrows]

theorem read_of_defect (hdefect : Defect label input failure) :
    read label input = .error failure := by
  cases hdefect with
  | unreadable hrecords hfault =>
      have hsplit : Csv.records input.fault.isNone input.bytes = [] := hrecords
      rw [read, Contents.header, hsplit, hfault]
  | empty hrecords hfault =>
      have hsplit : Csv.records input.fault.isNone input.bytes = [] := hrecords
      rw [read, Contents.header, hsplit, hfault]
      rfl
  | header hrecords hgarbled =>
      rw [read, header_of_records hrecords, texts_eq_error_iff.mpr hgarbled]
      rfl
  | narrow hrecords hfirst hwidth =>
      rw [read, header_of_records hrecords, texts_eq_ok_iff.mpr hfirst]
      exact if_pos hwidth
  | @row first record before after header failure hrecords hfirst hwidth hbefore hspoiled =>
      have hrows := observations_eq_error_iff.mpr ⟨before, record, after, rfl, hbefore, hspoiled⟩
      rw [read_of_header label hrecords hfirst hwidth, hrows]
  | @brokenOff first rest header fault hrecords hfirst hwidth hsound hfault =>
      rw [read_of_header label hrecords hfirst hwidth, hfault]
      cases hrows : observations label header.length rest with
      | ok rows => rfl
      | error failure =>
          -- a sound record cannot be spoiled
          obtain ⟨before, record, after, rfl, -, hspoiled⟩ := observations_eq_error_iff.mp hrows
          obtain ⟨fields, hfields⟩ := hsound record (by simp)
          have hboth := (observation_eq_ok_iff : observation label _ record = _ ↔ _).mpr
            ⟨fields, hfields, rfl⟩
          rw [observation_eq_error_iff.mpr hspoiled] at hboth
          cases hboth

theorem conveys_or_defect (label : String) (input : Input) :
    (∃ contents, Conveys input contents) ∨ ∃ failure, Defect label input failure := by
  cases hrecords : input.records with
  | nil =>
      cases hfault : input.fault with
      | none => exact Or.inr ⟨_, .empty hrecords hfault⟩
      | some fault => exact Or.inr ⟨_, .unreadable hrecords hfault⟩
  | cons first rest =>
      cases htexts : texts first with
      | error failure => exact Or.inr ⟨_, .header hrecords (texts_eq_error_iff.mp htexts)⟩
      | ok header =>
          have hfirst := texts_eq_ok_iff.mp htexts
          by_cases hwidth : columnCount ≤ header.length
          · cases hrows : observations label header.length rest with
            | error failure =>
                obtain ⟨before, record, after, rfl, hbefore, hspoiled⟩ :=
                  observations_eq_error_iff.mp hrows
                exact Or.inr ⟨_, .row hrecords hfirst hwidth hbefore hspoiled⟩
            | ok rows =>
                obtain ⟨table, htable, -⟩ := observations_eq_ok_iff.mp hrows
                cases hfault : input.fault with
                | none =>
                    exact Or.inl ⟨⟨header.length, _, _⟩, first, rest, header, table, hrecords,
                      hfirst, hwidth, htable, hfault, rfl, rfl, rfl, rfl⟩
                | some fault =>
                    have hsound : ∀ row ∈ rest, ∃ fields, Sound header.length row fields :=
                      ((List.forall₂_and_left rest table).mp
                        (htable.imp fun _ fields hrow => ⟨⟨fields, hrow⟩, hrow⟩)).1
                    exact Or.inr ⟨_, .brokenOff hrecords hfirst hwidth hsound hfault⟩
          · exact Or.inr ⟨_, .narrow hrecords hfirst (Nat.not_le.mp hwidth)⟩

theorem conveys_of_read {contents : Contents} (hread : read label input = .ok contents) :
    Conveys input contents := by
  rcases conveys_or_defect label input with ⟨other, hother⟩ | ⟨failure, hdefect⟩
  · obtain rfl := Except.ok.inj (hread.symm.trans (read_of_conveys label hother))
    exact hother
  · rw [read_of_defect hdefect] at hread
    cases hread

theorem defect_of_read (hread : read label input = .error failure) :
    Defect label input failure := by
  rcases conveys_or_defect label input with ⟨contents, hconveys⟩ | ⟨other, hother⟩
  · rw [read_of_conveys label hconveys] at hread
    cases hread
  · obtain rfl := Except.error.inj (hread.symm.trans (read_of_defect hother))
    exact hother

/-- **Reading gives the contents of a file, or else its first defect.** -/
theorem read_spec (label : String) (input : Input) :
    (∀ contents, read label input = .ok contents ↔ Conveys input contents) ∧
      ∀ failure, read label input = .error failure ↔ Defect label input failure :=
  ⟨fun _ => ⟨conveys_of_read, read_of_conveys label⟩,
    fun _ => ⟨defect_of_read, read_of_defect⟩⟩

end Contents

end HourlyIngest
