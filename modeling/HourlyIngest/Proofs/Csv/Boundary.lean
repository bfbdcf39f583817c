import HourlyIngest.Proofs.Csv.Place
import HourlyIngest.Proofs.Csv.RoundTrip
import HourlyIngest.Proofs.Csv.Unclosed
import Mathlib.Data.List.Induction

/-!
# Records are read one by one

Behind a line feed outside quotes the machine has forgotten everything but its place: no cell and no
record is open (`Scanner.idle_run`), and the cells of the records to come do not depend on the place
(`Scanner.Agrees.map_cells_records`).  So when a file is put together at such line feeds, its cells
are those of the parts (`cells_append`), and it is read as the parts are below the same header
(`Contents.read_append_of_endsLine`).

That a line feed stands outside quotes is said of the bytes in front of it: they are not `Unclosed`.
The mode of the machine behind them tells the same (`unclosed_iff`).
-/

namespace HourlyIngest

open Text

namespace Csv

open Scanner

/-! ## The mode moves by itself -/

namespace Mode

/-- The mode behind a byte that may end the cell and the record. -/
def afterBare (byte : UInt8) : Mode :=
  if byte = comma then .atCell else if isBreak byte then .outside else .bare

/-- The mode behind a byte, whatever has been read before. -/
def after (mode : Mode) (byte : UInt8) : Mode :=
  match mode with
  | .outside | .atCell => if byte = quote then .inQuotes else afterBare byte
  | .bare => afterBare byte
  | .inQuotes => if byte = quote then .afterQuote else .inQuotes
  | .afterQuote => if byte = quote then .inQuotes else afterBare byte

theorem afterBare_ne_quoted (byte : UInt8) :
    afterBare byte ≠ .inQuotes ∧ afterBare byte ≠ .afterQuote := by
  unfold afterBare
  split
  · simp
  · split <;> simp

theorem after_eq_inQuotes {mode : Mode} {byte : UInt8} (hafter : mode.after byte = .inQuotes) :
    (mode = .outside ∨ mode = .atCell) ∧ byte = quote ∨ mode = .inQuotes ∧ byte ≠ quote ∨
      mode = .afterQuote ∧ byte = quote := by
  have hbare := afterBare_ne_quoted byte
  by_cases hquote : byte = quote
  · cases mode <;> simp_all [after]
  · cases mode <;> simp_all [after]

theorem after_eq_afterQuote {mode : Mode} {byte : UInt8}
    (hafter : mode.after byte = .afterQuote) : mode = .inQuotes ∧ byte = quote := by
  have hbare := afterBare_ne_quoted byte
  by_cases hquote : byte = quote
  · cases mode <;> simp_all [after]
  · cases mode <;> simp_all [after]

/-- Outside quotes a line feed leaves no record open. -/
theorem after_lineFeed {mode : Mode} (hmode : mode ≠ .inQuotes) :
    mode.after lineFeed = .outside := by
  cases mode with
  | inQuotes => exact absurd rfl hmode
  | _ => decide

end Mode

namespace Scanner

theorem mode_stepBare (scanner : Scanner) (byte : UInt8) :
    (scanner.stepBare byte).2.mode = Mode.afterBare byte := by
  unfold stepBare Mode.afterBare
  split
  · rfl
  · split <;> rfl

theorem mode_stepCell (scanner : Scanner) (byte : UInt8) :
    (scanner.stepCell byte).2.mode =
      if byte = quote then .inQuotes else Mode.afterBare byte := by
  unfold stepCell
  split
  · rfl
  · exact mode_stepBare scanner byte

theorem mode_step (scanner : Scanner) (byte : UInt8) :
    (scanner.step byte).2.mode = scanner.mode.after byte := by
  unfold step Mode.after
  cases hmode : scanner.mode with
  | outside =>
      dsimp only
      split
      · next hbreak =>
        have hquote : byte ≠ quote := by
          rintro rfl
          exact absurd hbreak (by decide)
        have hcomma : byte ≠ comma := by
          rintro rfl
          exact absurd hbreak (by decide)
        rw [if_neg hquote, Mode.afterBare, if_neg hcomma, if_pos hbreak]
      · exact mode_stepCell _ byte
  | atCell => exact mode_stepCell _ byte
  | bare => exact mode_stepBare _ byte
  | inQuotes =>
      dsimp only
      split <;> rfl
  | afterQuote =>
      dsimp only
      split
      · rfl
      · exact mode_stepBare _ byte

theorem run_concat (scanner : Scanner) (bytes : Bytes) (byte : UInt8) :
    (scanner.run (bytes ++ [byte])).2 = ((scanner.run bytes).2.step byte).2 := by
  rw [run_append, run_cons, run_nil]

/-! ## In quotes -/

variable {scanner other : Scanner}

/-- The bytes open a quoted cell, which has held `cell` so far. -/
def Opens (scanner : Scanner) (bytes : Bytes) : Prop :=
  ∃ before cell : Bytes, bytes = before ++ quote :: cell.flatMap double ∧
    (scanner.run before).2.AtCell

theorem Opens.concat {bytes more : Bytes} (hopens : scanner.Opens bytes) {byte : UInt8}
    (hmore : double byte = more) : scanner.Opens (bytes ++ more) := by
  obtain ⟨before, cell, rfl, hcell⟩ := hopens
  refine ⟨before, cell ++ [byte], ?_, hcell⟩
  simp [List.flatMap_append, hmore]

/-- A run is in quotes only where it has opened a quoted cell, and behind a quote of such a cell
only where the quote is the last byte. -/
theorem opens_of_run (hbare : scanner.AtCell) (bytes : Bytes) :
    ((scanner.run bytes).2.mode = .inQuotes → scanner.Opens bytes) ∧
      ((scanner.run bytes).2.mode = .afterQuote →
        ∃ front, bytes = front ++ [quote] ∧ scanner.Opens front) := by
  induction bytes using List.reverseRecOn with
  | nil => rcases hbare with hmode | hmode <;> simp [hmode]
  | append_singleton bytes byte ih =>
      rw [run_concat, mode_step]
      constructor
      · intro hquotes
        rcases Mode.after_eq_inQuotes hquotes with ⟨hcell, rfl⟩ | ⟨hmode, hbyte⟩ | ⟨hmode, rfl⟩
        · exact ⟨bytes, [], rfl, hcell⟩
        · exact (ih.1 hmode).concat (if_neg hbyte)
        · -- the two quotes stand for one
          obtain ⟨front, rfl, hopens⟩ := ih.2 hmode
          have hdouble : double quote = [quote, quote] := if_pos rfl
          rw [List.append_assoc]
          exact hopens.concat hdouble
      · intro hquotes
        obtain ⟨hmode, rfl⟩ := Mode.after_eq_afterQuote hquotes
        exact ⟨bytes, rfl, ih.1 hmode⟩

/-! ## Nothing is open outside -/

theorem idle_stepBare (byte : UInt8) (hmode : (scanner.stepBare byte).2.mode = .outside) :
    (scanner.stepBare byte).2.Idle := by
  unfold stepBare at hmode ⊢
  split at hmode
  · cases hmode
  · next hcomma =>
    split at hmode
    · next hbreak =>
      rw [if_neg hcomma, if_pos hbreak]
      exact idle_closeRecord scanner
    · cases hmode

theorem idle_stepCell (byte : UInt8) (hmode : (scanner.stepCell byte).2.mode = .outside) :
    (scanner.stepCell byte).2.Idle := by
  unfold stepCell at hmode ⊢
  split at hmode
  · cases hmode
  · next hquote =>
    rw [if_neg hquote]
    exact idle_stepBare byte hmode

theorem idle_step (hidle : scanner.mode = .outside → scanner.Idle) (byte : UInt8)
    (hmode : (scanner.step byte).2.mode = .outside) : (scanner.step byte).2.Idle := by
  unfold step at hmode ⊢
  cases hbefore : scanner.mode with
  | outside =>
      simp only [hbefore] at hmode ⊢
      split
      · exact ⟨rfl, (hidle hbefore).cell, (hidle hbefore).cells⟩
      · next hbreak =>
        rw [if_neg hbreak] at hmode
        exact idle_stepCell byte hmode
  | atCell =>
      simp only [hbefore] at hmode ⊢
      exact idle_stepCell byte hmode
  | bare =>
      simp only [hbefore] at hmode ⊢
      exact idle_stepBare byte hmode
  | inQuotes =>
      simp only [hbefore] at hmode
      split at hmode <;> cases hmode
  | afterQuote =>
      simp only [hbefore] at hmode ⊢
      split at hmode
      · cases hmode
      · next hquote =>
        rw [if_neg hquote]
        exact idle_stepBare byte hmode

/-- Where no record is open, nothing of one is held. -/
theorem idle_run (hidle : scanner.Idle) (bytes : Bytes)
    (hmode : (scanner.run bytes).2.mode = .outside) : (scanner.run bytes).2.Idle := by
  induction bytes using List.reverseRecOn with
  | nil => exact hidle
  | append_singleton bytes byte ih =>
      rw [run_concat] at hmode ⊢
      exact idle_step ih byte hmode

/-! ## Records do not depend on the place -/

/-- The two states hold the same part of a record, wherever they stand. -/
structure Agrees (scanner other : Scanner) : Prop where
  mode : scanner.mode = other.mode
  cell : scanner.cell = other.cell
  cells : scanner.cells = other.cells

theorem Idle.agrees (hidle : scanner.Idle) (hother : other.Idle) : scanner.Agrees other :=
  ⟨hidle.mode.trans hother.mode.symm, hidle.cell.trans hother.cell.symm,
    hidle.cells.trans hother.cells.symm⟩

/-- Both states do the same with a byte: the records that it ends have the same cells, and the
states behind it agree again. -/
def AgreeOn (scanner other : Option Record × Scanner) : Prop :=
  scanner.1.map Record.cells = other.1.map Record.cells ∧ scanner.2.Agrees other.2

theorem Agrees.cells_record (hagrees : scanner.Agrees other) :
    scanner.record.cells = other.record.cells := by
  rw [record, record, hagrees.cell, hagrees.cells]

theorem Agrees.stepBare (hagrees : scanner.Agrees other) (byte : UInt8) :
    AgreeOn (scanner.stepBare byte) (other.stepBare byte) := by
  unfold Scanner.stepBare
  split
  · exact ⟨rfl, rfl, rfl, by simp only [closeCell, hagrees.cell, hagrees.cells]⟩
  · split
    · exact ⟨congrArg some hagrees.cells_record, rfl, rfl, rfl⟩
    · exact ⟨rfl, rfl, congrArg (byte :: ·) hagrees.cell, hagrees.cells⟩

theorem Agrees.stepCell (hagrees : scanner.Agrees other) (byte : UInt8) :
    AgreeOn (scanner.stepCell byte) (other.stepCell byte) := by
  unfold Scanner.stepCell
  split
  · exact ⟨rfl, rfl, hagrees.cell, hagrees.cells⟩
  · exact hagrees.stepBare byte

theorem Agrees.step (hagrees : scanner.Agrees other) (byte : UInt8) :
    AgreeOn (scanner.step byte) (other.step byte) := by
  have hmoved : Agrees { scanner with here := scanner.here.after byte }
      { other with here := other.here.after byte } :=
    ⟨hagrees.mode, hagrees.cell, hagrees.cells⟩
  unfold Scanner.step
  rw [← hagrees.mode]
  cases scanner.mode with
  | outside =>
      dsimp only
      split
      · exact ⟨rfl, rfl, hagrees.cell, hagrees.cells⟩
      · exact hmoved.stepCell byte
  | atCell => exact hmoved.stepCell byte
  | bare => exact hmoved.stepBare byte
  | inQuotes =>
      dsimp only
      split
      · exact ⟨rfl, rfl, hagrees.cell, hagrees.cells⟩
      · exact ⟨rfl, rfl, congrArg (byte :: ·) hagrees.cell, hagrees.cells⟩
  | afterQuote =>
      dsimp only
      split
      · exact ⟨rfl, rfl, congrArg (byte :: ·) hagrees.cell, hagrees.cells⟩
      · exact hmoved.stepBare byte

theorem Agrees.map_cells_records (hagrees : scanner.Agrees other) (endSeen : Bool)
    (bytes : Bytes) :
    (scanner.records endSeen bytes).map Record.cells =
      (other.records endSeen bytes).map Record.cells := by
  induction bytes generalizing scanner other with
  | nil =>
      unfold Scanner.records atEnd
      cases endSeen with
      | false => rfl
      | true =>
          rw [← hagrees.mode]
          cases scanner.mode <;> simp [hagrees.cells_record]
  | cons byte bytes ih =>
      obtain ⟨hended, hnext⟩ := hagrees.step byte
      have hrest := ih hnext
      have hone : ∀ state : Scanner, (state.records endSeen (byte :: bytes)).map Record.cells =
          ((state.step byte).1.map Record.cells).toList ++
            ((state.step byte).2.records endSeen bytes).map Record.cells := by
        intro state
        rw [Scanner.records]
        cases state.step byte with
        | mk ended next => cases ended <;> rfl
      rw [hone, hone, hended, hrest]

end Scanner

/-! ## In a quoted cell -/

/-- The bytes end inside a quoted cell exactly if the machine says so. -/
theorem unclosed_iff {bytes : Bytes} : Unclosed bytes ↔ (runFile bytes).2.mode = .inQuotes := by
  constructor
  · rintro ⟨before, cell, rfl, hcell⟩
    rw [runFile_append_quote, run_quoted hcell]
  · intro hmode
    obtain ⟨lead, hbytes, -, hruns⟩ := exists_opening bytes
    obtain ⟨before, cell, hbody, hcell⟩ :=
      (opens_of_run (idle_opening bytes).atCell (opening bytes).2).1 hmode
    refine ⟨lead ++ before, cell, ?_, ?_⟩
    · rw [List.append_assoc, ← hbody, ← hbytes]
    · rw [hruns before _ hbody]
      exact hcell

instance (bytes : Bytes) : Decidable (Unclosed bytes) :=
  decidable_of_iff _ unclosed_iff.symm

/-! ## Parts of a file -/

/-- Read behind the bytes `before`, the bytes end with a line feed outside quotes. -/
def EndsLine (before bytes : Bytes) : Prop :=
  ∃ front, bytes = front ++ [lineFeed] ∧ ¬ Unclosed (before ++ front)

/-- The bytes are one record, ended by a line feed. -/
def IsRecord (bytes : Bytes) : Prop :=
  EndsLine [] bytes ∧ ∃ record, records true bytes = [record]

/-- The cells of the records of a file. -/
def cellsOf (bytes : Bytes) : List (List Bytes) :=
  (records true bytes).map Record.cells

/-- The cells of the records in bytes that do not begin a file. -/
def cellsBelow (bytes : Bytes) : List (List Bytes) :=
  (Scanner.records true {} bytes).map Record.cells

theorem EndsLine.append {before bytes : Bytes} (hends : EndsLine before bytes) :
    EndsLine [] (before ++ bytes) := by
  obtain ⟨front, rfl, hclosed⟩ := hends
  exact ⟨before ++ front, (List.append_assoc _ _ _).symm, hclosed⟩

/-- Behind the end of a line the records are read as if nothing had come before. -/
theorem exists_cellsOf_append {bytes : Bytes} (hends : EndsLine [] bytes) :
    ∃ cells, ∀ rest, cellsOf (bytes ++ rest) = cells ++ cellsBelow rest := by
  obtain ⟨front, rfl, hclosed⟩ := hends
  have hopening : ∀ rest, opening (front ++ [lineFeed] ++ rest) =
      ((opening front).1, (opening front).2 ++ [lineFeed] ++ rest) := by
    intro rest
    rw [List.append_assoc, List.append_assoc]
    exact opening_append_cons (by decide) front rest
  -- the machine is ready for the next record behind the line feed
  have hmode : ((opening front).1.run ((opening front).2 ++ [lineFeed])).2.mode = .outside := by
    rw [run_concat, mode_step]
    exact Mode.after_lineFeed (mt unclosed_iff.mpr hclosed)
  have hidle := idle_run (idle_opening front) _ hmode
  have hfresh : Idle {} := ⟨rfl, rfl, rfl⟩
  refine ⟨((opening front).1.run ((opening front).2 ++ [lineFeed])).1.map Record.cells,
    fun rest => ?_⟩
  rw [cellsOf, records_eq_opening, hopening, Scanner.records_append, List.map_append,
    (hidle.agrees hfresh).map_cells_records, cellsBelow]

/-- **The cells of a file are those of its parts.** -/
theorem cells_append {bytes : Bytes} (hends : EndsLine [] bytes) (rest : Bytes) :
    cellsOf (bytes ++ rest) = cellsOf bytes ++ cellsBelow rest := by
  obtain ⟨cells, hcells⟩ := exists_cellsOf_append hends
  have hbytes := hcells []
  rw [List.append_nil] at hbytes
  rw [hcells rest, hbytes]
  simp [cellsBelow, Scanner.records, atEnd]

end Csv

/-! ## Below a header -/

namespace Contents

/-- The rows are texts of these cells, none of them wider than the header. -/
def Fits (columns : Nat) (cells : List (List Bytes)) (rows : List (List String)) : Prop :=
  cells = rows.map (List.map encode) ∧ ∀ row ∈ rows, row.length ≤ columns

theorem Fits.unique {columns : Nat} {cells : List (List Bytes)} {rows others : List (List String)}
    (hrows : Fits columns cells rows) (hothers : Fits columns cells others) : rows = others :=
  encode_injective.list_map.list_map (hrows.1.symm.trans hothers.1)

theorem fits_append_iff {columns : Nat} {cells more : List (List Bytes)}
    {rows : List (List String)} :
    Fits columns (cells ++ more) rows ↔
      ∃ first later, rows = first ++ later ∧ Fits columns cells first ∧ Fits columns more later := by
  constructor
  · rintro ⟨hcells, hwidth⟩
    obtain ⟨first, later, rfl, hfirst, hlater⟩ := List.map_eq_append_iff.mp hcells.symm
    rw [List.forall_mem_append] at hwidth
    exact ⟨first, later, rfl, ⟨hfirst.symm, hwidth.1⟩, ⟨hlater.symm, hwidth.2⟩⟩
  · rintro ⟨first, later, rfl, ⟨rfl, hfirst⟩, ⟨rfl, hlater⟩⟩
    exact ⟨List.map_append.symm, List.forall_mem_append.mpr ⟨hfirst, hlater⟩⟩

theorem fits_of_sound {columns : Nat} {records : List Csv.Record} {rows : List (List String)}
    (hsound : List.Forall₂ (Sound columns) records rows) :
    Fits columns (records.map Csv.Record.cells) rows := by
  induction hsound with
  | nil => exact ⟨rfl, by simp⟩
  | cons hfirst _ ih =>
      refine ⟨?_, List.forall_mem_cons.mpr ⟨hfirst.2, ih.2⟩⟩
      rw [List.map_cons, List.map_cons, hfirst.1, ih.1]

/-- What a file is read as depends on the cells of its records alone. -/
theorem read_eq_ok_iff_cells {label : String} {bytes : Bytes} {contents : Contents} :
    read label { bytes := bytes } = .ok contents ↔
      ∃ header below rows, Csv.cellsOf bytes = header.map encode :: below ∧
        columnCount ≤ header.length ∧ Fits header.length below rows ∧
          contents = ⟨header.length, mismatches header, rows.map Observation.ofRecord⟩ := by
  constructor
  · intro hread
    obtain ⟨first, rest, header, table, hrecords, hfirst, hwidth, htable, -, hcolumns, -,
      hmismatches, hrows⟩ := conveys_of_read hread
    have hsplit : Csv.records true bytes = first :: rest := hrecords
    refine ⟨header, rest.map Csv.Record.cells, table, ?_, hwidth, fits_of_sound htable, ?_⟩
    · rw [Csv.cellsOf, hsplit, List.map_cons, hfirst]
    · rw [mismatches_eq hwidth, ← hcolumns, ← hmismatches, ← hrows]
  · rintro ⟨header, below, rows, hcells, hwidth, ⟨rfl, hrows⟩, rfl⟩
    exact read_of_cells label hcells hwidth hrows

/-- Below a known header, a file is read exactly if the cells below are those of fitting rows. -/
theorem read_eq_ok_iff_below {label : String} {bytes : Bytes} {header : List String}
    {below : List (List Bytes)} (hcells : Csv.cellsOf bytes = header.map encode :: below)
    (hwidth : columnCount ≤ header.length) {contents : Contents} :
    read label { bytes := bytes } = .ok contents ↔
      ∃ rows, Fits header.length below rows ∧
        contents = ⟨header.length, mismatches header, rows.map Observation.ofRecord⟩ := by
  rw [read_eq_ok_iff_cells]
  constructor
  · rintro ⟨other, cells, rows, hother, -, hfits, rfl⟩
    obtain ⟨hheader, rfl⟩ := List.cons.inj (hcells.symm.trans hother)
    obtain rfl := encode_injective.list_map hheader
    exact ⟨rows, hfits, rfl⟩
  · rintro ⟨rows, hfits, rfl⟩
    exact ⟨header, below, rows, hcells, hwidth, hfits, rfl⟩

/-- **Reading is additive over records.**  Take a header, ended by a line feed, and bytes that are
read below it and are empty or end with a line feed outside quotes.  Further bytes behind both are
read exactly if they are read behind the header alone, and then the rows are those of the two parts,
one after the other, and the header is found the same. -/
theorem read_append_of_endsLine (label : String) {head more : Bytes} {known : Contents}
    (hhead : Csv.IsRecord head) (hmore : more = [] ∨ Csv.EndsLine head more)
    (hread : read label { bytes := head ++ more } = .ok known) (rest : Bytes) :
    ((∃ whole, read label { bytes := head ++ more ++ rest } = .ok whole) ↔
        ∃ later, read label { bytes := head ++ rest } = .ok later) ∧
      ∀ whole later, read label { bytes := head ++ more ++ rest } = .ok whole →
        read label { bytes := head ++ rest } = .ok later →
          whole.rows = known.rows ++ later.rows ∧
            (whole.sourceColumns = later.sourceColumns ∧
              whole.headerMismatches = later.headerMismatches) ∧
              known.sourceColumns = later.sourceColumns ∧
                known.headerMismatches = later.headerMismatches := by
  obtain ⟨hline, record, hrecord⟩ := hhead
  have hboth : Csv.EndsLine [] (head ++ more) := by
    rcases hmore with rfl | hends
    · rwa [List.append_nil]
    · exact hends.append
  have hone : Csv.cellsOf head = [record.cells] := by
    rw [Csv.cellsOf, hrecord]
    rfl
  -- all three files have the same header, and the cells below add up
  have hknown := Csv.cells_append hline more
  have hlater := Csv.cells_append hline rest
  have hwhole := Csv.cells_append hboth rest
  rw [hknown] at hwhole
  rw [hone, List.singleton_append] at hknown hlater hwhole
  obtain ⟨header, below, rows, hcells, hwidth, hrows, rfl⟩ := read_eq_ok_iff_cells.mp hread
  obtain ⟨hheader, hbelow⟩ := List.cons.inj (hknown.symm.trans hcells)
  rw [hheader, hbelow, List.cons_append] at hwhole
  rw [hheader] at hlater
  constructor
  · constructor
    · rintro ⟨whole, hread⟩
      obtain ⟨all, hall, -⟩ := (read_eq_ok_iff_below hwhole hwidth).mp hread
      obtain ⟨-, behind, -, -, hbehind⟩ := fits_append_iff.mp hall
      exact ⟨_, (read_eq_ok_iff_below hlater hwidth).mpr ⟨behind, hbehind, rfl⟩⟩
    · rintro ⟨later, hread⟩
      obtain ⟨behind, hbehind, -⟩ := (read_eq_ok_iff_below hlater hwidth).mp hread
      have hall := fits_append_iff.mpr ⟨rows, behind, rfl, hrows, hbehind⟩
      exact ⟨_, (read_eq_ok_iff_below hwhole hwidth).mpr ⟨rows ++ behind, hall, rfl⟩⟩
  · intro whole later hreadWhole hreadLater
    obtain ⟨all, hall, rfl⟩ := (read_eq_ok_iff_below hwhole hwidth).mp hreadWhole
    obtain ⟨behind, hbehind, rfl⟩ := (read_eq_ok_iff_below hlater hwidth).mp hreadLater
    obtain ⟨first, second, rfl, hfirst, hsecond⟩ := fits_append_iff.mp hall
    obtain rfl := hfirst.unique hrows
    obtain rfl := hsecond.unique hbehind
    exact ⟨List.map_append, ⟨rfl, rfl⟩, rfl, rfl⟩

end Contents

namespace Sample

/-- A header of sixteen columns without names. -/
def plainHeader : Bytes :=
  List.replicate 15 Csv.Scanner.comma ++ [Csv.lineFeed]

/-- A quoted cell that holds a line feed and goes on behind its closing quote; the record ends with a
carriage return and a line feed. -/
def raggedRow : Bytes :=
  [Csv.Scanner.quote, Csv.lineFeed, Csv.Scanner.quote, 0x78, 0x0D] ++ [Csv.lineFeed]

/-- A quoted cell that nothing closes. -/
def openRow : Bytes := [Csv.Scanner.quote, 0x79]

end Sample

/-- The row that is not closed gives the same behind the ragged one as right behind the header. -/
theorem read_append_of_endsLine_sample :
    let known : Contents :=
      ⟨16, Contents.mismatches (List.replicate 16 ""), [Observation.ofRecord ["\nx"]]⟩
    let read := fun bytes => Contents.read "a.csv" { bytes := bytes }
    Csv.IsRecord Sample.plainHeader ∧ Csv.EndsLine Sample.plainHeader Sample.raggedRow ∧
      read (Sample.plainHeader ++ Sample.raggedRow) = .ok known ∧
        ∃ whole, read (Sample.plainHeader ++ Sample.raggedRow ++ Sample.openRow) = .ok whole ∧
          whole.rows = known.rows ++ [Observation.ofRecord ["y"]] := by
  intro known read
  have hhead : Csv.IsRecord Sample.plainHeader :=
    ⟨⟨List.replicate 15 Csv.Scanner.comma, rfl, by decide⟩, ⟨_, rfl⟩⟩
  have hmore : Csv.EndsLine Sample.plainHeader Sample.raggedRow := ⟨_, rfl, by decide⟩
  have hknown : read (Sample.plainHeader ++ Sample.raggedRow) = .ok known := by
    decide +kernel
  have hlater : read (Sample.plainHeader ++ Sample.openRow) =
      .ok { known with rows := [Observation.ofRecord ["y"]] } := by
    decide +kernel
  obtain ⟨haccepts, hrows⟩ :=
    Contents.read_append_of_endsLine "a.csv" hhead (Or.inr hmore) hknown Sample.openRow
  obtain ⟨whole, hwhole⟩ := haccepts.mpr ⟨_, hlater⟩
  exact ⟨hhead, hmore, hknown, whole, hwhole, (hrows whole _ hwhole hlater).1⟩

end HourlyIngest
