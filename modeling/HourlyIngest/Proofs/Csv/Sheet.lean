import HourlyIngest.Proofs.Csv.Run
import HourlyIngest.Proofs.Text.Utf8

/-!
# Written sheets

A sheet is a table of texts together with all the choices that writing it as comma-separated text
leaves open: which cells are quoted, how each record is ended, how many blank lines follow it,
whether the file begins with a byte order mark and whether the last record is ended at all
(`Sheet.text`).  A choice that would change the table cannot be made: a bare cell has nothing in it
that means something outside quotes, and a record is never written as a blank line.  The machine
reads from the bytes of a sheet the cells of its records (`map_cells_records_sheet`); the proof goes
from cells to records to sheets.
-/

namespace HourlyIngest.Csv

open Text

/-! ## Writing -/

/-- The characters that a bare cell cannot have. -/
def delicate : List Char := [',', '"', '\n', '\r']

/-- A cell, and whether it is written in quotes. -/
structure WrittenCell where
  text : String
  quoted : Bool
  bare : quoted = false → ∀ c ∈ text.toList, c ∉ delicate

/-- A character of a quoted cell. -/
def doubled (c : Char) : List Char :=
  if c = '"' then ['"', '"'] else [c]

def WrittenCell.chars (cell : WrittenCell) : List Char :=
  if cell.quoted then '"' :: cell.text.toList.flatMap doubled ++ ['"'] else cell.text.toList

/-- How a line ends. -/
inductive LineEnd where
  | lf
  | crlf
  | cr
deriving DecidableEq, Repr

def LineEnd.chars : LineEnd → List Char
  | lf => ['\n']
  | crlf => ['\r', '\n']
  | cr => ['\r']

/-- A record, how it is ended, and the blank lines behind it. -/
structure WrittenRecord where
  cells : List WrittenCell
  ending : LineEnd
  blanks : List LineEnd
  ne_nil : cells ≠ []
  /-- A record of one empty cell without quotes would be a blank line. -/
  not_blank : ∀ cell, cells = [cell] → cell.text = "" → cell.quoted = true

namespace WrittenRecord

def texts (record : WrittenRecord) : List String :=
  record.cells.map WrittenCell.text

def body (record : WrittenRecord) : List Char :=
  [','].intercalate (record.cells.map WrittenCell.chars)

/-- What stands between a record and the next one. -/
def gap (record : WrittenRecord) : List Char :=
  record.ending.chars ++ record.blanks.flatMap LineEnd.chars

/-- Records one after the other, the last one being ended or not. -/
def write (ended : Bool) : List WrittenRecord → List Char
  | [] => []
  | [last] => last.body ++ if ended then last.gap else []
  | record :: next :: rest => record.body ++ (record.gap ++ write ended (next :: rest))

end WrittenRecord

/-- A table with the choices of how it is written. -/
structure Sheet where
  marked : Bool
  header : WrittenRecord
  rows : List WrittenRecord
  ended : Bool

/-- The character that is written as a byte order mark. -/
def markChar : Char := '\uFEFF'

def Sheet.text (sheet : Sheet) : String :=
  String.ofList ((if sheet.marked then [markChar] else []) ++
    WrittenRecord.write sheet.ended (sheet.header :: sheet.rows))

/-! ## Characters and bytes -/

/-- The bytes of some characters. -/
def bytesOf (chars : List Char) : Bytes :=
  chars.flatMap String.utf8EncodeChar

theorem encode_eq_bytesOf (text : String) : encode text = bytesOf text.toList := rfl

@[simp] theorem bytesOf_nil : bytesOf [] = [] := rfl

theorem bytesOf_append (chars rest : List Char) :
    bytesOf (chars ++ rest) = bytesOf chars ++ bytesOf rest :=
  List.flatMap_append

theorem bytesOf_cons (c : Char) (rest : List Char) :
    bytesOf (c :: rest) = String.utf8EncodeChar c ++ bytesOf rest :=
  List.flatMap_cons

/-- The bytes of a text without delicate characters mean nothing but themselves. -/
theorem ordinary_of_mem_encode {text : String} (htext : ∀ c ∈ text.toList, c ∉ delicate)
    {byte : UInt8} (hbyte : byte ∈ encode text) : Scanner.Ordinary byte := by
  -- each byte that means something is that of a delicate character
  have hother : ∀ special : UInt8, special.toNat < 0x80 →
      Char.ofNat special.toNat ∈ delicate → byte ≠ special := by
    rintro special hascii hdelicate rfl
    exact htext _ ((mem_encode_iff hascii).mp hbyte) hdelicate
  have hlf : byte ≠ 0x0A := hother 0x0A (by decide) (by decide)
  have hcr : byte ≠ 0x0D := hother 0x0D (by decide) (by decide)
  refine ⟨hother _ (by decide) (by decide), hother _ (by decide) (by decide), ?_⟩
  simp [Scanner.isBreak, hlf, hcr]

/-- Doubling quotes is the same before and after writing. -/
theorem bytesOf_flatMap_doubled (chars : List Char) :
    bytesOf (chars.flatMap doubled) = (bytesOf chars).flatMap Scanner.double := by
  induction chars with
  | nil => rfl
  | cons c chars ih =>
      rw [List.flatMap_cons, bytesOf_append, ih, bytesOf_cons, List.flatMap_append]
      congr 1
      by_cases hc : c = '"'
      · subst hc
        decide
      · have hquote : Scanner.quote ∉ String.utf8EncodeChar c := by
          intro hmem
          refine hc (Char.ext (UInt32.toNat_inj.mp ?_))
          exact (mem_encodeChar_iff (by decide)).mp hmem
        rw [doubled, if_neg hc, Scanner.flatMap_double_of_notMem hquote]
        exact List.append_nil _

/-! ## Cells -/

variable {scanner : Scanner}

/-- From where a cell may begin, the machine reads a written cell up to where it may be closed.
Only before an empty bare cell is it still between records. -/
theorem exists_run_cell (cell : WrittenCell) (hcell : scanner.AtCell) (hempty : scanner.cell = []) :
    ∃ next, scanner.run (bytesOf cell.chars) = ([], next) ∧
      next.cell = (encode cell.text).reverse ∧ next.cells = scanner.cells ∧
        next.mode ≠ .inQuotes ∧ (next.mode = .outside →
          scanner.mode = .outside ∧ cell.text = "" ∧ cell.quoted = false) := by
  cases hquoted : cell.quoted with
  | true =>
      have hbytes : bytesOf cell.chars =
          (Scanner.quote :: (encode cell.text).flatMap Scanner.double) ++ [Scanner.quote] := by
        rw [WrittenCell.chars, if_pos hquoted, bytesOf_append, bytesOf_cons,
          bytesOf_flatMap_doubled]
        rfl
      rw [hbytes, Scanner.run_append_of_run (Scanner.run_quoted hcell (encode cell.text)),
        Scanner.run_cons_of_step (Scanner.step_inQuotes_quote rfl), Scanner.run_nil]
      exact ⟨_, rfl, by simp [hempty], rfl, by simp, by simp⟩
  | false =>
      have hbytes : bytesOf cell.chars = encode cell.text := by
        rw [WrittenCell.chars, hquoted]
        rfl
      have hordinary : ∀ byte ∈ encode cell.text, Scanner.Ordinary byte :=
        fun byte hbyte => ordinary_of_mem_encode (cell.bare hquoted) hbyte
      rw [hbytes]
      by_cases htext : cell.text = ""
      · -- nothing is written, so the machine has not moved
        have hnil : encode cell.text = [] := encode_eq_nil_iff.mpr htext
        rw [hnil]
        refine ⟨scanner, rfl, by simp [hempty], rfl, ?_, fun hmode => ⟨hmode, htext, rfl⟩⟩
        rcases hcell with hmode | hmode <;> simp [hmode]
      · rw [Scanner.run_unquoted hcell (mt encode_eq_nil_iff.mp htext) hordinary]
        exact ⟨_, rfl, by simp [hempty], rfl, by simp, by simp⟩

/-- The machine reads cells that are divided by commas. -/
theorem exists_run_cells {cells : List WrittenCell} (hne : cells ≠ []) (hcell : scanner.AtCell)
    (hempty : scanner.cell = []) :
    ∃ next,
      scanner.run (bytesOf ([','].intercalate (cells.map WrittenCell.chars))) = ([], next) ∧
        next.record.cells = scanner.cells.reverse ++ cells.map (fun cell => encode cell.text) ∧
          next.mode ≠ .inQuotes ∧
            (next.mode = .outside → scanner.mode = .outside ∧
              ∃ cell, cells = [cell] ∧ cell.text = "" ∧ cell.quoted = false) := by
  induction cells generalizing scanner with
  | nil => exact absurd rfl hne
  | cons cell rest ih =>
      obtain ⟨next, hrun, hread, hcells, hquotes, houtside⟩ := exists_run_cell cell hcell hempty
      cases rest with
      | nil =>
          have hbody : [','].intercalate ([cell].map WrittenCell.chars) = cell.chars := by simp
          rw [hbody]
          refine ⟨next, hrun, ?_, hquotes, fun hmode => ?_⟩
          · simp [Scanner.record, hread, hcells]
          · obtain ⟨hbefore, htext, hbare⟩ := houtside hmode
            exact ⟨hbefore, cell, rfl, htext, hbare⟩
      | cons second rest =>
          have hbody :
              bytesOf ([','].intercalate ((cell :: second :: rest).map WrittenCell.chars)) =
                bytesOf cell.chars ++ (Scanner.comma ::
                  bytesOf ([','].intercalate ((second :: rest).map WrittenCell.chars))) := by
            rw [List.map_cons, List.map_cons, List.intercalate_cons_cons, List.append_assoc,
              bytesOf_append, bytesOf_append]
            rfl
          -- behind the comma, the cell has joined the cells of the record
          have hnext : Scanner.AtCell
              { next.closeCell with here := next.here.after Scanner.comma } := Or.inr rfl
          obtain ⟨last, hlast, hrecord, hquotes', houtside'⟩ :=
            ih (List.cons_ne_nil _ _) hnext rfl
          rw [hbody, Scanner.run_append_of_run hrun,
            Scanner.run_cons_of_step (Scanner.step_comma hquotes)]
          refine ⟨last, hlast, ?_, hquotes', fun hmode => ?_⟩
          · rw [hrecord]
            simp [Scanner.closeCell, hread, hcells]
          · cases (houtside' hmode).1

/-! ## Records -/

/-- The machine reads a written record up to where it may be ended. -/
theorem exists_run_body (record : WrittenRecord) (hidle : scanner.Idle) :
    ∃ next, scanner.run (bytesOf record.body) = ([], next) ∧
      next.record.cells = record.texts.map encode ∧ next.mode ≠ .inQuotes ∧
        next.mode ≠ .outside := by
  obtain ⟨next, hrun, hcells, hquotes, houtside⟩ :=
    exists_run_cells record.ne_nil hidle.atCell hidle.cell
  refine ⟨next, hrun, ?_, hquotes, fun hmode => ?_⟩
  · rw [hcells, hidle.cells, WrittenRecord.texts, List.map_map]
    rfl
  · obtain ⟨-, cell, hsingle, htext, hbare⟩ := houtside hmode
    rw [record.not_blank cell hsingle htext] at hbare
    cases hbare

theorem exists_run_breaks (hidle : scanner.Idle) {bytes : Bytes}
    (hbytes : ∀ byte ∈ bytes, Scanner.isBreak byte = true) :
    ∃ next, scanner.run bytes = ([], next) ∧ next.Idle := by
  induction bytes generalizing scanner with
  | nil => exact ⟨scanner, rfl, hidle⟩
  | cons byte bytes ih =>
      rw [List.forall_mem_cons] at hbytes
      rw [Scanner.run_cons_of_step (Scanner.step_blank hidle.mode hbytes.1)]
      exact ih ⟨hidle.mode, hidle.cell, hidle.cells⟩ hbytes.2

theorem isBreak_of_mem_lineEnd {ending : LineEnd} {byte : UInt8}
    (hbyte : byte ∈ bytesOf ending.chars) : Scanner.isBreak byte = true := by
  have hall : ∀ byte ∈ bytesOf ending.chars, Scanner.isBreak byte = true := by
    cases ending <;> decide +kernel
  exact hall byte hbyte

/-- A gap is a break and more breaks. -/
theorem exists_bytesOf_gap (record : WrittenRecord) :
    ∃ first rest, bytesOf record.gap = first :: rest ∧ Scanner.isBreak first = true ∧
      ∀ byte ∈ rest, Scanner.isBreak byte = true := by
  have hblanks : ∀ byte ∈ bytesOf (record.blanks.flatMap LineEnd.chars),
      Scanner.isBreak byte = true := by
    intro byte hbyte
    rw [bytesOf, List.flatMap_assoc] at hbyte
    obtain ⟨ending, -, hending⟩ := List.mem_flatMap.mp hbyte
    exact isBreak_of_mem_lineEnd hending
  have hgap : bytesOf record.gap =
      bytesOf record.ending.chars ++ bytesOf (record.blanks.flatMap LineEnd.chars) :=
    bytesOf_append _ _
  have hall : ∀ byte ∈ bytesOf record.gap, Scanner.isBreak byte = true := by
    rw [hgap, List.forall_mem_append]
    exact ⟨fun byte hbyte => isBreak_of_mem_lineEnd hbyte, hblanks⟩
  cases hbytes : bytesOf record.gap with
  | nil =>
      -- every ending has at least one byte
      rw [hgap, List.append_eq_nil_iff] at hbytes
      cases hending : record.ending <;> simp [hending, LineEnd.chars, bytesOf] at hbytes
  | cons first rest =>
      rw [hbytes, List.forall_mem_cons] at hall
      exact ⟨first, rest, rfl, hall.1, hall.2⟩

/-- A gap ends the open record. -/
theorem exists_run_gap (record : WrittenRecord) (hquotes : scanner.mode ≠ .inQuotes)
    (houtside : scanner.mode ≠ .outside) :
    ∃ next, scanner.run (bytesOf record.gap) = ([scanner.record], next) ∧ next.Idle := by
  obtain ⟨first, rest, hbytes, hfirst, hrest⟩ := exists_bytesOf_gap record
  obtain ⟨next, hrun, hidle⟩ := exists_run_breaks
    (Scanner.idle_closeRecord { scanner with here := scanner.here.after first }) hrest
  refine ⟨next, ?_, hidle⟩
  rw [hbytes, Scanner.run_cons, Scanner.step_break houtside hquotes hfirst, hrun]
  rfl

/-- The machine reads the cells of records that are written one after the other. -/
theorem map_cells_records_write (ended : Bool) (written : List WrittenRecord)
    (hidle : scanner.Idle) :
    (scanner.records true (bytesOf (WrittenRecord.write ended written))).map Record.cells =
      written.map fun record => record.texts.map encode := by
  induction written generalizing scanner with
  | nil =>
      rw [WrittenRecord.write, bytesOf_nil, Scanner.records, if_pos rfl, Scanner.atEnd, hidle.mode]
      rfl
  | cons record rest ih =>
      obtain ⟨next, hrun, hcells, hquotes, houtside⟩ := exists_run_body record hidle
      obtain ⟨after, hgap, hafter⟩ := exists_run_gap record hquotes houtside
      have hnone : ∀ rest : Bytes, (scanner.records true (bytesOf record.body ++ rest)) =
          next.records true rest := by
        intro rest
        rw [Scanner.records_append, hrun]
        rfl
      have hend : after.records true [] = [] := by
        rw [Scanner.records, if_pos rfl, Scanner.atEnd, hafter.mode]
        rfl
      cases rest with
      | nil =>
          rw [WrittenRecord.write, bytesOf_append, hnone]
          cases ended with
          | false =>
              -- the end of the text completes the record
              have hopen : next.atEnd = some next.record := by
                unfold Scanner.atEnd
                split
                · next hmode => exact absurd hmode houtside
                · rfl
              simp [Scanner.records, hopen, hcells]
          | true =>
              rw [if_pos rfl, ← List.append_nil (bytesOf record.gap), Scanner.records_append, hgap,
                hend]
              simp [hcells]
      | cons second rest =>
          rw [WrittenRecord.write, bytesOf_append, hnone, bytesOf_append, Scanner.records_append,
            hgap, List.map_append, ih hafter]
          simp [hcells]

/-! ## Sheets -/

/-- Bytes that begin with a byte order mark are those of a text that begins with one. -/
theorem head?_eq_of_mark_prefix {chars : List Char} (hmark : mark <+: bytesOf chars) :
    chars.head? = some markChar := by
  cases chars with
  | nil => exact absurd (List.prefix_nil.mp hmark) (by decide)
  | cons c rest =>
      obtain ⟨first, tail, hbytes, hhead⟩ := head_encodeChar c (bytesOf rest)
      obtain ⟨more, hmore⟩ := hmark
      rw [bytesOf_cons, hbytes] at hmore
      obtain ⟨hfirst, htail⟩ : 0xEF = first ∧ 0xBB :: 0xBF :: more = tail ++ bytesOf rest :=
        List.cons.inj hmore
      -- both readings of the beginning give its first character
      rw [← hfirst, ← htail] at hhead
      have hread : head 0xEF (0xBB :: 0xBF :: more) = .scalar markChar 3 := rfl
      obtain ⟨hc, -⟩ := Head.scalar.inj (hhead.symm.trans hread)
      rw [hc]
      rfl

theorem exists_write_cons (ended : Bool) (record : WrittenRecord) (rest : List WrittenRecord) :
    ∃ tail, WrittenRecord.write ended (record :: rest) = record.body ++ tail := by
  cases rest with
  | nil => exact ⟨_, rfl⟩
  | cons second rest => exact ⟨_, rfl⟩

/-- A record is written with a mark at its beginning only if its first cell begins with one. -/
theorem exists_of_head?_body {record : WrittenRecord} {tail : List Char}
    (hmark : (record.body ++ tail).head? = some markChar) :
    ∃ cell, record.cells.head? = some cell ∧ cell.text.toList.head? = some markChar := by
  obtain ⟨cell, rest, hcells⟩ := List.exists_cons_of_ne_nil record.ne_nil
  refine ⟨cell, by rw [hcells]; rfl, ?_⟩
  have hbody : ∃ more, record.body = cell.chars ++ more ∧ (rest ≠ [] → more.head? = some ',') := by
    rw [WrittenRecord.body, hcells]
    cases rest with
    | nil => exact ⟨[], by simp, fun hne => absurd rfl hne⟩
    | cons second rest =>
        refine ⟨',' :: [','].intercalate ((second :: rest).map WrittenCell.chars), ?_, fun _ => rfl⟩
        rw [List.map_cons, List.map_cons, List.intercalate_cons_cons, List.append_assoc]
        rfl
  obtain ⟨more, hmore, hcomma⟩ := hbody
  rw [hmore, List.append_assoc] at hmark
  cases hquoted : cell.quoted with
  | true =>
      rw [WrittenCell.chars, if_pos hquoted] at hmark
      cases hmark
  | false =>
      have hchars : cell.chars = cell.text.toList := by
        rw [WrittenCell.chars, hquoted]
        rfl
      rw [hchars] at hmark
      cases htext : cell.text.toList with
      | cons c chars =>
          rw [htext] at hmark
          exact hmark
      | nil =>
          -- an empty bare cell is not alone in its record, so a comma follows
          have hrest : rest ≠ [] := by
            rintro rfl
            have hempty : cell.text = "" := String.toList_eq_nil_iff.mp htext
            rw [record.not_blank cell hcells hempty] at hquoted
            cases hquoted
          rw [htext, List.nil_append, List.head?_append, hcomma hrest] at hmark
          cases hmark

/-- Where a sheet's header does not begin with a mark of its own, the records of the file are those
that were written. -/
theorem map_cells_records_sheet (sheet : Sheet)
    (hmark : ∀ cell, sheet.header.cells.head? = some cell →
      cell.text.toList.head? ≠ some markChar) :
    (records true (encode sheet.text)).map Record.cells =
      (sheet.header :: sheet.rows).map fun record => record.texts.map encode := by
  have hopening : (opening (encode sheet.text)).2 =
      bytesOf (WrittenRecord.write sheet.ended (sheet.header :: sheet.rows)) := by
    rw [encode_eq_bytesOf, Sheet.text, String.toList_ofList, bytesOf_append]
    cases sheet.marked with
    | true => rfl
    | false =>
        have hunmarked : mark.isPrefixOf
            (bytesOf (WrittenRecord.write sheet.ended (sheet.header :: sheet.rows))) = false := by
          rw [← Bool.not_eq_true, List.isPrefixOf_iff_prefix]
          intro hprefix
          obtain ⟨tail, htail⟩ := exists_write_cons sheet.ended sheet.header sheet.rows
          have hhead := head?_eq_of_mark_prefix hprefix
          rw [htail] at hhead
          obtain ⟨cell, hcell, hfirst⟩ := exists_of_head?_body hhead
          exact hmark cell hcell hfirst
        simp [opening, hunmarked]
  rw [records_eq_opening, hopening]
  exact map_cells_records_write _ _ (idle_opening _)

end HourlyIngest.Csv
