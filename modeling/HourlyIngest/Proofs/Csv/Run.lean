import HourlyIngest.Csv.Record

/-!
# Runs of the record machine

A run takes bytes one after the other and gives the records that they end and the state behind them
(`Scanner.run`).  Runs compose (`run_append`), and the records of a file are those of a run with,
at the end, the record that is still open (`records_eq_runFile`).  What a stretch of bytes does is
said once for each kind of stretch: bytes of a bare cell, a quoted cell from its quote to the last
byte before the closing one, a comma, a break.
-/

namespace HourlyIngest.Csv

open Text

/-- The place behind some bytes. -/
def Place.along (place : Place) (bytes : Bytes) : Place :=
  bytes.foldl Place.after place

namespace Scanner

/-! ## Runs -/

/-- The records that some bytes end, and the state behind the bytes. -/
def run (scanner : Scanner) : Bytes → List Record × Scanner
  | [] => ([], scanner)
  | byte :: rest =>
      let stepped := scanner.step byte
      let ran := stepped.2.run rest
      (stepped.1.toList ++ ran.1, ran.2)

@[simp] theorem run_nil (scanner : Scanner) : scanner.run [] = ([], scanner) := rfl

theorem run_cons (scanner : Scanner) (byte : UInt8) (rest : Bytes) :
    scanner.run (byte :: rest) =
      ((scanner.step byte).1.toList ++ ((scanner.step byte).2.run rest).1,
        ((scanner.step byte).2.run rest).2) := rfl

theorem run_append (scanner : Scanner) (bytes rest : Bytes) :
    scanner.run (bytes ++ rest) =
      ((scanner.run bytes).1 ++ ((scanner.run bytes).2.run rest).1,
        ((scanner.run bytes).2.run rest).2) := by
  induction bytes generalizing scanner with
  | nil => rfl
  | cons byte bytes ih => rw [List.cons_append, run_cons, run_cons, ih, List.append_assoc]

/-- A byte that ends no record only moves the machine. -/
theorem run_cons_of_step {scanner next : Scanner} {byte : UInt8}
    (hstep : scanner.step byte = (none, next)) (rest : Bytes) :
    scanner.run (byte :: rest) = next.run rest := by
  rw [run_cons, hstep]
  rfl

theorem run_append_of_run {scanner next : Scanner} {bytes : Bytes}
    (hrun : scanner.run bytes = ([], next)) (rest : Bytes) :
    scanner.run (bytes ++ rest) = next.run rest := by
  rw [run_append, hrun]
  rfl

/-- The records of bytes are those that a run ends and, where the end is seen, the open one. -/
theorem records_eq_run (endSeen : Bool) (scanner : Scanner) (bytes : Bytes) :
    scanner.records endSeen bytes =
      (scanner.run bytes).1 ++
        if endSeen then (scanner.run bytes).2.atEnd.toList else [] := by
  induction bytes generalizing scanner with
  | nil => rfl
  | cons byte bytes ih =>
      rw [records, run_cons]
      cases hstep : scanner.step byte with
      | mk record next =>
          cases record with
          | none => exact ih next
          | some record => exact congrArg (record :: ·) (ih next)

theorem records_append (endSeen : Bool) (scanner : Scanner) (bytes rest : Bytes) :
    scanner.records endSeen (bytes ++ rest) =
      (scanner.run bytes).1 ++ (scanner.run bytes).2.records endSeen rest := by
  rw [records_eq_run, run_append, records_eq_run, List.append_assoc]

/-! ## Where a cell may begin -/

/-- The next byte is the first one of a cell, or ends an empty one. -/
def AtCell (scanner : Scanner) : Prop :=
  scanner.mode = .outside ∨ scanner.mode = .atCell

/-- Nothing of a record has been read. -/
structure Idle (scanner : Scanner) : Prop where
  mode : scanner.mode = .outside
  cell : scanner.cell = []
  cells : scanner.cells = []

theorem idle_closeRecord (scanner : Scanner) : scanner.closeRecord.Idle :=
  ⟨rfl, rfl, rfl⟩

theorem Idle.atCell {scanner : Scanner} (hidle : scanner.Idle) : scanner.AtCell :=
  Or.inl hidle.mode

/-! ## What a byte does -/

/-- A byte that means nothing but itself wherever it stands. -/
structure Ordinary (byte : UInt8) : Prop where
  ne_comma : byte ≠ comma
  ne_quote : byte ≠ quote
  not_break : isBreak byte = false

variable {scanner : Scanner} {byte : UInt8}

theorem stepBare_of_ordinary (hbyte : Ordinary byte) :
    scanner.stepBare byte = (none, scanner.push byte .bare) := by
  rw [stepBare, if_neg hbyte.ne_comma, hbyte.not_break, if_neg Bool.false_ne_true]

/-- At the beginning of a cell an ordinary byte opens a bare one. -/
theorem step_of_ordinary (hcell : scanner.AtCell) (hbyte : Ordinary byte) :
    scanner.step byte =
      (none, { scanner with
        mode := .bare, cell := byte :: scanner.cell, here := scanner.here.after byte }) := by
  rcases hcell with hmode | hmode
  · simp only [step, hmode, hbyte.not_break, Bool.false_eq_true, if_false, stepCell,
      if_neg hbyte.ne_quote, stepBare_of_ordinary hbyte, push]
  · simp only [step, hmode, stepCell, if_neg hbyte.ne_quote, stepBare_of_ordinary hbyte, push]

theorem step_bare (hmode : scanner.mode = .bare) (hbyte : Ordinary byte) :
    scanner.step byte =
      (none, { scanner with
        cell := byte :: scanner.cell, here := scanner.here.after byte }) := by
  simp only [step, hmode, stepBare_of_ordinary hbyte, push]

/-- At the beginning of a cell a quote opens a quoted one. -/
theorem step_quote (hcell : scanner.AtCell) :
    scanner.step quote =
      (none, { scanner with mode := .inQuotes, here := scanner.here.after quote }) := by
  have hquote : isBreak quote = false := by decide
  rcases hcell with hmode | hmode
  · simp only [step, hmode, hquote, Bool.false_eq_true, if_false, stepCell, if_true]
  · simp only [step, hmode, stepCell, if_true]

theorem step_inQuotes (hmode : scanner.mode = .inQuotes) (hbyte : byte ≠ quote) :
    scanner.step byte =
      (none, { scanner with
        cell := byte :: scanner.cell, here := scanner.here.after byte }) := by
  simp only [step, hmode, if_neg hbyte, push]

/-- A quote in a quoted cell may be the closing one. -/
theorem step_inQuotes_quote (hmode : scanner.mode = .inQuotes) :
    scanner.step quote =
      (none, { scanner with mode := .afterQuote, here := scanner.here.after quote }) := by
  simp only [step, hmode, if_true]

/-- A second quote behind it belongs to the cell. -/
theorem step_afterQuote_quote (hmode : scanner.mode = .afterQuote) :
    scanner.step quote =
      (none, { scanner with
        mode := .inQuotes, cell := quote :: scanner.cell, here := scanner.here.after quote }) := by
  simp only [step, hmode, if_true, push]

/-- Outside quotes a comma ends the cell. -/
theorem step_comma (hmode : scanner.mode ≠ .inQuotes) :
    scanner.step comma =
      (none, { scanner.closeCell with here := scanner.here.after comma }) := by
  have hbreak : isBreak comma = false := by decide
  have hquote : comma ≠ quote := by decide
  cases hcase : scanner.mode with
  | inQuotes => exact absurd hcase hmode
  | _ => simp [step, hcase, hbreak, hquote, stepCell, stepBare, closeCell]

/-- Between records a break is a blank line. -/
theorem step_blank (hmode : scanner.mode = .outside) (hbreak : isBreak byte = true) :
    scanner.step byte = (none, { scanner with here := scanner.here.after byte }) := by
  simp only [step, hmode, hbreak, if_true]

/-- In a record, outside quotes, a break ends the record. -/
theorem step_break (houtside : scanner.mode ≠ .outside) (hquotes : scanner.mode ≠ .inQuotes)
    (hbreak : isBreak byte = true) :
    scanner.step byte =
      (some scanner.record, { scanner with here := scanner.here.after byte }.closeRecord) := by
  have hcomma : byte ≠ comma := by
    rintro rfl
    exact absurd hbreak (by decide)
  have hquote : byte ≠ quote := by
    rintro rfl
    exact absurd hbreak (by decide)
  cases hcase : scanner.mode with
  | outside => exact absurd hcase houtside
  | inQuotes => exact absurd hcase hquotes
  | _ => simp [step, hcase, hbreak, hcomma, hquote, stepCell, stepBare, record]

/-! ## Stretches of bytes -/

theorem run_bare (hmode : scanner.mode = .bare) {bytes : Bytes}
    (hbytes : ∀ byte ∈ bytes, Ordinary byte) :
    scanner.run bytes =
      ([], { scanner with
        cell := bytes.reverse ++ scanner.cell, here := scanner.here.along bytes }) := by
  induction bytes generalizing scanner with
  | nil => rfl
  | cons byte bytes ih =>
      rw [List.forall_mem_cons] at hbytes
      have hnext : Scanner.mode { scanner with
          cell := byte :: scanner.cell, here := scanner.here.after byte } = .bare := hmode
      rw [run_cons_of_step (step_bare hmode hbytes.1), ih hnext hbytes.2]
      simp [Place.along]

/-- Ordinary bytes are a bare cell. -/
theorem run_unquoted (hcell : scanner.AtCell) {bytes : Bytes} (hne : bytes ≠ [])
    (hbytes : ∀ byte ∈ bytes, Ordinary byte) :
    scanner.run bytes =
      ([], { scanner with
        mode := .bare, cell := bytes.reverse ++ scanner.cell,
        here := scanner.here.along bytes }) := by
  cases bytes with
  | nil => exact absurd rfl hne
  | cons byte bytes =>
      rw [List.forall_mem_cons] at hbytes
      rw [run_cons_of_step (step_of_ordinary hcell hbytes.1), run_bare rfl hbytes.2]
      simp [Place.along]

/-- A byte of a cell as it is written in quotes. -/
def double (byte : UInt8) : Bytes :=
  if byte = quote then [quote, quote] else [byte]

theorem flatMap_double_of_notMem {bytes : Bytes} (hquote : quote ∉ bytes) :
    bytes.flatMap double = bytes := by
  induction bytes with
  | nil => rfl
  | cons byte bytes ih =>
      rw [List.mem_cons, not_or] at hquote
      rw [List.flatMap_cons, double, if_neg (Ne.symm hquote.1), ih hquote.2]
      rfl

theorem run_inQuotes (hmode : scanner.mode = .inQuotes) (cell : Bytes) :
    scanner.run (cell.flatMap double) =
      ([], { scanner with
        cell := cell.reverse ++ scanner.cell,
        here := scanner.here.along (cell.flatMap double) }) := by
  induction cell generalizing scanner with
  | nil => rfl
  | cons byte cell ih =>
      rw [List.flatMap_cons]
      by_cases hbyte : byte = quote
      · subst hbyte
        have hdouble : double quote = [quote, quote] := if_pos rfl
        rw [hdouble, List.cons_append, List.cons_append, List.nil_append,
          run_cons_of_step (step_inQuotes_quote hmode),
          run_cons_of_step (step_afterQuote_quote rfl), ih rfl]
        simp [Place.along, hmode]
      · have hdouble : double byte = [byte] := if_neg hbyte
        have hnext : Scanner.mode { scanner with
            cell := byte :: scanner.cell, here := scanner.here.after byte } = .inQuotes := hmode
        rw [hdouble, List.cons_append, List.nil_append,
          run_cons_of_step (step_inQuotes hmode hbyte), ih hnext]
        simp [Place.along]

/-- A quote and doubled bytes behind it are a quoted cell that is still open. -/
theorem run_quoted (hcell : scanner.AtCell) (cell : Bytes) :
    scanner.run (quote :: cell.flatMap double) =
      ([], { scanner with
        mode := .inQuotes, cell := cell.reverse ++ scanner.cell,
        here := scanner.here.along (quote :: cell.flatMap double) }) := by
  rw [run_cons_of_step (step_quote hcell), run_inQuotes rfl]
  rfl

end Scanner

/-! ## Files -/

/-- The byte order mark. -/
def mark : Bytes := [0xEF, 0xBB, 0xBF]

/-- Where the reading of a file begins, and what is read: a byte order mark at the very beginning
is passed over. -/
def opening (bytes : Bytes) : Scanner × Bytes :=
  if mark.isPrefixOf bytes then ({ here := ⟨1, 3⟩ }, bytes.drop 3) else ({}, bytes)

/-- The run over a file. -/
def runFile (bytes : Bytes) : List Record × Scanner :=
  (opening bytes).1.run (opening bytes).2

theorem idle_opening (bytes : Bytes) : (opening bytes).1.Idle := by
  unfold opening
  split <;> exact ⟨rfl, rfl, rfl⟩

theorem records_eq_opening (endSeen : Bool) (bytes : Bytes) :
    records endSeen bytes = (opening bytes).1.records endSeen (opening bytes).2 := by
  unfold records
  split
  · rfl
  · next hother =>
    have hmark : mark.isPrefixOf bytes = false := by
      rw [← Bool.not_eq_true, List.isPrefixOf_iff_prefix]
      rintro ⟨rest, hbytes⟩
      exact hother rest hbytes.symm
    rw [opening, hmark]
    rfl

theorem records_eq_runFile (endSeen : Bool) (bytes : Bytes) :
    records endSeen bytes =
      (runFile bytes).1 ++ if endSeen then (runFile bytes).2.atEnd.toList else [] := by
  rw [records_eq_opening, Scanner.records_eq_run]
  rfl

/-- A byte order mark cannot be completed by bytes that begin with a byte it does not have. -/
theorem mark_prefix_append_cons_iff {byte : UInt8} (hbyte : byte ∉ mark) {bytes rest : Bytes} :
    mark <+: bytes ++ byte :: rest ↔ mark <+: bytes := by
  refine ⟨fun hmark => ?_, fun hmark => hmark.trans (List.prefix_append _ _)⟩
  rcases List.prefix_or_prefix_of_prefix hmark (List.prefix_append _ _) with hshort | ⟨more, hmore⟩
  · exact hshort
  · cases more with
    | nil => exact ⟨[], by rw [List.append_nil, ← hmore, List.append_nil]⟩
    | cons next more =>
        -- the byte would be one of the mark
        rw [← hmore, List.prefix_append_right_inj, List.cons_prefix_cons] at hmark
        have hmem : byte ∈ mark := by
          rw [← hmore, ← hmark.1]
          simp
        exact absurd hmem hbyte

theorem opening_append_cons {byte : UInt8} (hbyte : byte ∉ mark) (bytes rest : Bytes) :
    opening (bytes ++ byte :: rest) =
      ((opening bytes).1, (opening bytes).2 ++ byte :: rest) := by
  have hsame : mark.isPrefixOf (bytes ++ byte :: rest) = mark.isPrefixOf bytes := by
    rw [Bool.eq_iff_iff, List.isPrefixOf_iff_prefix, List.isPrefixOf_iff_prefix,
      mark_prefix_append_cons_iff hbyte]
  rw [opening, opening, hsame]
  split
  · next hmark =>
    have hlength : 3 ≤ bytes.length :=
      (List.isPrefixOf_iff_prefix.mp hmark).length_le
    rw [List.drop_append_of_le_length hlength]
  · rfl

end HourlyIngest.Csv
