import HourlyIngest.Text.Utf8

/-!
# Records in comma-separated text

A byte sequence is cut into records of cells by a machine that takes one byte at a time.  Cells are
divided by commas; a record ends with a line feed or a carriage return, and blank lines are passed
over, which also covers the line feed after a carriage return.  A cell that begins with a quote
goes on to the next quote that is not doubled, whatever it holds in between; elsewhere a quote is
an ordinary byte.  A byte order mark at the very beginning is dropped.

Each record knows the place at which the reading of it began: right after the byte that ended the
record before it.
-/

namespace HourlyIngest.Csv

open Text

/-- A place in a file: the line, counted from 1 by line feeds, and the byte, counted from 0. -/
structure Place where
  line : Nat := 1
  byte : Nat := 0
deriving DecidableEq, Repr

def Place.after (place : Place) (byte : UInt8) : Place :=
  ⟨if byte = 0x0A then place.line + 1 else place.line, place.byte + 1⟩

/-- One record: its cells, where the reading of it began, and its number, counted from 0. -/
structure Record where
  cells : List Bytes
  start : Place
  number : Nat
deriving DecidableEq, Repr

/-- Where the machine stands. -/
inductive Mode where
  /-- Before the first byte of a record. -/
  | outside
  /-- Before the first byte of a cell. -/
  | atCell
  /-- In a cell without quotes, or behind its closing quote. -/
  | bare
  /-- In a quoted cell. -/
  | inQuotes
  /-- Behind a quote in a quoted cell. -/
  | afterQuote
deriving DecidableEq, Repr

/-- The state of the machine.  The bytes of the open cell and the finished cells of the open record
are kept with the last one first. -/
structure Scanner where
  mode : Mode := .outside
  cell : Bytes := []
  cells : List Bytes := []
  here : Place := {}
  start : Place := {}
  number : Nat := 0
deriving DecidableEq, Repr

namespace Scanner

def comma : UInt8 := 0x2C

def quote : UInt8 := 0x22

/-- Whether a byte ends a record. -/
def isBreak (byte : UInt8) : Bool :=
  byte == 0x0A || byte == 0x0D

/-- The record that the machine holds when its open cell is complete. -/
def record (scanner : Scanner) : Record :=
  ⟨(scanner.cell.reverse :: scanner.cells).reverse, scanner.start, scanner.number⟩

def push (scanner : Scanner) (byte : UInt8) (mode : Mode) : Scanner :=
  { scanner with mode := mode, cell := byte :: scanner.cell }

/-- Close the open cell and wait for the next one. -/
def closeCell (scanner : Scanner) : Scanner :=
  { scanner with mode := .atCell, cell := [], cells := scanner.cell.reverse :: scanner.cells }

/-- Begin anew behind a finished record. -/
def closeRecord (scanner : Scanner) : Scanner :=
  { here := scanner.here, start := scanner.here, number := scanner.number + 1 }

/-- What a byte does where it may end the cell and the record. -/
def stepBare (scanner : Scanner) (byte : UInt8) : Option Record × Scanner :=
  if byte = comma then (none, scanner.closeCell)
  else if isBreak byte then (some scanner.record, scanner.closeRecord)
  else (none, scanner.push byte .bare)

/-- What a byte does at the beginning of a cell. -/
def stepCell (scanner : Scanner) (byte : UInt8) : Option Record × Scanner :=
  if byte = quote then (none, { scanner with mode := .inQuotes })
  else scanner.stepBare byte

/-- Take one byte: the record that it ends, if it does, and the next state. -/
def step (scanner : Scanner) (byte : UInt8) : Option Record × Scanner :=
  let moved := { scanner with here := scanner.here.after byte }
  match scanner.mode with
  | .outside => if isBreak byte then (none, moved) else moved.stepCell byte
  | .atCell => moved.stepCell byte
  | .bare => moved.stepBare byte
  | .inQuotes =>
      if byte = quote then (none, { moved with mode := .afterQuote })
      else (none, moved.push byte .inQuotes)
  | .afterQuote =>
      if byte = quote then (none, moved.push byte .inQuotes) else moved.stepBare byte

/-- The record that the end of the text completes.  A quoted cell need not be closed. -/
def atEnd (scanner : Scanner) : Option Record :=
  match scanner.mode with
  | .outside => none
  | _ => some scanner.record

/-- The records of the bytes that follow.  The last one may lack its ending only where the end of
the text is seen. -/
def records (endSeen : Bool) (scanner : Scanner) : Bytes → List Record
  | [] => if endSeen then scanner.atEnd.toList else []
  | byte :: rest =>
      match scanner.step byte with
      | (some record, next) => record :: records endSeen next rest
      | (none, next) => records endSeen next rest

end Scanner

/-- The records of a file.  `endSeen` is false where reading breaks off before the end. -/
def records (endSeen : Bool) : Bytes → List Record
  | 0xEF :: 0xBB :: 0xBF :: rest => Scanner.records endSeen { here := ⟨1, 3⟩ } rest
  | bytes => Scanner.records endSeen {} bytes

/-- The cells of a record as texts, or the number of the first cell that is no text and the offset
in it at which that shows. -/
def decodeCells (number : Nat) : List Bytes → Except (Nat × Nat) (List String)
  | [] => .ok []
  | cell :: rest =>
      match decode cell with
      | .error offset => .error (number, offset)
      | .ok text => (decodeCells (number + 1) rest).map (text :: ·)

end HourlyIngest.Csv
