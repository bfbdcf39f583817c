import HourlyIngest.Failure
import HourlyIngest.Observation
import HourlyIngest.Text.Blank
import HourlyIngest.Text.Case

/-!
# The contents of a source file

A source file begins with a header of at least sixteen columns; every further record gives one
observation.  Records may be shorter than the header but not longer.  The checks run in the order
of the file, and the first one that fails decides the answer.
-/

namespace HourlyIngest

open Text

/-- What reading a file yields: bytes, and a fault in the place of the end where there is one. -/
structure Input where
  bytes : Bytes
  fault : Option IoFault := none

/-- A column whose name in the header is not the destination's. -/
structure HeaderMismatch where
  position : Nat
  expected : String
  found : String
deriving DecidableEq, Repr

/-- Everything that is read from one source file. -/
structure Contents where
  sourceColumns : Nat
  headerMismatches : List HeaderMismatch
  rows : List Observation
deriving DecidableEq, Repr

namespace Contents

/-- The number of columns that are not kept. -/
def discardedColumns (contents : Contents) : Nat :=
  contents.sourceColumns - columnCount

/-- Whether a name in a header is that of the column, blanks around it and letter case aside. -/
def sameColumn (found expected : String) : Bool :=
  equalAsciiCase (trim found.toList) expected.toList

/-- The mismatches among columns that are paired with their expected names, counted from
`position`. -/
def mismatchesFrom (position : Nat) : List (String × String) → List HeaderMismatch
  | [] => []
  | (found, expected) :: rest =>
      if sameColumn found expected then mismatchesFrom (position + 1) rest
      else ⟨position, expected, found⟩ :: mismatchesFrom (position + 1) rest

/-- Where the first sixteen names of a header differ from the destination's. -/
def mismatches (header : List String) : List HeaderMismatch :=
  mismatchesFrom 0 (header.zip destinationColumns)

def texts (record : Csv.Record) : Except Failure (List String) :=
  match Csv.decodeCells 0 record.cells with
  | .ok fields => .ok fields
  | .error (cell, offset) => .error (.csv (.notText record.number record.start cell offset))

/-- The text that reports a record with more fields than the header. -/
def wideRowText (expected found : Nat) : String :=
  "expected " ++ toString expected ++ " fields, found " ++ toString found

/-- The observation of one record below a header of `columns` columns. -/
def observation (label : String) (columns : Nat) (record : Csv.Record) :
    Except Failure Observation :=
  match texts record with
  | .error failure => .error failure
  | .ok fields =>
      if columns < fields.length then
        .error (.malformedRow label record.start.line (wideRowText columns fields.length))
      else .ok (Observation.ofRecord fields)

/-- The observations of the records, or the first failure among them. -/
def observations (label : String) (columns : Nat) :
    List Csv.Record → Except Failure (List Observation)
  | [] => .ok []
  | record :: rest =>
      match observation label columns record with
      | .error failure => .error failure
      | .ok row =>
          match observations label columns rest with
          | .error failure => .error failure
          | .ok rows => .ok (row :: rows)

/-- The fields of the header and the records below it. -/
def header (input : Input) : Except Failure (List String × List Csv.Record) :=
  match Csv.records input.fault.isNone input.bytes, input.fault with
  | [], some fault => .error (.csv (.unreadable fault))
  | [], none => .ok ([], [])
  | first :: rest, _ => (texts first).map fun fields => (fields, rest)

/-- Read a source file.  `label` names it in failures. -/
def read (label : String) (input : Input) : Except Failure Contents :=
  match header input with
  | .error failure => .error failure
  | .ok (fields, records) =>
      if fields.length < columnCount then
        .error (.columnCount label fields.length columnCount)
      else
        match observations label fields.length records, input.fault with
        | .error failure, _ => .error failure
        | .ok _, some fault => .error (.csv (.unreadable fault))
        | .ok rows, none => .ok ⟨fields.length, mismatches fields, rows⟩

end Contents

end HourlyIngest
