import HourlyIngest.Database.Session
import HourlyIngest.Sink
import HourlyIngest.Sql.Insert

/-!
# Writing rows to the database

A writer is a sink on a session.  The rows of one file go into the table in one transaction, in
statements of limited size; it is committed if the counts that the server reports for the
statements add up to the number of rows, and rolled back otherwise.  Whatever a call comes to, no
transaction is left open behind it.
-/

namespace HourlyIngest.Database

/-! ## Pieces of a list -/

/-- Consecutive pieces of a list, all of one size but the last, which may be shorter.  No piece is
empty, so a size of 0 is as good as 1. -/
def pieces {α : Type} (size : Nat) : List α → List (List α)
  | [] => []
  | first :: rest => (first :: rest.take (size - 1)) :: pieces size (rest.drop (size - 1))
termination_by items => items.length
decreasing_by
  simp only [List.length_drop, List.length_cons]
  omega

/-! ## Writers -/

/-- The destination of rows: a table, and the number of rows that one statement inserts. -/
structure Writer where
  table : String
  batch : Nat
  batch_pos : 0 < batch
  batch_le : batch ≤ Sql.maxBatch

namespace Writer

/-- A writer with a wish for the size of statements; one out of range is moved to the nearer end. -/
def ofSize (table : String) (size : Nat) : Writer :=
  ⟨table, max 1 (min size Sql.maxBatch), by omega,
    Nat.max_le.mpr ⟨by decide, Nat.min_le_right _ _⟩⟩

end Writer

section Insert

variable {σ : Type} (server : Server σ) (writer : Writer)

namespace Session

/-- Undo what has been done since the transaction was started, if the server can still be told. -/
def rollback (session : Session σ) : Session σ :=
  (session.send server .rollback).2

/-- Insert some rows with one statement.  The answer is the count that the server reports. -/
def insertPiece (session : Session σ) (rows : List Observation) :
    Except DatabaseFault UInt64 × Session σ :=
  let statement := Sql.insertStatement writer.table rows.length
  match session.send server (.prepare statement) with
  | (.error fault, session) => (.error fault, session)
  | (.ok _, session) =>
      let (answer, session) :=
        session.send server (.execute statement (Sql.parameters rows))
      (answer.map Reply.affected, session)

/-- Insert pieces in order, and add the counts up beginning with `total`. -/
def insertPieces (total : UInt64) (session : Session σ) :
    List (List Observation) → Except DatabaseFault UInt64 × Session σ
  | [] => (.ok total, session)
  | piece :: rest =>
      match session.insertPiece server writer piece with
      | (.error fault, session) => (.error fault, session)
      | (.ok count, session) => insertPieces (total + count) session rest

/-- Commit the open transaction.  If that fails, nothing is left to be undone. -/
def commit (count : Nat) (session : Session σ) : Except Failure Nat × Session σ :=
  match session.send server .commit with
  | (.error fault, session) => (.error (.database fault), session)
  | (.ok _, session) => (.ok count, session)

/-- Insert rows within a transaction that has been started, and end it. -/
def insertAndEnd (session : Session σ) (file : String) (rows : List Observation) :
    Except Failure Nat × Session σ :=
  match session.insertPieces server writer 0 (pieces writer.batch rows) with
  | (.error fault, session) => (.error (.database fault), session.rollback server)
  | (.ok total, session) =>
      match verifyCount file rows.length total.toNat with
      | .error failure => (.error failure, session.rollback server)
      | .ok count => session.commit server count

/-- Insert the rows of a file.  Where there are none, nothing is sent. -/
def insertRows (session : Session σ) (file : String) (rows : List Observation) :
    Except Failure Nat × Session σ :=
  if rows.isEmpty then (.ok 0, session)
  else
    match session.send server .startTransaction with
    | (.error fault, session) => (.error (.database fault), session.rollback server)
    | (.ok _, session) => session.insertAndEnd server writer file rows

end Session

/-- The writer as a destination for the rows of files. -/
def Writer.sink : Sink (Session σ) :=
  ⟨fun world file rows =>
    let (answer, session) := world.sink.insertRows server writer file rows
    (answer, { world with sink := session })⟩

end Insert

end HourlyIngest.Database
