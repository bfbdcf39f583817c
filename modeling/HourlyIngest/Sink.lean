import HourlyIngest.Failure
import HourlyIngest.FileSystem.Basic
import HourlyIngest.Observation

/-!
# Destinations for rows

A sink takes the rows of one file at a time, all of them or none, and answers with the number of
rows that it has kept.  It has a state of its own, and a call may change the file system as well:
what goes on there while rows are on their way is not up to the caller.
-/

namespace HourlyIngest

/-- What a run acts on: the state of the sink and the file system. -/
structure World (σ : Type) where
  sink : σ
  files : FileSystem

/-- A destination with states in `σ`.  A call is given the name of the file and its rows. -/
structure Sink (σ : Type) where
  insert : World σ → String → List Observation → Except Failure Nat × World σ

/-- The count that the destination reports, if it is the number of rows that were read. -/
def verifyCount (file : String) (expected inserted : Nat) : Except Failure Nat :=
  if inserted = expected then .ok inserted
  else .error (.rowCountMismatch file expected inserted)

/-! ## A sink with answers laid down in advance -/

/-- How a scripted sink answers one call. -/
inductive Answer where
  /-- Keep the rows and report their number. -/
  | accept
  /-- Refuse. -/
  | refuse
  /-- Find fewer rows than were given, and verify the count. -/
  | under (missing : Nat)
  /-- Find more rows than were given, and verify the count. -/
  | over (extra : Nat)
  /-- Report a count without verifying it. -/
  | report (count : Nat)
  /-- Remove a file, if that is possible, and report the number of rows. -/
  | unlink (path : Path)
deriving DecidableEq, Repr

/-- One call that a scripted sink has seen, with the rows if it answered with a count. -/
structure Call where
  file : String
  given : Nat
  kept : Option (List Observation)
deriving DecidableEq, Repr

/-- The answers still to be given, and the calls so far. -/
structure Script where
  answers : List Answer := []
  calls : List Call := []
deriving DecidableEq, Repr

namespace Script

/-- The answer to a call with a number of rows, and the file system after it. -/
def respond (answer : Answer) (files : FileSystem) (file : String) (given : Nat) :
    Except Failure Nat × FileSystem :=
  match answer with
  | .accept => (.ok given, files)
  | .refuse => (.error (.invalidSetting "simulated insert failure"), files)
  | .under missing => (verifyCount file given (given - missing), files)
  | .over extra => (verifyCount file given (given + extra), files)
  | .report count => (.ok count, files)
  | .unlink path => (.ok given, (files.remove path).toOption.getD files)

/-- Take the next answer, or accept when there is none left. -/
def insert (world : World Script) (file : String) (rows : List Observation) :
    Except Failure Nat × World Script :=
  let answer := world.sink.answers.head?.getD .accept
  let (result, files) := respond answer world.files file rows.length
  let call : Call := ⟨file, rows.length, result.toOption.map fun _ => rows⟩
  (result, ⟨⟨world.sink.answers.drop 1, world.sink.calls ++ [call]⟩, files⟩)

def sink : Sink Script := ⟨insert⟩

end Script

end HourlyIngest
