import HourlyIngest.Database.Session

/-!
# A server with replies laid down in advance

A scripted server refuses what its script tells it to refuse, and grants everything else.  Replies
to prepared and executed statements are used up one after the other.
-/

namespace HourlyIngest.Database

/-- How a scripted server carries out one statement. -/
inductive Execution where
  /-- Insert the rows and say so. -/
  | accept
  /-- Say something else about the statement. -/
  | tag (text : String)
  | refuse (error : ServerError)
  | hangup
deriving DecidableEq, Repr

/-- What a scripted server still has to reply. -/
structure Script where
  startupError : Option ServerError := none
  askPassword : Bool := false
  startTransactionError : Option ServerError := none
  commitError : Option ServerError := none
  prepares : List (Option ServerError) := []
  executions : List Execution := []
deriving DecidableEq, Repr

namespace Script

/-- What is said about a statement that has inserted a number of rows. -/
def insertTag (rows : Nat) : String :=
  "INSERT 0 " ++ toString rows

/-- Grant a request, unless there is an error to be reported. -/
def grant (error : Option ServerError) : Reply :=
  match error with
  | some error => .refused error
  | none => .done

/-- The reply to a statement with a number of parameters. -/
def carryOut (parameters : Nat) : Execution → Reply
  | .accept => .completed (insertTag (parameters / columnCount))
  | .tag text => .completed text
  | .refuse error => .refused error
  | .hangup => .hangup

/-- The reply to a request, and the script after it. -/
def reply (script : Script) : Request → Reply × Script
  | .encryption => (.shown "N", script)
  | .startup _ =>
      match script.startupError with
      | some error => (.refused error, script)
      | none => (if script.askPassword then .passwordWanted else .done, script)
  | .password _ => (.done, script)
  | .showReadOnly => (.done, script)
  | .startTransaction => (grant script.startTransactionError, script)
  | .prepare _ =>
      (grant script.prepares.head?.join, { script with prepares := script.prepares.drop 1 })
  | .execute _ parameters =>
      (carryOut parameters.length (script.executions.head?.getD .accept),
        { script with executions := script.executions.drop 1 })
  | .commit => (grant script.commitError, script)
  | .rollback => (.done, script)

/-- A server that follows scripts and listens at some sockets. -/
def server (listening : List Location) : Server Script :=
  .atSockets listening reply

end Script

end HourlyIngest.Database
