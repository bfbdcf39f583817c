/-!
# Faults of the database connection
-/

namespace HourlyIngest

structure ServerError where
  severity : String := "ERROR"
  code : String := "XX000"
  message : String := "scripted"
  detail : Option String := none
  hint : Option String := none
deriving DecidableEq, Repr

/-- The error with its detail and hint on lines of their own. -/
def ServerError.text (error : ServerError) : String :=
  error.severity ++ ": " ++ error.message ++
    (match error.detail with
      | some detail => "\nDETAIL: " ++ detail
      | none => "") ++
    (match error.hint with
      | some hint => "\nHINT: " ++ hint
      | none => "")

/-- Why a request to the database failed. -/
inductive DatabaseFault where
  /-- No connection could be made. -/
  | unreachable (cause : String)
  /-- The connection parameters do not fit together, or lack something the server asks for. -/
  | parameters (cause : String)
  /-- The connection could not be encrypted. -/
  | unencrypted (cause : String)
  /-- The server lets the program in without what the parameters ask for. -/
  | unauthenticated (cause : String)
  /-- The connection broke off before there was a session. -/
  | brokenOff (cause : String)
  /-- A request holds a text that cannot be sent. -/
  | unsendable (cause : String)
  /-- The server gave an answer that does not belong to the request. -/
  | unexpected
  | refused (error : ServerError)
  | closed
deriving DecidableEq, Repr

namespace DatabaseFault

def message : DatabaseFault → String
  | unreachable _ => "error connecting to server"
  | parameters _ => "invalid configuration"
  | unencrypted _ => "error performing TLS handshake"
  | unauthenticated _ => "authentication error"
  | brokenOff _ => "error communicating with the server"
  | unsendable _ => "error encoding message to server"
  | unexpected => "unexpected message from server"
  | refused _ => "db error"
  | closed => "connection closed"

/-- What stands behind the fault. -/
def causes : DatabaseFault → List String
  | unreachable cause => [cause]
  | parameters cause => [cause]
  | unencrypted cause => [cause]
  | unauthenticated cause => [cause]
  | brokenOff cause => [cause]
  | unsendable cause => [cause]
  | unexpected => []
  | refused error => [error.text]
  | closed => []

/-- The five characters with which the server classifies an error. -/
def code? : DatabaseFault → Option String
  | refused error => some error.code
  | _ => none

end DatabaseFault

end HourlyIngest
