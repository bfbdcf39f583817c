import HourlyIngest.Connection.Address
import HourlyIngest.Database.Fault
import HourlyIngest.FileSystem.Basic
import HourlyIngest.Number.Numeral
import HourlyIngest.Sql.Parameter

/-!
# Sessions with a database server

A server is a machine that takes connections and replies to one request after the other.  Which
names lead to it, and which connections it takes, is its own affair, and so are its replies.  A
session keeps the state of the server and everything that has been exchanged with it, in order; what
a client may conclude about the database, it has to conclude from these exchanges.  A request that
cannot be written down is not sent, and after the server has hung up nothing is sent any more.
-/

namespace HourlyIngest.Database

/-- What is asked of a server. -/
inductive Request where
  /-- Ask whether what follows may be encrypted.  The letter S is shown if so. -/
  | encryption
  /-- Open a session with parameters, which are given by name. -/
  | startup (parameters : List (String × String))
  | password (bytes : Text.Bytes)
  /-- Ask whether transactions may only read. -/
  | showReadOnly
  | startTransaction
  | prepare (statement : String)
  /-- Carry out the statement prepared last, with a parameter for each placeholder. -/
  | execute (statement : String) (parameters : List Sql.Parameter)
  | commit
  | rollback
deriving DecidableEq, Repr

/-- What a server replies. -/
inductive Reply where
  | done
  /-- A password is wanted before the session is open. -/
  | passwordWanted
  /-- The value of what was asked for. -/
  | shown (value : String)
  /-- A statement was carried out, with what the server has to say about it. -/
  | completed (tag : String)
  | refused (error : ServerError)
  /-- The connection is closed in the place of a reply. -/
  | hangup
deriving DecidableEq, Repr

structure Exchange where
  request : Request
  reply : Reply
deriving DecidableEq, Repr

/-- Where a connection leads: to a port of an address, or to a socket in the file system. -/
inductive Endpoint where
  | tcp (address : Address) (port : Nat)
  | socket (place : Location)
deriving DecidableEq, Repr

/-- A server with states in `σ`, and the way that leads to it. -/
structure Server (σ : Type) where
  /-- The places of its sockets. -/
  listening : List Location
  /-- The addresses of a name in the network, or why there are none. -/
  resolve : String → Except String (List Address)
  /-- Take a connection, or refuse it for a cause. -/
  accept : σ → Endpoint → Except String σ
  reply : σ → Request → Reply × σ

/-- A server that is reached through sockets alone.  Every name leads to the host that the program
runs on, where no port takes a connection. -/
def Server.atSockets {σ : Type} (listening : List Location) (reply : σ → Request → Reply × σ) :
    Server σ where
  listening := listening
  resolve := fun _ => .ok [.v4 127 0 0 1]
  accept := fun state endpoint =>
    match endpoint with
    | .tcp _ _ => .error IoFault.connectionRefused.message
    | .socket _ => .ok state
  reply := reply

/-- The server's state, what has been exchanged, and whether the server has hung up. -/
structure Session (σ : Type) where
  server : σ
  exchanges : List Exchange := []
  closed : Bool := false
deriving DecidableEq, Repr

namespace Request

/-- Whether a request has a text that is written with a zero behind it and has a zero inside. -/
def isUnsendable : Request → Bool
  | .startup parameters =>
      parameters.any fun entry => (entry.1 ++ entry.2).toList.contains (Char.ofNat 0)
  | .password bytes => bytes.contains 0
  | .prepare statement => statement.toList.contains (Char.ofNat 0)
  | _ => false

end Request

namespace Reply

/-- The characters behind the last blank. -/
def lastWord (text : List Char) : List Char :=
  (text.reverse.takeWhile (· != ' ')).reverse

/-- The number of rows that a statement has changed: the number at the end of what the server says
about it, and 0 if there is none. -/
def affected : Reply → UInt64
  | completed tag =>
      match Number.readUnsigned Number.maxUnsigned64 (lastWord tag.toList) with
      | .ok count => UInt64.ofNat count
      | .error _ => 0
  | _ => 0

end Reply

namespace Session

variable {σ : Type} (server : Server σ)

/-- Send a request and wait for the reply. -/
def send (session : Session σ) (request : Request) : Except DatabaseFault Reply × Session σ :=
  if request.isUnsendable then (.error (.unsendable "string contains embedded null"), session)
  else if session.closed then (.error .closed, session)
  else
    let (reply, state) := server.reply session.server request
    let session := { session with
      server := state
      exchanges := session.exchanges ++ [⟨request, reply⟩] }
    match reply with
    | .refused error => (.error (.refused error), session)
    | .hangup => (.error .closed, { session with closed := true })
    | reply => (.ok reply, session)

end Session

end HourlyIngest.Database
