import HourlyIngest.Connection.Parameters
import HourlyIngest.Database.Session

/-!
# Connecting to a server

The connection parameters name one or several hosts.  They are tried in order, or in an order that
chance has chosen, and the first one that lets the program in is taken; if none does, the fault met
last is the one reported.  A name in the network may have several addresses, which are tried in the
same way.

There is no encryption to be had on this side.  A connection that has to be encrypted is therefore
given up, whatever the server has to say about it.
-/

namespace HourlyIngest.Database

open Connection

/-! ## Hosts -/

/-- A host that is to be tried: its position among the parameters, where it is, and whether it is
known by a name in the network. -/
structure Candidate where
  position : Nat
  host : Host
  port : Nat
  named : Bool
deriving DecidableEq, Repr

/-- The socket of a port in a directory. -/
def socketPath (directory : Path) (port : Nat) : Path :=
  Path.join directory (Path.ofString (".s.PGSQL." ++ toString port))

/-- The port of the host at a position.  A single port holds for all hosts. -/
def portAt (parameters : Parameters) (index : Nat) : Nat :=
  (parameters.ports[index]? <|> parameters.ports.head?).getD defaultPort

/-- Where the host at a position is.  An address takes the place of a name. -/
def hostAt? (parameters : Parameters) (index : Nat) : Option Host :=
  match parameters.addresses[index]? with
  | some address => some (.tcp address.text)
  | none => parameters.hosts[index]?

def isNamedAt (parameters : Parameters) (index : Nat) : Bool :=
  match parameters.hosts[index]? with
  | some (.tcp _) => true
  | _ => false

def candidateAt? (parameters : Parameters) (index : Nat) : Option Candidate :=
  (hostAt? parameters index).map fun host =>
    ⟨index, host, portAt parameters index, isNamedAt parameters index⟩

/-- The fault of parameters that name no host. -/
def noHost : DatabaseFault :=
  .parameters "both host and hostaddr are missing"

/-- The hosts to be tried, provided that hosts, addresses and ports fit together. -/
def candidates (parameters : Parameters) : Except DatabaseFault (List Candidate) :=
  let hosts := parameters.hosts.length
  let addresses := parameters.addresses.length
  let ports := parameters.ports.length
  if hosts = 0 ∧ addresses = 0 then .error noHost
  else if 0 < hosts ∧ 0 < addresses ∧ hosts ≠ addresses then
    .error (.parameters ("number of hosts (" ++ toString hosts ++
      ") is different from number of hostaddrs (" ++ toString addresses ++ ")"))
  else if 1 < ports ∧ ports ≠ max hosts addresses then
    .error (.parameters "invalid number of ports")
  else .ok ((List.range (max hosts addresses)).filterMap (candidateAt? parameters))

/-! ## Chance -/

/-- The orders that chance chooses: that of the hosts, and that of the addresses of the host at a
position. -/
structure Shuffle where
  order : Option Nat → Nat → List Nat
  perm : ∀ occasion count, (order occasion count).Perm (List.range count)

namespace Shuffle

/-- Chance leaves everything as it is. -/
def still : Shuffle :=
  ⟨fun _ => List.range, fun _ _ => .refl _⟩

/-- The elements of a list in the order chosen. -/
def apply {α : Type} (shuffle : Shuffle) (occasion : Option Nat) (xs : List α) : List α :=
  (shuffle.order occasion xs.length).filterMap (xs[·]?)

end Shuffle

/-- Alternatives in the order in which they are tried. -/
def arrange {α : Type} (shuffle : Shuffle) (balance : LoadBalance) (occasion : Option Nat)
    (xs : List α) : List α :=
  match balance with
  | .disable => xs
  | .random => shuffle.apply occasion xs

/-! ## Reaching an endpoint -/

/-- The addresses of a host in the network.  One that is an address itself is not looked up. -/
def Server.addresses {σ : Type} (server : Server σ) (host : String) :
    Except DatabaseFault (List Address) :=
  match Address.read? host.toList with
  | some address => .ok [address]
  | none =>
      match server.resolve host with
      | .ok addresses => .ok addresses
      | .error cause => .error (.unreachable cause)

/-- The fault of a name without addresses. -/
def noAddress : DatabaseFault :=
  .unreachable "could not resolve any addresses"

/-- The length at which the path of a socket is too long. -/
def maxSocketPath : Nat := 108

/-- The place of a socket at which a server listens, or why there is none. -/
def socketPlace (files : FileSystem) (listening : List Location) (path : Path) :
    Except DatabaseFault Location :=
  if path.contains 0 then .error (.unreachable "paths must not contain interior null bytes")
  else if maxSocketPath ≤ path.length then
    .error (.unreachable "path must be shorter than SUN_LEN")
  else
    match files.locate .node path with
    | .error fault => .error (.unreachable fault.message)
    | .ok place =>
        if place ∈ listening then .ok place
        else
          match files.node? place with
          | some _ => .error (.unreachable IoFault.connectionRefused.message)
          | none => .error (.unreachable IoFault.notFound.message)

/-! ## Opening a session -/

/-- The parameters with which a session begins, in the order of their names.  Without a user it is
opened for the account that the program runs under. -/
def startupParameters (account : String) (parameters : Parameters) : List (String × String) :=
  let optional (name : String) (value : Option String) : List (String × String) :=
    (value.map (name, ·)).toList
  optional "application_name" parameters.applicationName ++ [("client_encoding", "UTF8")] ++
    optional "database" parameters.dbname ++ optional "options" parameters.options ++
    [("user", parameters.user.getD account)]

/-- Authentication that is not bound to an encrypted channel is refused where the parameters ask
for a bound one. -/
def checkBinding (parameters : Parameters) : Except DatabaseFault Unit :=
  if parameters.channelBinding = .require then
    .error (.unauthenticated "server did not use channel binding")
  else .ok ()

/-- Whether a server offers the kind of session that is wanted, by what it replies when asked
whether transactions may only read. -/
def checkTarget (target : TargetSession) : Reply → Except DatabaseFault Unit
  | .shown value =>
      if target = .readWrite ∧ value = "on" then
        .error (.unreachable "database does not allow writes")
      else if target = .readOnly ∧ value = "off" then
        .error (.unreachable "database is not read only")
      else .ok ()
  | _ => .error .unexpected

/-- The fault of a connection that has to be encrypted. -/
def noEncryption (named : Bool) : DatabaseFault :=
  .unencrypted <|
    if named then "no TLS implementation configured" else "no hostname provided for TLS handshake"

/-- The fault that comes of asking a server for encryption. -/
def encryptionFault (named : Bool) : Except DatabaseFault Reply → DatabaseFault
  | .ok (.shown "S") => noEncryption named
  | .error .closed => .brokenOff "early eof"
  | _ => .unencrypted "server does not support TLS"

namespace Session

variable {σ : Type} (server : Server σ) (account : String) (parameters : Parameters)

/-- Agree on encryption.  Nothing is asked for unless it is required, and then the connection is of
no use. -/
def negotiate (named : Bool) (session : Session σ) : Except DatabaseFault Unit × Session σ :=
  if parameters.sslMode ≠ .require then (.ok (), session)
  else
    match parameters.sslNegotiation with
    | .direct => (.error (noEncryption named), session)
    | .postgres =>
        let (answer, session) := session.send server .encryption
        (.error (encryptionFault named answer), session)

/-- Answer the question for a password. -/
def givePassword (session : Session σ) : Except DatabaseFault Unit × Session σ :=
  match parameters.password with
  | none => (.error (.parameters "password missing"), session)
  | some password =>
      let (answer, session) := session.send server (.password password)
      (answer.map fun _ => (), session)

/-- Be let in by the server. -/
def authenticate (session : Session σ) : Except DatabaseFault Unit × Session σ :=
  match session.send server (.startup (startupParameters account parameters)) with
  | (.error fault, session) => (.error fault, session)
  | (.ok reply, session) =>
      match checkBinding parameters with
      | .error fault => (.error fault, session)
      | .ok _ =>
          if reply = .passwordWanted then session.givePassword server parameters
          else (.ok (), session)

/-- See whether the server offers the kind of session that the parameters ask for. -/
def inspect (session : Session σ) : Except DatabaseFault Unit × Session σ :=
  if parameters.targetSession = .any then (.ok (), session)
  else
    let (answer, session) := session.send server .showReadOnly
    (answer.bind (checkTarget parameters.targetSession), session)

/-- Begin a session with a connection that has been taken up. -/
def start (named : Bool) (session : Session σ) : Except DatabaseFault Unit × Session σ :=
  match session.negotiate server parameters named with
  | (.error fault, session) => (.error fault, session)
  | (.ok _, session) =>
      match session.authenticate server account parameters with
      | (.error fault, session) => (.error fault, session)
      | (.ok _, session) => session.inspect server parameters

/-- Take up a connection and begin a session with it. -/
def enter (named : Bool) (endpoint : Endpoint) (session : Session σ) :
    Except DatabaseFault Unit × Session σ :=
  match server.accept session.server endpoint with
  | .error cause => (.error (.unreachable cause), session)
  | .ok state =>
      start server account parameters named { session with server := state, closed := false }

/-! ## Trying one after the other -/

/-- Try alternatives in order until one succeeds.  `last` is the fault met so far. -/
def tryEach {α : Type} (attempt : α → Session σ → Except DatabaseFault Unit × Session σ)
    (last : DatabaseFault) (session : Session σ) :
    List α → Except DatabaseFault Unit × Session σ
  | [] => (.error last, session)
  | alternative :: rest =>
      match attempt alternative session with
      | (.ok _, session) => (.ok (), session)
      | (.error fault, session) => tryEach attempt fault session rest

variable (shuffle : Shuffle)

/-- Try a host. -/
def tryHost (files : FileSystem) (candidate : Candidate) (session : Session σ) :
    Except DatabaseFault Unit × Session σ :=
  match candidate.host with
  | .tcp name =>
      match server.addresses name with
      | .error fault => (.error fault, session)
      | .ok addresses =>
          session.tryEach
            (fun address =>
              enter server account parameters candidate.named (.tcp address candidate.port))
            noAddress
            (arrange shuffle parameters.loadBalance (some candidate.position) addresses)
  | .unix directory =>
      match socketPlace files server.listening (socketPath directory candidate.port) with
      | .error fault => (.error fault, session)
      | .ok place => session.enter server account parameters candidate.named (.socket place)

/-- Connect to the first host that lets the program in. -/
def connect (files : FileSystem) (session : Session σ) : Except DatabaseFault Unit × Session σ :=
  match candidates parameters with
  | .error fault => (.error fault, session)
  | .ok hosts =>
      session.tryEach (tryHost server account parameters shuffle files) noHost
        (arrange shuffle parameters.loadBalance none hosts)

end Session

end HourlyIngest.Database
