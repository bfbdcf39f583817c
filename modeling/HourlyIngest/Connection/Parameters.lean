import HourlyIngest.Connection.Address
import HourlyIngest.Text.Utf8

/-!
# Connection parameters

What a connection to the database is made with.  Parameters are set by name and text
(`Parameters.set?`); hosts, addresses and ports add up when they are given more than once, the
others are replaced.
-/

namespace HourlyIngest.Connection

open Number Text

/-- Where a server listens: a name in the network, or a directory with a socket. -/
inductive Host where
  | tcp (name : String)
  | unix (path : Bytes)
deriving DecidableEq, Repr

/-- Whether the connection is encrypted. -/
inductive SslMode where
  | disable
  | prefer
  | require
deriving DecidableEq, Repr

/-- How encryption is negotiated. -/
inductive SslNegotiation where
  | postgres
  | direct
deriving DecidableEq, Repr

/-- Which kind of session a server has to offer. -/
inductive TargetSession where
  | any
  | readWrite
  | readOnly
deriving DecidableEq, Repr

/-- Whether authentication is bound to the encrypted channel. -/
inductive ChannelBinding where
  | disable
  | prefer
  | require
deriving DecidableEq, Repr

/-- In which order hosts are tried. -/
inductive LoadBalance where
  | disable
  | random
deriving DecidableEq, Repr

/-- The parameters of a connection.  Times are in seconds. -/
structure Parameters where
  user : Option String := none
  password : Option Bytes := none
  dbname : Option String := none
  options : Option String := none
  applicationName : Option String := none
  sslMode : SslMode := .prefer
  sslNegotiation : SslNegotiation := .postgres
  hosts : List Host := []
  addresses : List Address := []
  ports : List Nat := []
  connectTimeout : Option Nat := none
  tcpUserTimeout : Option Nat := none
  keepalives : Bool := true
  keepalivesIdle : Nat := 7200
  keepalivesInterval : Option Nat := none
  keepalivesRetries : Option Nat := none
  targetSession : TargetSession := .any
  channelBinding : ChannelBinding := .prefer
  loadBalance : LoadBalance := .disable
deriving DecidableEq, Repr

/-- The port on which a server listens if nothing else is said. -/
def defaultPort : Nat := 5432

/-- The host that a text names: one that begins with a slash is a directory. -/
def Host.ofString (text : String) : Host :=
  if text.toList.head? = some '/' then .unix (encode text) else .tcp text

/-- The parts of a text between its commas. -/
def splitCommas : List Char → List (List Char)
  | [] => [[]]
  | c :: rest =>
      if c = ',' then [] :: splitCommas rest
      else
        match splitCommas rest with
        | [] => [[c]]
        | part :: parts => (c :: part) :: parts

/-- A port; an empty text is the default one. -/
def readPort? (text : List Char) : Option Nat :=
  if text.isEmpty then some defaultPort else (readUnsigned maxUnsigned16 text).toOption

/-- A number of seconds, and nothing where it is not positive. -/
def readSeconds? (text : String) : Option (Option Nat) :=
  match readSigned64 text.toList with
  | .ok seconds => some (if 0 < seconds then some seconds.toNat else none)
  | .error _ => none

namespace Parameters

def addHost (parameters : Parameters) (host : Host) : Parameters :=
  { parameters with hosts := parameters.hosts ++ [host] }

/-- Change the parameter of a name that holds a text. -/
def setText? (parameters : Parameters) (name value : String) : Option Parameters :=
  match name with
  | "user" => some { parameters with user := some value }
  | "password" => some { parameters with password := some (encode value) }
  | "dbname" => some { parameters with dbname := some value }
  | "options" => some { parameters with options := some value }
  | "application_name" => some { parameters with applicationName := some value }
  | _ => none

/-- Change the parameter of a name that holds one of several words. -/
def setWord? (parameters : Parameters) (name value : String) : Option Parameters :=
  match name, value with
  | "sslmode", "disable" => some { parameters with sslMode := .disable }
  | "sslmode", "prefer" => some { parameters with sslMode := .prefer }
  | "sslmode", "require" => some { parameters with sslMode := .require }
  | "sslnegotiation", "postgres" => some { parameters with sslNegotiation := .postgres }
  | "sslnegotiation", "direct" => some { parameters with sslNegotiation := .direct }
  | "target_session_attrs", "any" => some { parameters with targetSession := .any }
  | "target_session_attrs", "read-write" => some { parameters with targetSession := .readWrite }
  | "target_session_attrs", "read-only" => some { parameters with targetSession := .readOnly }
  | "channel_binding", "disable" => some { parameters with channelBinding := .disable }
  | "channel_binding", "prefer" => some { parameters with channelBinding := .prefer }
  | "channel_binding", "require" => some { parameters with channelBinding := .require }
  | "load_balance_hosts", "disable" => some { parameters with loadBalance := .disable }
  | "load_balance_hosts", "random" => some { parameters with loadBalance := .random }
  | _, _ => none

/-- Change the parameter of a name that holds a number.  A time that is not positive changes
nothing. -/
def setNumber? (parameters : Parameters) (name value : String) : Option Parameters :=
  match name with
  | "connect_timeout" =>
      (readSeconds? value).map fun seconds =>
        { parameters with connectTimeout := seconds <|> parameters.connectTimeout }
  | "tcp_user_timeout" =>
      (readSeconds? value).map fun seconds =>
        { parameters with tcpUserTimeout := seconds <|> parameters.tcpUserTimeout }
  | "keepalives" =>
      (readUnsigned maxUnsigned64 value.toList).toOption.map fun number =>
        { parameters with keepalives := number != 0 }
  | "keepalives_idle" =>
      (readSeconds? value).map fun seconds =>
        { parameters with keepalivesIdle := seconds.getD parameters.keepalivesIdle }
  | "keepalives_interval" =>
      (readSeconds? value).map fun seconds =>
        { parameters with keepalivesInterval := seconds <|> parameters.keepalivesInterval }
  | "keepalives_retries" =>
      (readUnsigned maxUnsigned32 value.toList).toOption.map fun number =>
        { parameters with keepalivesRetries := some number }
  | _ => none

/-- Add to the parameter of a name that holds a list, divided by commas. -/
def setList? (parameters : Parameters) (name value : String) : Option Parameters :=
  let parts := splitCommas value.toList
  match name with
  | "host" =>
      let hosts := parts.map fun part => Host.ofString (String.ofList part)
      some { parameters with hosts := parameters.hosts ++ hosts }
  | "hostaddr" =>
      (parts.mapM Address.read?).map fun addresses =>
        { parameters with addresses := parameters.addresses ++ addresses }
  | "port" =>
      (parts.mapM readPort?).map fun ports => { parameters with ports := parameters.ports ++ ports }
  | _ => none

/-- Change the parameter of a name; none for an unknown name or a text that it does not take. -/
def set? (parameters : Parameters) (name value : String) : Option Parameters :=
  [setText?, setWord?, setNumber?, setList?].findSome? fun set => set parameters name value

end Parameters

end HourlyIngest.Connection
