import HourlyIngest.Connection.Parameters
import HourlyIngest.Json.Reader

/-!
# Connection strings in the form of a URI

After its scheme a URI may hold a user and a password in front of an at sign, hosts with their
ports, the name of the database behind a slash, and further parameters behind a question mark.  In
all of these a percent sign and two hexadecimal digits stand for a byte.
-/

namespace HourlyIngest.Connection

open Text

/-- The bytes that a text stands for.  A percent sign without two hexadecimal digits after it stands
for itself. -/
def percentDecode : Bytes → Bytes
  | 0x25 :: a :: b :: rest =>
      match Json.hexValue? (Char.ofNat a.toNat), Json.hexValue? (Char.ofNat b.toNat) with
      | some high, some low => UInt8.ofNat (high * 16 + low) :: percentDecode rest
      | _, _ => 0x25 :: percentDecode (a :: b :: rest)
  | byte :: rest => byte :: percentDecode rest
  | [] => []

/-- The bytes that characters of a URI stand for. -/
def bytesOf (text : List Char) : Bytes :=
  percentDecode (encode (String.ofList text))

/-- The text that characters of a URI stand for. -/
def textOf? (text : List Char) : Option String :=
  decode? (bytesOf text)

/-- The text in front of the first character that is wanted and the text from there on, if there is
such a character. -/
def cut? (wanted : Char → Bool) (text : List Char) : Option (List Char × List Char) :=
  let before := text.takeWhile (!wanted ·)
  let rest := text.drop before.length
  if rest.isEmpty then none else some (before, rest)

/-- The same with everything in front of the end where there is no such character. -/
def cut (wanted : Char → Bool) (text : List Char) : List Char × List Char :=
  (cut? wanted text).getD (text, [])

/-- Add the host that characters of a URI stand for. -/
def addHost? (parameters : Parameters) (text : List Char) : Option Parameters :=
  let bytes := bytesOf text
  if bytes.head? = some 0x2F then some (parameters.addHost (.unix bytes))
  else (decode? bytes).map fun name => parameters.addHost (Host.ofString name)

def readCredentials? (parameters : Parameters) (text : List Char) :
    Option (Parameters × List Char) :=
  match cut? (· = '@') text with
  | none => some (parameters, text)
  | some (credentials, rest) =>
      let (user, password) := cut (· = ':') credentials
      (textOf? user).map fun user =>
        ({ parameters with
            user := some user
            password :=
              if password.isEmpty then parameters.password else some (bytesOf (password.drop 1)) },
          rest.drop 1)

/-- A host and the port behind it.  Brackets keep the colons of an address together. -/
def splitPort? (text : List Char) : Option (List Char × Option (List Char)) :=
  match text with
  | '[' :: inside =>
      match cut? (· = ']') inside with
      | none => none
      | some (host, rest) =>
          match rest.drop 1 with
          | [] => some (host, none)
          | ':' :: port => some (host, some port)
          | _ => none
  | _ =>
      let (host, port) := cut (· = ':') text
      some (host, if port.isEmpty then none else some (port.drop 1))

/-- The hosts of a URI, each with its port. -/
def readHosts? (parameters : Parameters) : List (List Char) → Option Parameters
  | [] => some parameters
  | chunk :: rest => do
      let (host, port) ← splitPort? chunk
      let parameters ← addHost? parameters host
      let port ← textOf? (port.getD (Nat.toDigits 10 defaultPort))
      readHosts? (← parameters.set? "port" port) rest

def readDatabase? (parameters : Parameters) (text : List Char) :
    Option (Parameters × List Char) :=
  match text with
  | '/' :: rest =>
      let (name, rest) := cut (· = '?') rest
      if name.isEmpty then some (parameters, rest)
      else (textOf? name).map fun name => ({ parameters with dbname := some name }, rest)
  | _ => some (parameters, text)

/-- The parameters behind the question mark.  Each of them takes at least one character. -/
def readQuery? (parameters : Parameters) (text : List Char) : Nat → Option Parameters
  | 0 => none
  | fuel + 1 =>
      if text.isEmpty then some parameters
      else
        match cut? (· = '=') text with
        | none => none
        | some (key, rest) => do
            let (value, rest) := cut (· = '&') (rest.drop 1)
            let key ← textOf? key
            let parameters ←
              if key = "host" then addHost? parameters value
              else (textOf? value).bind (parameters.set? key)
            readQuery? parameters (rest.drop 1) fuel

/-- The text behind the scheme, if the text is a URI. -/
def afterScheme? (text : List Char) : Option (List Char) :=
  ["postgres://".toList, "postgresql://".toList].findSome? fun scheme =>
    if scheme.isPrefixOf text then some (text.drop scheme.length) else none

/-- The parameters that a URI sets, given the text behind its scheme. -/
def ofUri? (text : List Char) : Option Parameters := do
  let (parameters, rest) ← readCredentials? {} text
  let (hosts, rest) := cut (fun c => c = '/' || c = '?') rest
  let parameters ←
    if hosts.isEmpty then some parameters else readHosts? parameters (splitCommas hosts)
  let (parameters, rest) ← readDatabase? parameters rest
  match rest with
  | '?' :: query => readQuery? parameters query (query.length + 1)
  | _ => some parameters

end HourlyIngest.Connection
