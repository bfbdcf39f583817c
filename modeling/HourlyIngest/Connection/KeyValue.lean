import HourlyIngest.Connection.Parameters
import HourlyIngest.Text.Blank

/-!
# Connection strings of keys and values

Such a string is a row of `key=value` pairs with blanks between them and around the equals sign.  A
value that is empty or holds blanks stands between single quotes.  A backslash takes the character
after it as it is.  Where a key should begin but an equals sign stands, the rest is not looked at.
-/

namespace HourlyIngest.Connection

open Text

/-- The text after the blanks at its beginning. -/
def skipBlank (text : List Char) : List Char :=
  text.dropWhile isBlank

/-- Whether a character may stand in a key. -/
def isKeyChar (c : Char) : Bool :=
  !isBlank c && c != '='

/-- A value without quotes, up to the next blank.  A backslash at the very end stands for
nothing. -/
def readBare (done : List Char) : List Char → List Char × List Char
  | [] => (done.reverse, [])
  | '\\' :: [] => (done.reverse, [])
  | '\\' :: c :: rest => readBare (c :: done) rest
  | c :: rest => if isBlank c then (done.reverse, c :: rest) else readBare (c :: done) rest

/-- The rest of a value after its opening quote, up to the closing one. -/
def readQuoted? (done : List Char) : List Char → Option (List Char × List Char)
  | [] => none
  | '\'' :: rest => some (done.reverse, rest)
  | '\\' :: c :: rest => readQuoted? (c :: done) rest
  | c :: rest => readQuoted? (if c = '\\' then done else c :: done) rest

def readValue? : List Char → Option (List Char × List Char)
  | '\'' :: rest => readQuoted? [] rest
  | text =>
      match readBare [] text with
      | ([], _) => none
      | (value, rest) => some (value, rest)

/-- One pair after the blanks in front of it: `none` for a fault, `some none` for the end. -/
def readPair? (text : List Char) : Option (Option ((List Char × List Char) × List Char)) :=
  let text := skipBlank text
  let key := text.takeWhile isKeyChar
  if key.isEmpty then some none
  else
    match skipBlank (text.drop key.length) with
    | '=' :: rest =>
        (readValue? (skipBlank rest)).map fun read => some ((key, read.1), read.2)
    | _ => none

/-- Set one parameter after the other.  Every pair takes at least one character. -/
def readPairs? (parameters : Parameters) (text : List Char) : Nat → Option Parameters
  | 0 => none
  | fuel + 1 =>
      match readPair? text with
      | none => none
      | some none => some parameters
      | some (some ((key, value), rest)) =>
          match parameters.set? (String.ofList key) (String.ofList value) with
          | none => none
          | some parameters => readPairs? parameters rest fuel

/-- The parameters that a string of keys and values sets. -/
def ofKeyValues? (text : List Char) : Option Parameters :=
  readPairs? {} text (text.length + 1)

end HourlyIngest.Connection
