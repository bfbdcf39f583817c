import HourlyIngest.Json.Number
import HourlyIngest.Json.Value

/-!
# Writing JSON

Two layouts of one value: `compact` puts nothing between the parts, `pretty` puts every element
and member on a line of its own, indented by two spaces for each level.  Strings escape the quote,
the backslash and the controls below the space, and nothing else.
-/

namespace HourlyIngest.Json

/-- One hexadecimal digit, in lower case. -/
def hexDigit (n : Nat) : Char :=
  Nat.digitChar n

/-- How one character stands in a string. -/
def escapeChar (c : Char) : List Char :=
  if c = '"' then ['\\', '"']
  else if c = '\\' then ['\\', '\\']
  else if c = '\n' then ['\\', 'n']
  else if c = '\r' then ['\\', 'r']
  else if c = '\t' then ['\\', 't']
  else if c.toNat = 0x08 then ['\\', 'b']
  else if c.toNat = 0x0C then ['\\', 'f']
  else if c.toNat < 0x20 then
    ['\\', 'u', '0', '0', hexDigit (c.toNat / 16), hexDigit (c.toNat % 16)]
  else [c]

def writeString (text : String) : List Char :=
  '"' :: (text.toList.flatMap escapeChar ++ ['"'])

def writeInteger (n : Int) : List Char :=
  if n < 0 then '-' :: Nat.toDigits 10 n.natAbs else Nat.toDigits 10 n.natAbs

/-- A value that holds no others. -/
def writeScalar : Json → List Char
  | null => ['n', 'u', 'l', 'l']
  | boolean true => ['t', 'r', 'u', 'e']
  | boolean false => ['f', 'a', 'l', 's', 'e']
  | integer n => writeInteger n
  | real x => (realText x).toList
  | string text => writeString text
  | array _ => []
  | object _ => []

/-! ## The compact layout -/

mutual

/-- The value with nothing between its parts. -/
def writeCompact : Json → List Char
  | array elements => '[' :: writeElements elements
  | object members => '\x7b' :: writeMembers members
  | null => writeScalar null
  | boolean b => writeScalar (boolean b)
  | integer n => writeScalar (integer n)
  | real x => writeScalar (real x)
  | string text => writeScalar (string text)

/-- The elements of an array and its closing bracket. -/
def writeElements : List Json → List Char
  | [] => [']']
  | [last] => writeCompact last ++ [']']
  | element :: next :: rest => writeCompact element ++ ',' :: writeElements (next :: rest)

/-- The members of an object and its closing brace. -/
def writeMembers : List (String × Json) → List Char
  | [] => ['\x7d']
  | [(name, value)] => writeString name ++ ':' :: (writeCompact value ++ ['\x7d'])
  | (name, value) :: next :: rest =>
      writeString name ++ ':' :: (writeCompact value ++ ',' :: writeMembers (next :: rest))

end

/-! ## The layout over several lines -/

/-- A line break and the indentation of the next line. -/
def newLine (level : Nat) : List Char :=
  '\n' :: List.replicate (2 * level) ' '

mutual

def writePretty (level : Nat) : Json → List Char
  | array [] => ['[', ']']
  | array (first :: rest) => '[' :: writePrettyElements level (first :: rest)
  | object [] => ['\x7b', '\x7d']
  | object (first :: rest) => '\x7b' :: writePrettyMembers level (first :: rest)
  | null => writeScalar null
  | boolean b => writeScalar (boolean b)
  | integer n => writeScalar (integer n)
  | real x => writeScalar (real x)
  | string text => writeScalar (string text)

/-- Elements on lines of their own, one level deeper, and the closing bracket. -/
def writePrettyElements (level : Nat) : List Json → List Char
  | [] => []
  | [last] => newLine (level + 1) ++ (writePretty (level + 1) last ++ (newLine level ++ [']']))
  | element :: next :: rest =>
      newLine (level + 1) ++
        (writePretty (level + 1) element ++ ',' :: writePrettyElements level (next :: rest))

/-- Members on lines of their own, one level deeper, and the closing brace. -/
def writePrettyMembers (level : Nat) : List (String × Json) → List Char
  | [] => []
  | [(name, value)] =>
      newLine (level + 1) ++ (writeString name ++ ':' :: ' ' ::
        (writePretty (level + 1) value ++ (newLine level ++ ['\x7d'])))
  | (name, value) :: next :: rest =>
      newLine (level + 1) ++ (writeString name ++ ':' :: ' ' ::
        (writePretty (level + 1) value ++ ',' :: writePrettyMembers level (next :: rest)))

end

/-- The value on one line. -/
def compact (value : Json) : String :=
  String.ofList (writeCompact value)

/-- The value over several lines. -/
def pretty (value : Json) : String :=
  String.ofList (writePretty 0 value)

end HourlyIngest.Json
