import HourlyIngest.Number.Numeral

/-!
# Keys of settings

The key of a setting leads through tables by names and through lists by positions, as in
`database.host` or `servers[0].name`.  A text that is no such path is the name of one setting.
-/

namespace HourlyIngest

open Number

inductive Key where
  | name (name : String)
  | child (parent : Key) (name : String)
  | item (parent : Key) (index : Int)
deriving DecidableEq, Repr

namespace Key

/-- Whether a character may stand in a name of a path. -/
def isNameChar (c : Char) : Bool :=
  ('a' ≤ c && c ≤ 'z') || ('A' ≤ c && c ≤ 'Z') || ('0' ≤ c && c ≤ '9') ||
    c == ' ' || c == '_' || c == '-'

/-- The text after the blanks at its beginning. -/
def skipBlanks (text : List Char) : List Char :=
  text.dropWhile fun c => c == ' ' || c == '\t'

/-- A position between brackets: an optional minus sign and digits, with blanks around them. -/
def readIndex? (text : List Char) : Option (Int × List Char) :=
  let text := skipBlanks text
  let negative := text.head? = some '-'
  let text := if negative then text.drop 1 else text
  let digits := text.takeWhile fun c => (digit? c).isSome
  match readSigned64 (if negative then '-' :: digits else digits),
      skipBlanks (text.drop digits.length) with
  | .ok index, ']' :: rest => if digits.isEmpty then none else some (index, rest)
  | _, _ => none

/-- The rest of a path after its first parts. -/
def readRest? (key : Key) (text : List Char) : Nat → Option Key
  | 0 => none
  | fuel + 1 =>
      match text with
      | [] => some key
      | '.' :: rest =>
          let name := rest.takeWhile isNameChar
          if name.isEmpty then none
          else readRest? (.child key (String.ofList name)) (rest.drop name.length) fuel
      | '[' :: rest =>
          match readIndex? rest with
          | some (index, rest) => readRest? (.item key index) rest fuel
          | none => none
      | _ => none

def read? (text : String) : Option Key :=
  let characters := text.toList
  let name := characters.takeWhile isNameChar
  if name.isEmpty then none
  else
    readRest? (.name (String.ofList name)) (characters.drop name.length) (characters.length + 1)

def ofString (text : String) : Key :=
  (read? text).getD (.name text)

end Key

end HourlyIngest
