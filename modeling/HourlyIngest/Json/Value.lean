import HourlyIngest.Number.Binary64

/-!
# JSON values

Whole numbers are kept exactly; a number with a fraction or an exponent is a double-precision
number.  The members of an object stay in the order in which they were written.  Of members with
one name the last stands for all: a look-up answers with it, and `ofMembers` keeps no other.
-/

namespace HourlyIngest

open Number

inductive Json where
  | null
  | boolean (value : Bool)
  | integer (value : Int)
  | real (value : Binary64)
  | string (value : String)
  | array (elements : List Json)
  | object (members : List (String × Json))
deriving Inhabited

namespace Json

/-- The last member of an object that has the name. -/
def member? (name : String) : Json → Option Json
  | object members => (members.reverse.find? (·.1 == name)).map (·.2)
  | _ => none

/-- Members without those that a later one of their name replaces. -/
def lastMembers (members : List (String × Json)) : List (String × Json) :=
  members.foldr
    (fun member kept => if kept.any (·.1 == member.1) then kept else member :: kept) []

/-- The object of members among which names may be repeated. -/
def ofMembers (members : List (String × Json)) : Json :=
  object (lastMembers members)

/-- A member that is present and not null. -/
def present? (name : String) (value : Json) : Option Json :=
  match value.member? name with
  | some null => none
  | other => other

def string? : Json → Option String
  | string value => some value
  | _ => none

/-- The value of a whole number that is not negative. -/
def natural? : Json → Option Nat
  | integer value => if 0 ≤ value then some value.toNat else none
  | _ => none

def integer? : Json → Option Int
  | integer value => some value
  | _ => none

def boolean? : Json → Option Bool
  | boolean value => some value
  | _ => none

def array? : Json → Option (List Json)
  | array elements => some elements
  | _ => none

def ofNat (n : Nat) : Json := integer n

/-- The value, or null where there is none. -/
def ofOption {α : Type} (encode : α → Json) : Option α → Json
  | some value => encode value
  | none => null

end Json

end HourlyIngest
