import HourlyIngest.Number.Shortest
import HourlyIngest.Text.Quoted

/-!
# Faults of the settings

A setting may have a value of a wrong type, be missing, or come from a file that cannot be used.
Once all settings have their types, rules on single values are checked; every broken rule is
reported (`Violation`).
-/

namespace HourlyIngest

open Number Text

/-- What was found where another type of value was wanted. -/
inductive Found where
  | boolean (value : Bool)
  | signed (value : Int)
  | unsigned (value : Nat)
  | real (value : Binary64)
  | text (value : String)
  | unit
  | sequence
  | map
deriving DecidableEq

/-- How a message names a value. -/
def Found.describe : Found → String
  | .boolean value => "boolean \x60" ++ (if value then "true" else "false") ++ "\x60"
  | .signed value => "64-bit integer \x60" ++ toString value ++ "\x60"
  | .unsigned value => "64-bit unsigned integer \x60" ++ toString value ++ "\x60"
  | .real value => "floating point \x60" ++ value.toText ++ "\x60"
  | .text value => "string " ++ quoted value
  | .unit => "unit value"
  | .sequence => "sequence"
  | .map => "map"

/-- Why the settings could not be put together. -/
inductive SettingFault where
  /-- A value that cannot stand for the type that its key wants. -/
  | mistyped (found : Found) (expected : String) (key origin : Option String)
  /-- A single value in the place of a group of settings. -/
  | notGroup (found : String) (group : String)
  /-- A list that is too short for a group of settings. -/
  | shortGroup (length : Nat) (group : String) (size : Nat)
  /-- No layer gives a value. -/
  | missing (field : String)
  /-- The settings file does not exist. -/
  | fileNotFound (name : String)
  /-- The settings file's name shows no format. -/
  | unknownFormat (name : String)
  /-- The settings file is no UTF-8 text. -/
  | fileNotText
  /-- The settings file could not be read. -/
  | fileUnreadable (text : String)
  /-- The settings file breaks the rules of its format. -/
  | malformed (name : String)
deriving DecidableEq

def SettingFault.message : SettingFault → String
  | .mistyped found expected key origin =>
      "invalid type: " ++ found.describe ++ ", expected " ++ expected ++
        (match key with
          | some key => " for key \x60" ++ key ++ "\x60"
          | none => "") ++
        (match origin with
          | some origin => " in " ++ origin
          | none => "")
  | .notGroup found group => "invalid type: " ++ found ++ ", expected struct " ++ group
  | .shortGroup length group size =>
      "invalid length " ++ toString length ++ ", expected struct " ++ group ++ " with " ++
        toString size ++ " elements"
  | .missing field => "missing field \x60" ++ field ++ "\x60"
  | .fileNotFound name => "configuration file \"" ++ name ++ "\" not found"
  | .unknownFormat name =>
      "configuration file \"" ++ name ++ "\" is not of a registered file format"
  | .fileNotText => "stream did not contain valid UTF-8"
  | .fileUnreadable text => text
  | .malformed name => "cannot parse " ++ name

/-- A rule that a value breaks. -/
inductive Violation where
  /-- A text has to have at least one character. -/
  | empty (field : String)
  /-- A number has to lie in a closed range. -/
  | outOfRange (field : String) (low high value : Nat)
deriving DecidableEq, Repr

/-- The setting whose value breaks the rule. -/
def Violation.field : Violation → String
  | .empty field => field
  | .outOfRange field _ _ _ => field

def Violation.message : Violation → String
  | .empty field => field ++ ": Validation error: length"
  | .outOfRange field low high value =>
      field ++ ": Validation error: range from " ++ toString low ++ " to " ++ toString high ++
        ", found " ++ toString value

end HourlyIngest
