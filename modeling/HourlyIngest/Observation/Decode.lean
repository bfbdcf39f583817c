import HourlyIngest.Json.Number
import HourlyIngest.Json.Value
import HourlyIngest.Observation
import HourlyIngest.Text.Quoted

/-!
# Observations in JSON

An observation is written as an object with the one member `values`, an array of texts and nulls.
Reading also takes an array of one element in the place of the object, ignores other members, and
keeps rows of any length as they are.
-/

namespace HourlyIngest

open Number Text

/-- Why a JSON value is no observation. -/
inductive DecodeFault where
  | invalidType (found : Json) (expected : String)
  | tooFewElements
  | tooManyElements (length : Nat)
  | missingValues

/-- How a message names a value of a wrong type. -/
def Json.describe : Json → String
  | .null => "null"
  | .boolean value => "boolean \x60" ++ (if value then "true" else "false") ++ "\x60"
  | .integer value => "integer \x60" ++ toString value ++ "\x60"
  | .real value => "floating point \x60" ++ realText value ++ "\x60"
  | .string value => "string " ++ quoted value
  | .array _ => "sequence"
  | .object _ => "map"

def DecodeFault.message : DecodeFault → String
  | .invalidType found expected => "invalid type: " ++ found.describe ++ ", expected " ++ expected
  | .tooFewElements => "invalid length 0, expected struct HourlyRow with 1 element"
  | .tooManyElements length =>
      "invalid length " ++ toString length ++ ", expected fewer elements in array"
  | .missingValues => "missing field \x60values\x60"

namespace Observation

def decodeCell : Json → Except DecodeFault Cell
  | .null => .ok none
  | .string text => .ok (some text)
  | other => .error (.invalidType other "a string")

def decodeValues : Json → Except DecodeFault Observation
  | .array elements => (elements.mapM decodeCell).map Observation.mk
  | other => .error (.invalidType other "a sequence")

/-- An observation in either of its two forms. -/
def decode (value : Json) : Except DecodeFault Observation :=
  match value with
  | .array [] => .error .tooFewElements
  | .array (first :: rest) =>
      match decodeValues first with
      | .error fault => .error fault
      | .ok row => if rest.isEmpty then .ok row else .error (.tooManyElements (rest.length + 1))
  | .object members =>
      match (Json.object members).member? "values" with
      | none => .error .missingValues
      | some values => decodeValues values
  | other => .error (.invalidType other "struct HourlyRow")

/-- The values of a row as a JSON array. -/
def valuesJson (row : Observation) : Json :=
  .array (row.values.map (Json.ofOption .string))

def encode (row : Observation) : Json :=
  .object [("values", row.valuesJson)]

end Observation

end HourlyIngest
