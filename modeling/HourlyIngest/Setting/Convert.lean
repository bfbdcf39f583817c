import HourlyIngest.Number.Numeral
import HourlyIngest.Number.Shortest
import HourlyIngest.Setting.Fault
import HourlyIngest.Setting.Value
import HourlyIngest.Text.Case

/-!
# Settings of a wanted type

A field of the settings wants a truth value, a whole number or a text, and takes a value of another
type where that can stand for it: the words `on` and `off` for a truth value, a truth value for the
numbers 1 and 0, any single value for a text.
-/

namespace HourlyIngest.Setting

open Number Text

/-- What a message says was found. -/
def found : Setting → Found
  | .scalar _ .nil => .unit
  | .scalar _ (.boolean value) => .boolean value
  | .scalar _ (.integer value) => .signed value
  | .scalar _ (.real value) => .real value
  | .scalar _ (.text value) => .text value
  | .list _ _ => .sequence
  | .table _ _ => .map

def origin : Setting → Option String
  | .scalar origin _ => origin
  | .list origin _ => origin
  | .table origin _ => origin

/-- The fault of a setting that cannot stand for a type. -/
def mistyped (key : String) (setting : Setting) (expected : String) : SettingFault :=
  .mistyped setting.found expected (some key) setting.origin

/-- A truth value.  A number stands for whether it is not zero. -/
def toBoolean (key : String) (setting : Setting) : Except SettingFault Bool :=
  match setting with
  | .scalar _ (.boolean value) => .ok value
  | .scalar _ (.integer value) => .ok (value != 0)
  | .scalar _ (.real value) => .ok (!value.isZero)
  | .scalar origin (.text value) =>
      let word := lowercase value
      if word ∈ ["1", "true", "on", "yes"] then .ok true
      else if word ∈ ["0", "false", "off", "no"] then .ok false
      else .error (.mistyped (.text word) "a boolean" (some key) origin)
  | other => .error (mistyped key other "a boolean")

/-- A whole number from 0 to `2⁶⁴ - 1`.  A number with a fraction is rounded. -/
def toUnsigned (key : String) (setting : Setting) : Except SettingFault Nat :=
  match setting with
  | .scalar _ (.boolean value) => .ok (if value then 1 else 0)
  | .scalar _ (.integer value) =>
      if 0 ≤ value then .ok value.toNat
      else .error (mistyped key setting "an unsigned 64 bit or less integer")
  | .scalar _ (.real value) => .ok (value.toNatUpTo maxUnsigned64)
  | .scalar _ (.text value) =>
      let word := lowercase value
      if word ∈ ["true", "on", "yes"] then .ok 1
      else if word ∈ ["false", "off", "no"] then .ok 0
      else
        match readUnsigned maxUnsigned64 value.toList with
        | .ok number => .ok number
        | .error _ => .error (mistyped key setting "an integer")
  | other => .error (mistyped key other "an integer")

/-- A whole number from 0 to `2¹⁶ - 1`. -/
def toUnsigned16 (key : String) (setting : Setting) : Except SettingFault Nat :=
  match toUnsigned key setting with
  | .error fault => .error fault
  | .ok value =>
      if value ≤ maxUnsigned16 then .ok value
      else .error (.mistyped (.unsigned value) "an unsigned 16 bit integer" (some key) none)

def toText (key : String) (setting : Setting) : Except SettingFault String :=
  match setting with
  | .scalar _ (.text value) => .ok value
  | .scalar _ (.boolean value) => .ok (if value then "true" else "false")
  | .scalar _ (.integer value) => .ok (toString value)
  | .scalar _ (.real value) => .ok value.toText
  | other => .error (mistyped key other "a string")

def toOptionalText (key : String) (setting : Setting) : Except SettingFault (Option String) :=
  match setting with
  | .scalar _ .nil => .ok none
  | other => (toText key other).map some

end HourlyIngest.Setting
