import HourlyIngest.Number.Floating
import HourlyIngest.Setting.Layer

/-!
# Settings from the environment

Variables whose names begin with `NOAA_LOADER_`, in any letter case, are settings.  The rest of the
name is the key, with two underscores for a dot.  A value that reads as a truth value or as a
number is one; any other value is a text.
-/

namespace HourlyIngest

open Number Text

abbrev Environment := List (String × String)

namespace Environment

/-- What the names of settings begin with, in lower case. -/
def marker : List Char := "noaa_loader_".toList

/-- Where settings from the environment say that they come from. -/
def origin : String := "the environment"

/-- The text with a dot in the place of every two underscores, from left to right. -/
def dotted : List Char → List Char
  | [] => []
  | '_' :: '_' :: rest => '.' :: dotted rest
  | c :: rest => c :: dotted rest

/-- The value that a variable's text stands for. -/
def readValue (text : String) : Scalar :=
  match lowercase text with
  | "true" => .boolean true
  | "false" => .boolean false
  | _ =>
      match readSigned64 text.toList with
      | .ok value => .integer value
      | .error _ =>
          match readBinary64? text.toList with
          | some value => .real value
          | none => .text text

/-- The setting that a variable is, if it is one. -/
def setting? (entry : String × String) : Option (Key × Setting) :=
  let name := (lowercase entry.1).toList
  if marker.isPrefixOf name then
    some (Key.ofString (String.ofList (dotted (name.drop marker.length))),
      .scalar (some origin) (readValue entry.2))
  else none

def layer (environment : Environment) : Layer :=
  environment.filterMap setting?

end Environment

end HourlyIngest
