import HourlyIngest.Json.Value
import HourlyIngest.Number.Numeral
import HourlyIngest.Toml.Value

/-!
# Values of settings

A setting is a single value, a list or a table of further settings.  It remembers where it came
from, as far as that is known: the name of a file, or the environment.
-/

namespace HourlyIngest

open Number

inductive Scalar where
  | nil
  | boolean (value : Bool)
  | integer (value : Int)
  | real (value : Binary64)
  | text (value : String)
deriving DecidableEq

/-- A setting with its origin. -/
inductive Setting where
  | scalar (origin : Option String) (value : Scalar)
  | list (origin : Option String) (items : List Setting)
  | table (origin : Option String) (entries : List (String × Setting))

namespace Setting

/-- A table that has nothing in it and comes from nowhere. -/
def empty : Setting := .table none []

def nil : Setting := .scalar none .nil

mutual

def ofToml (origin : Option String) : Toml → Setting
  | .string value => .scalar origin (.text value)
  | .integer value => .scalar origin (.integer value)
  | .real value => .scalar origin (.real value)
  | .boolean value => .scalar origin (.boolean value)
  | .moment spelling => .scalar origin (.text spelling)
  | .array items => .list origin (ofTomlItems origin items)
  | .table _ entries => .table origin (ofTomlEntries origin entries)
  | .tables items => .list origin (ofTomlTables origin items)

def ofTomlItems (origin : Option String) : List Toml → List Setting
  | [] => []
  | item :: rest => ofToml origin item :: ofTomlItems origin rest

def ofTomlEntries (origin : Option String) : List (String × Toml) → List (String × Setting)
  | [] => []
  | (key, value) :: rest => (key, ofToml origin value) :: ofTomlEntries origin rest

def ofTomlTables (origin : Option String) : List (List (String × Toml)) → List Setting
  | [] => []
  | entries :: rest => .table origin (ofTomlEntries origin entries) :: ofTomlTables origin rest

end

mutual

/-- The setting that a JSON value is.  A whole number that needs more than 63 bits becomes a
double. -/
def ofJson (origin : Option String) : Json → Setting
  | .null => .scalar origin .nil
  | .boolean value => .scalar origin (.boolean value)
  | .integer value =>
      .scalar origin
        (if value ≤ Int.ofNat maxSigned64 then .integer value else .real (Binary64.ofInt value))
  | .real value => .scalar origin (.real value)
  | .string value => .scalar origin (.text value)
  | .array items => .list origin (ofJsonItems origin items)
  | .object members => .table origin (ofJsonMembers origin members)

def ofJsonItems (origin : Option String) : List Json → List Setting
  | [] => []
  | item :: rest => ofJson origin item :: ofJsonItems origin rest

def ofJsonMembers (origin : Option String) : List (String × Json) → List (String × Setting)
  | [] => []
  | (name, value) :: rest => (name, ofJson origin value) :: ofJsonMembers origin rest

end

end Setting

end HourlyIngest
