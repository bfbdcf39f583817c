import HourlyIngest.Setting.Key
import HourlyIngest.Setting.Value
import HourlyIngest.Text.Case

/-!
# Laying settings over each other

A layer is a list of keys with their settings.  Laid over settings that are there already, each of
its settings replaces the one with the same key, except that tables are merged entry by entry.
Names are kept in lower case, so that letter case does not matter.
-/

namespace HourlyIngest

open Text

/-- Keys with their settings. -/
abbrev Layer := List (Key × Setting)

namespace Setting

/-- The entries of a table; any other setting has none. -/
def entries : Setting → List (String × Setting)
  | .table _ entries => entries
  | _ => []

/-- The setting itself if it is a table, and an empty table in place of any other. -/
def asTable : Setting → Setting
  | .table origin entries => .table origin entries
  | _ => empty

def get? (table : Setting) (name : String) : Option Setting :=
  (table.entries.find? (·.1 == name)).map (·.2)

/-- Give an entry of a table a value; what is no table becomes one. -/
def put (root : Setting) (name : String) (value : Setting) : Setting :=
  match root.asTable with
  | .table origin entries =>
      .table origin <|
        if entries.any (·.1 == name) then
          entries.map fun entry => if entry.1 == name then (name, value) else entry
        else entries ++ [(name, value)]
  | other => other

mutual

/-- Lay a setting over the entry of a table: a table is merged into what is there, any other
setting replaces it. -/
def assign (root : Setting) (name : String) (value : Setting) : Setting :=
  match value with
  | .table _ incoming =>
      let root := root.asTable
      root.put (lowercase name) (merge ((root.get? (lowercase name)).getD empty) incoming)
  | .scalar origin value => root.put (lowercase name) (.scalar origin value)
  | .list origin items => root.put (lowercase name) (.list origin items)

/-- Lay entries over a setting, one after the other. -/
def merge (target : Setting) : List (String × Setting) → Setting
  | [] => target
  | (name, value) :: rest => merge (assign target name value) rest

end

/-- The position that an index means in a list: one below zero counts from the end. -/
def position (index : Int) (length : Nat) : Nat :=
  if 0 ≤ index then index.toNat else length - index.natAbs

/-- Change the item of a list at an index, with empty items up to there; what is no list becomes
one. -/
def changeItem (change : Setting → Setting) (index : Int) (setting : Setting) : Setting :=
  let (origin, items) :=
    match setting with
    | .list origin items => (origin, items)
    | _ => (none, [])
  let place := position index items.length
  let items := items ++ List.replicate (place + 1 - items.length) nil
  .list origin (items.modify place change)

/-- Change the setting that a key leads to, making what is missing on the way. -/
def changeAt (change : Setting → Setting) (root : Setting) : Key → Setting
  | .name name =>
      match root with
      | .table _ _ => root.put name (change ((root.get? name).getD nil))
      | other => other
  | .child parent name =>
      changeAt (fun setting =>
        setting.asTable.put name (change ((setting.asTable.get? name).getD nil))) root parent
  | .item parent index => changeAt (changeItem change index) root parent

/-- Lay a setting over the one that a key leads to. -/
def overlay (root : Setting) (key : Key) (value : Setting) : Setting :=
  match key with
  | .name name => root.assign name value
  | .child parent name => changeAt (fun setting => setting.asTable.assign name value) root parent
  | .item parent index => changeAt (changeItem (fun _ => value) index) root parent

/-- Lay a whole layer over settings. -/
def overlayAll (root : Setting) (layer : Layer) : Setting :=
  layer.foldl (fun root entry => root.overlay entry.1 entry.2) root

end Setting

end HourlyIngest
