import HourlyIngest.Number.Binary64

/-!
# TOML values

A document is a table.  While it is read, a table remembers how it came about, because that decides
what may still be added to it: a header defines a table once, dotted keys add only to tables that
dotted keys have made, and a table between braces is complete.
-/

namespace HourlyIngest

open Number

/-- How a table came about. -/
inductive TableForm where
  /-- By its own header. -/
  | standard
  /-- On the way to a header further down. -/
  | implied
  /-- On the way to a dotted key. -/
  | dotted
  /-- Between braces. -/
  | inline
deriving DecidableEq, Repr

/-- A TOML value.  A date or a time is kept in its normal spelling. -/
inductive Toml where
  | string (value : String)
  | integer (value : Int)
  | real (value : Binary64)
  | boolean (value : Bool)
  | moment (spelling : String)
  | array (items : List Toml)
  | table (form : TableForm) (entries : List (String × Toml))
  /-- Tables that each have a header with doubled brackets. -/
  | tables (items : List (List (String × Toml)))

namespace Toml

abbrev Entries := List (String × Toml)

def find? (entries : Entries) (key : String) : Option Toml :=
  (entries.find? (·.1 == key)).map (·.2)

def set (entries : Entries) (key : String) (value : Toml) : Entries :=
  if entries.any (·.1 == key) then
    entries.map fun entry => if entry.1 == key then (key, value) else entry
  else entries ++ [(key, value)]

/-- Change the table at the end of a path of keys, making the tables on the way that are missing.
The path is that of a dotted key or of a header. -/
def modifyAt (dotted : Bool) (change : TableForm → Entries → Option Entries) (form : TableForm)
    (entries : Entries) : List String → Option Entries
  | [] => change form entries
  | key :: rest =>
      match find? entries key with
      | none =>
          let made := if dotted then TableForm.dotted else TableForm.implied
          (modifyAt dotted change made [] rest).map fun inner =>
            set entries key (.table made inner)
      | some (.table inner below) =>
          if inner = .inline ∨ (dotted ∧ inner = .standard) then none
          else
            (modifyAt dotted change inner below rest).map fun below =>
              set entries key (.table inner below)
      | some (.tables items) =>
          match items.getLast? with
          | none => none
          | some last =>
              (modifyAt dotted change .standard last rest).map fun last =>
                set entries key (.tables (items.dropLast ++ [last]))
      | some _ => none

/-- Add a new entry at the end of a dotted key. -/
def insertDotted (entries : Entries) (path : List String) (key : String) (value : Toml) :
    Option Entries :=
  modifyAt true
    (fun form inner =>
      if (path.isEmpty || form = .dotted) && (find? inner key).isNone then
        some (inner ++ [(key, value)])
      else none)
    .standard entries path

/-! ## Documents -/

/-- A document that is being read: what stands under the headers before the last one, the path of
the last header, whether its brackets are doubled, and what stands under it so far. -/
structure Draft where
  root : Entries := []
  path : List String := []
  doubled : Bool := false
  current : Entries := []

namespace Draft

/-- Put what stands under the last header into the document. -/
def close (draft : Draft) : Option Entries :=
  match draft.path.getLast? with
  | none => some draft.current
  | some key =>
      modifyAt false
        (fun _ inner =>
          match find? inner key with
          | some (.tables items) =>
              if draft.doubled then some (set inner key (.tables (items ++ [draft.current])))
              else none
          | some _ => none
          | none =>
              some (inner ++ [(key, if draft.doubled then .tables [draft.current]
                else .table .standard draft.current)]))
        .standard draft.root draft.path.dropLast

/-- What a header finds where its table is to stand. -/
def found (entries : Entries) : List String → Option Toml
  | [] => none
  | [key] => find? entries key
  | key :: next :: rest =>
      match find? entries key with
      | some (.table _ inner) => found inner (next :: rest)
      | some (.tables items) => found (items.getLast?.getD []) (next :: rest)
      | _ => none

/-- Begin the table of a header.  What headers further down have already put into it is taken out
of its place, to come back behind its neighbours. -/
def header (draft : Draft) (path : List String) (doubled : Bool) : Option Draft := do
  let root ← draft.close
  let key ← path.getLast?
  let current :=
    match found root path, doubled with
    | some (.table .implied entries), false => entries
    | _, _ => []
  -- The way to the table is made even if nothing comes to stand there.
  let root ← modifyAt false
    (fun _ inner =>
      match find? inner key, doubled with
      | none, false => some inner
      | none, true => some (inner ++ [(key, .tables [])])
      | some (.table .implied _), false => some (inner.filter (·.1 != key))
      | some (.tables _), true => some inner
      | some _, _ => none)
    .standard root path.dropLast
  return { root := root, path := path, doubled := doubled, current := current }

/-- Add an entry under the last header. -/
def entry (draft : Draft) (path : List String) (key : String) (value : Toml) : Option Draft :=
  (insertDotted draft.current path key value).map fun current => { draft with current := current }

end Draft

end Toml

end HourlyIngest
