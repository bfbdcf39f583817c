import HourlyIngest.Text.Utf8

/-!
# Paths

A path is a sequence of bytes in which slashes divide names.  It can be looked at in two ways.  Its
*components* leave out repeated slashes, and single dots except one at the beginning: they decide
the name of a file and the order of paths.  Its *segments* are what the file system walks along,
one after the other; an empty one at the end says that the path ends in a slash.
-/

namespace HourlyIngest

open Text

/-- A path as it is written. -/
abbrev Path := Bytes

namespace Path

def ofString (text : String) : Path :=
  encode text

/-- How a message shows a path. -/
def display (path : Path) : String :=
  lossy path

def slash : UInt8 := 0x2F

/-- The name of a directory in itself. -/
def dot : Bytes := [0x2E]

/-- The name of a directory's parent. -/
def dotDot : Bytes := [0x2E, 0x2E]

def isAbsolute (path : Path) : Bool :=
  path.head? == some slash

/-- The parts between the slashes, empty ones included. -/
def split : Path → List Bytes
  | [] => [[]]
  | byte :: rest =>
      if byte = slash then [] :: split rest
      else
        match split rest with
        | [] => [[byte]]
        | part :: parts => (byte :: part) :: parts

/-- Whether a path ends in a slash, and so can only be a directory's. -/
def endsInSlash (path : Path) : Bool :=
  path.getLast? == some slash

/-- The names between the slashes. -/
def names (path : Path) : List Bytes :=
  (split path).filter (!·.isEmpty)

/-- The names that are walked along, and an empty one for a slash at the end. -/
def segments (path : Path) : List Bytes :=
  if endsInSlash path then names path ++ [[]] else names path

/-- A component of a path.  A component earlier in this list is smaller than a later one. -/
inductive Component where
  | root
  | current
  | parent
  | name (bytes : Bytes)
deriving DecidableEq, Repr

/-- The component that a part stands for. -/
def Component.ofPart (part : Bytes) : Component :=
  if part = dot then .current else if part = dotDot then .parent else .name part

def components (path : Path) : List Component :=
  let parts := (names path).map Component.ofPart
  let later := parts.filter (· != .current)
  if isAbsolute path then .root :: later
  else if parts.head? = some .current then .current :: later
  else later

/-- The last component, if it is a name. -/
def fileName? (path : Path) : Option Bytes :=
  match (components path).getLast? with
  | some (.name bytes) => some bytes
  | _ => none

/-- The bytes that a component is written with. -/
def Component.bytes : Component → Bytes
  | .root => []
  | .current => dot
  | .parent => dotDot
  | .name bytes => bytes

def ofComponents (components : List Component) : Path :=
  match components with
  | [.root] => [slash]
  | components => [slash].intercalate (components.map Component.bytes)

/-- The path below a directory. -/
def join (directory name : Path) : Path :=
  if isAbsolute name then name
  else if directory.isEmpty || endsInSlash directory then directory ++ name
  else directory ++ slash :: name

/-! ## Paths as they are written -/

/-- Whether a part adds nothing to the path in front of it. -/
def isSilent (part : Bytes) : Bool :=
  part.isEmpty || part == dot

/-- Parts, the last one first, without the silent ones at the end of the path. -/
def trimEnd : List Bytes → List Bytes
  | part :: next :: rest => if isSilent part then trimEnd (next :: rest) else part :: next :: rest
  | parts => parts

/-- The path with the given parts, the last one first. -/
def ofParts (parts : List Bytes) : Path :=
  if parts = [[]] then [slash] else [slash].intercalate parts.reverse

/-- The last part of a path is taken as a file name: everything in front of its last dot is the
stem, unless the dot stands at the beginning. -/
def extension? (path : Path) : Option Bytes :=
  match fileName? path with
  | none => none
  | some name =>
      let after := name.reverse.takeWhile (· != 0x2E)
      if after.length + 1 < name.length then some after.reverse else none

/-! ## The order of paths -/

def compareBytes : Bytes → Bytes → Ordering
  | [], [] => .eq
  | [], _ :: _ => .lt
  | _ :: _, [] => .gt
  | a :: as, b :: bs =>
      if a < b then .lt else if b < a then .gt else compareBytes as bs

/-- The place of a kind of component among the kinds. -/
def Component.rank : Component → Nat
  | .root => 0
  | .current => 1
  | .parent => 2
  | .name _ => 3

/-- The order of components: by kind, names among themselves by their bytes. -/
def Component.compare (a b : Component) : Ordering :=
  match a, b with
  | .name a, .name b => compareBytes a b
  | a, b => Ord.compare a.rank b.rank

def compareComponents : List Component → List Component → Ordering
  | [], [] => .eq
  | [], _ :: _ => .lt
  | _ :: _, [] => .gt
  | a :: as, b :: bs =>
      match a.compare b with
      | .eq => compareComponents as bs
      | other => other

end Path

end HourlyIngest
