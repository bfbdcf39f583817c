import HourlyIngest.FileSystem.Fault
import HourlyIngest.FileSystem.Path

/-!
# File systems

A file system is a list of entries, each an absolute place with what stands there; the order of the
list is the order in which a directory is enumerated.  The root is a directory without an entry of
its own.  Paths are walked from the working directory, following symbolic links, of which one walk
may meet forty.

Reading, writing and removing may be forbidden at single places, be it for want of permission, on a
medium that is read-only, or because the medium fails.  Walking along a path and enumerating a
directory are never forbidden.
-/

namespace HourlyIngest

open Text

/-- What stands at a place. -/
inductive Node where
  | file (bytes : Bytes)
  | directory
  | link (target : Path)
deriving DecidableEq, Repr

/-- A place: the names on the way from the root. -/
abbrev Location := List Bytes

/-- What may be forbidden at a place. -/
inductive Access where
  /-- Read the bytes of a file. -/
  | read
  /-- Put a file or a directory there, or change the bytes of the file that is there. -/
  | write
  /-- Take the entry away. -/
  | remove
deriving DecidableEq, Repr

/-- A file system, the directory in which paths that are not absolute begin, and what is forbidden
at which places, with the faults that come of it. -/
structure FileSystem where
  entries : List (Location × Node)
  working : Location
  forbidden : List ((Access × Location) × IoFault) := []
deriving DecidableEq, Repr

namespace FileSystem

/-- What stands at a place. -/
def node? (fs : FileSystem) (place : Location) : Option Node :=
  if place = [] then some .directory
  else (fs.entries.find? (·.1 == place)).map (·.2)

/-- Take the entry at a place away. -/
def erase (fs : FileSystem) (place : Location) : FileSystem :=
  { fs with entries := fs.entries.filter (·.1 != place) }

/-- Put a node at a place; an entry that stands there already is changed where it stands. -/
def put (fs : FileSystem) (place : Location) (node : Node) : FileSystem :=
  if fs.entries.any (·.1 == place) then
    { fs with entries := fs.entries.map fun entry =>
        if entry.1 == place then (place, node) else entry }
  else { fs with entries := fs.entries ++ [(place, node)] }

/-- The fault of an attempt at a place, if it is forbidden. -/
def forbids? (fs : FileSystem) (access : Access) (place : Location) : Option IoFault :=
  (fs.forbidden.find? (·.1 == (access, place))).map (·.2)

/-! ## Walking along a path -/

/-- What the last name of a path is wanted for. -/
inductive Purpose where
  /-- The node that it leads to, behind all links. -/
  | node
  /-- The entry itself, be it a link. -/
  | entry
  /-- A file that may have to be made. -/
  | file
deriving DecidableEq, Repr

/-- Whether the name, with what is left of the path behind it, can only be a directory's. -/
def meansDirectory (name : Bytes) (rest : List Bytes) : Bool :=
  rest == [[]] || (rest.isEmpty && (name.isEmpty || name == Path.dot || name == Path.dotDot))

def maxName : Nat := 255

def maxPath : Nat := 4095

/-- Walk from a place along names.  `onLink` goes on from a directory along the names that a link
stands for.  The place reached need not exist, but all places on the way have to be
directories. -/
def walkWith (fs : FileSystem) (purpose : Purpose)
    (onLink : Location → List Bytes → Except IoFault Location) (here : Location) :
    List Bytes → Except IoFault Location
  | [] => .ok here
  | name :: rest =>
      match fs.node? here with
      | none => .error .notFound
      | some .directory =>
          if purpose = .file && meansDirectory name rest then .error .isDirectory
          else if Path.isSilent name then walkWith fs purpose onLink here rest
          else if name = Path.dotDot then walkWith fs purpose onLink here.dropLast rest
          else if maxName < name.length then .error .nameTooLong
          else
            match fs.node? (here ++ [name]) with
            | some (.link target) =>
                if rest.isEmpty && purpose = .entry then .ok (here ++ [name])
                else
                  onLink (if Path.isAbsolute target then [] else here)
                    (Path.segments target ++ rest)
            | _ => walkWith fs purpose onLink (here ++ [name]) rest
      | some _ => .error .notDirectory

/-- Walk along names with a number of links still allowed. -/
def walk (fs : FileSystem) (purpose : Purpose) :
    Nat → Location → List Bytes → Except IoFault Location
  | 0 => walkWith fs purpose fun _ _ => .error .tooManyLinks
  | links + 1 => walkWith fs purpose (walk fs purpose links)

/-- The number of symbolic links that one walk may meet. -/
def maxLinks : Nat := 40

/-- Where the walk along a path begins. -/
def startOf (fs : FileSystem) (path : Path) : Location :=
  if Path.isAbsolute path then [] else fs.working

/-- The place that a path leads to; its last name need not exist.  An entry may be named with a
slash behind it. -/
def locate (fs : FileSystem) (purpose : Purpose) (path : Path) : Except IoFault Location :=
  if path.contains 0 then .error .nulInPath
  else if path.isEmpty then .error .notFound
  else if maxPath < path.length then .error .nameTooLong
  else
    walk fs purpose maxLinks (fs.startOf path)
      (if purpose = .entry then Path.names path else Path.segments path)

/-- The node at the end of a path, and its place. -/
def lookup (fs : FileSystem) (purpose : Purpose) (path : Path) :
    Except IoFault (Location × Node) :=
  match fs.locate purpose path with
  | .error fault => .error fault
  | .ok place =>
      match fs.node? place with
      | some node => .ok (place, node)
      | none => .error .notFound

/-- Whether a path leads to a directory, possibly through links. -/
def isDirectory (fs : FileSystem) (path : Path) : Bool :=
  match fs.lookup .node path with
  | .ok (_, .directory) => true
  | _ => false

/-- Whether a path leads to a regular file, possibly through links. -/
def isFile (fs : FileSystem) (path : Path) : Bool :=
  match fs.lookup .node path with
  | .ok (_, .file _) => true
  | _ => false

/-! ## Operations -/

/-- What stands directly in a directory, in the order of enumeration. -/
def children (fs : FileSystem) (place : Location) : List (Bytes × Node) :=
  fs.entries.filterMap fun entry =>
    match entry.1.getLast? with
    | some name => if entry.1.dropLast = place then some (name, entry.2) else none
    | none => none

/-- Open a path for reading: the bytes of a file, or the fault that reading a directory meets. -/
def read (fs : FileSystem) (path : Path) : Except IoFault (Option Bytes) :=
  match fs.lookup .node path with
  | .error fault => .error fault
  | .ok (place, .file bytes) =>
      match fs.forbids? .read place with
      | some fault => .error fault
      | none => .ok (some bytes)
  | .ok _ => .ok none

/-- Remove a file or a link; a directory stays. -/
def remove (fs : FileSystem) (path : Path) : Except IoFault FileSystem :=
  match fs.lookup .entry path with
  | .error fault => .error fault
  | .ok (_, .directory) => .error .isDirectory
  | .ok (place, _) =>
      if Path.endsInSlash path then .error .notDirectory
      else
        match fs.forbids? .remove place with
        | some fault => .error fault
        | none => .ok (fs.erase place)

/-- Create a file or replace the bytes of one. -/
def write (fs : FileSystem) (path : Path) (bytes : Bytes) : Except IoFault FileSystem :=
  match fs.locate .file path with
  | .error fault => .error fault
  | .ok place =>
      if fs.node? place = some .directory then .error .isDirectory
      else
        match fs.forbids? .write place with
        | some fault => .error fault
        | none => .ok (fs.put place (.file bytes))

/-- Create a directory whose parent exists. -/
def makeDirectory (fs : FileSystem) (path : Path) : Except IoFault FileSystem :=
  match fs.locate .entry path with
  | .error fault => .error fault
  | .ok place =>
      if (fs.node? place).isSome then .error .alreadyExists
      else
        match fs.forbids? .write place with
        | some fault => .error fault
        | none => .ok (fs.put place .directory)

/-- Create a directory and those above it that are missing.  The parts of its path are given with
the last one first.  Directories made before a fault is met stay. -/
def makeAlong (fs : FileSystem) : List Bytes → Except IoFault Unit × FileSystem
  | [] => (.ok (), fs)
  | part :: above =>
      if Path.isSilent part && !above.isEmpty then makeAlong fs above
      else
        let path := Path.ofParts (part :: above)
        match fs.makeDirectory path with
        | .ok made => (.ok (), made)
        | .error fault =>
            if fault = .notFound then
              match makeAlong fs above with
              | (.error fault, made) => (.error fault, made)
              | (.ok _, made) =>
                  match made.makeDirectory path with
                  | .ok made => (.ok (), made)
                  | .error fault =>
                      (if made.isDirectory path then .ok () else .error fault, made)
            else (if fs.isDirectory path then .ok () else .error fault, fs)

/-- Create a directory and those above it that are missing. -/
def makeDirectories (fs : FileSystem) (path : Path) : Except IoFault Unit × FileSystem :=
  fs.makeAlong (Path.split path).reverse

/-- Create the directories above the last name of a path. -/
def makeParents (fs : FileSystem) (path : Path) : Except IoFault Unit × FileSystem :=
  fs.makeAlong ((Path.trimEnd (Path.split path).reverse).drop 1)

/-- The paths of everything below a place, relative to it; those of directories end in a slash. -/
def listing (fs : FileSystem) (place : Location) : List Bytes :=
  let below := fs.entries.filterMap fun entry =>
    if place.isPrefixOf entry.1 && entry.1 != place then
      let names := [Path.slash].intercalate (entry.1.drop place.length)
      some (if entry.2 = .directory then names ++ [Path.slash] else names)
    else none
  below.mergeSort fun a b => Path.compareBytes a b != .gt

end FileSystem

end HourlyIngest
