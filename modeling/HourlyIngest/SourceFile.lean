import HourlyIngest.Failure
import HourlyIngest.FileSystem.Basic
import HourlyIngest.Text.Case

/-!
# Source files

A source file is known by its path and by its name, the last component of the path.  A scan lists
the source files that stand directly in a directory: regular files whose names end in `.csv` in
any letter case, sorted by name and then by path, so that the order in which the directory is
enumerated does not show.
-/

namespace HourlyIngest

open Text

/-- A file that waits in the source directory. -/
structure SourceFile where
  name : String
  path : Path
deriving DecidableEq, Repr

namespace SourceFile

/-- The ending of the names of source files. -/
def ending : List Char := ['.', 'c', 's', 'v']

/-- Whether a name has the ending, letter case aside. -/
def isCsvName (name : String) : Bool :=
  ending.isSuffixOf (lowercase name).toList

/-- The file at a path.  A path without a last name has the empty name. -/
def ofPath (path : Path) : SourceFile :=
  ⟨((Path.fileName? path).map lossy).getD "", path⟩

/-- Whether two files have the same name and the same components. -/
def same (a b : SourceFile) : Bool :=
  a.name == b.name && Path.components a.path == Path.components b.path

/-- The order of files: by the bytes of their names, then by the components of their paths. -/
def compare (a b : SourceFile) : Ordering :=
  match Path.compareBytes (encode a.name) (encode b.name) with
  | .eq => Path.compareComponents (Path.components a.path) (Path.components b.path)
  | other => other

/-- Whether a file may stand before another. -/
def precedes (a b : SourceFile) : Bool :=
  compare a b != .gt

/-- The files in ascending order; files that compare equal keep their order. -/
def sort (files : List SourceFile) : List SourceFile :=
  files.mergeSort precedes

/-- The source file that a child of a directory is, if it is one. -/
def ofChild? (directory : Path) (child : Bytes × Node) : Option SourceFile :=
  match child.2 with
  | .file _ =>
      if isCsvName (lossy child.1) then some (ofPath (Path.join directory child.1)) else none
  | _ => none

end SourceFile

/-- The source files in a directory. -/
def scan (fs : FileSystem) (directory : Path) : Except Failure (List SourceFile) :=
  match fs.lookup .node directory with
  | .ok (place, .directory) =>
      .ok (SourceFile.sort ((fs.children place).filterMap (SourceFile.ofChild? directory)))
  | _ => .error (.directoryNotFound directory)

/-- How failures name a file: by its last name, or by its whole path where it has none. -/
def fileLabel (path : Path) : String :=
  ((Path.fileName? path).map lossy).getD (Path.display path)

end HourlyIngest
