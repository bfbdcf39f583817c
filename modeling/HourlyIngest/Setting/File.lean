import HourlyIngest.FileSystem.Basic
import HourlyIngest.Json.Reader
import HourlyIngest.Setting.Fault
import HourlyIngest.Setting.Layer
import HourlyIngest.Toml.Reader

/-!
# Settings from a file

A settings file is named with or without its ending.  A regular file of exactly the name is taken,
and its ending has to show its format; otherwise the endings of the formats are appended in turn.
In messages a file is known by its path from the working directory.

Of the formats, TOML and JSON are spelled out here.  How files of the others are read, and which
ending is tried first, is left open (`FileFormats`).
-/

namespace HourlyIngest

open Text

inductive FileFormat where
  | toml
  | json
  | yaml
  | ini
  | ron
  | json5
deriving DecidableEq, Repr

namespace FileFormat

def all : List FileFormat := [toml, json, yaml, ini, ron, json5]

/-- The endings of a format's file names, without the dot. -/
def endings : FileFormat → List Bytes
  | toml => [encode "toml"]
  | json => [encode "json"]
  | yaml => [encode "yaml", encode "yml"]
  | ini => [encode "ini"]
  | ron => [encode "ron"]
  | json5 => [encode "json5"]

end FileFormat

/-- What is left open about the formats: the order in which their endings are tried, and what is
read from a file that is neither TOML nor JSON, by what messages call the file and by its text. -/
structure FileFormats where
  order : List FileFormat
  perm : order.Perm FileFormat.all
  read? : FileFormat → (origin text : String) → Option (List (String × Setting))

namespace FileFormats

/-- TOML and JSON are tried first, and no file of another format keeps to its rules. -/
def plain : FileFormats where
  order := FileFormat.all
  perm := .refl _
  read? := fun _ _ _ => none

variable (formats : FileFormats)

/-- The entries at the top of a file's text, if it keeps to the rules of its format. -/
def parse? (format : FileFormat) (origin text : String) : Option (List (String × Setting)) :=
  match format with
  | .toml => (Toml.parse? text).map (Setting.ofTomlEntries (some origin))
  | .json =>
      match Json.parse? text with
      | some (.object members) => some (Setting.ofJsonMembers (some origin) members)
      | _ => none
  | other => formats.read? other origin text

/-- The format that the ending of a file shows. -/
def ofPath? (path : Path) : Option FileFormat :=
  formats.order.find? fun format => (Path.extension? path).any format.endings.contains

end FileFormats

namespace SettingsFile

def workingPath (fs : FileSystem) : Path :=
  fs.working.flatMap (Path.slash :: ·)

def absolute (fs : FileSystem) (name : Path) : Path :=
  Path.join (workingPath fs) name

/-- The path without slashes and dots at its end, with an ending appended to its last name. -/
def withEnding (path : Path) (ending : Bytes) : Path :=
  match (Path.components path).reverse with
  | .name last :: above =>
      Path.ofComponents (.name (last ++ 0x2E :: ending) :: above).reverse
  | _ => path

/-- The files that a path without its ending may mean, and their formats. -/
def candidates (formats : FileFormats) (path : Path) : List (Path × FileFormat) :=
  formats.order.flatMap fun format =>
    format.endings.map fun ending => (withEnding path ending, format)

/-- The file that a name means, and its format. -/
def find (formats : FileFormats) (fs : FileSystem) (name : Path) :
    Except SettingFault (Path × FileFormat) :=
  let path := absolute fs name
  if fs.isFile path then
    match formats.ofPath? path with
    | some format => .ok (path, format)
    | none => .error (.unknownFormat (Path.display path))
  else
    match (candidates formats path).find? fun candidate => fs.isFile candidate.1 with
    | some candidate => .ok candidate
    | none => .error (.fileNotFound (Path.display name))

/-- The components that lead from one directory to a path. -/
def relativeComponents : List Path.Component → List Path.Component → List Path.Component
  | a :: rest, b :: base =>
      if a = b then relativeComponents rest base
      else (b :: base).map (fun _ => .parent) ++ a :: rest
  | [], base => base.map fun _ => .parent
  | rest, [] => rest

/-- How messages name a file. -/
def label (fs : FileSystem) (path : Path) : String :=
  Path.display (Path.ofComponents
    (relativeComponents (Path.components path) (Path.components (workingPath fs))))

def readText (fs : FileSystem) (path : Path) : Except SettingFault String :=
  match fs.read path with
  | .ok (some bytes) =>
      match decode? bytes with
      | some text => .ok text
      | none => .error .fileNotText
  | .ok none => .error (.fileUnreadable IoFault.isDirectory.message)
  | .error fault => .error (.fileUnreadable fault.message)

/-- The file that a name means: how messages name it, its format and its text. -/
def open? (formats : FileFormats) (fs : FileSystem) (name : Path) :
    Except SettingFault (String × FileFormat × String) :=
  match find formats fs name with
  | .error fault => .error fault
  | .ok (path, format) => (readText fs path).map fun text => (label fs path, format, text)

/-- The layer of a settings file.  A file that is not required may be missing or unreadable, but
what is read of it has to keep to the rules of its format. -/
def layer (formats : FileFormats) (fs : FileSystem) (name : Path) (required : Bool) :
    Except SettingFault Layer :=
  match open? formats fs name with
  | .error fault => if required then .error fault else .ok []
  | .ok (label, format, text) =>
      match formats.parse? format label text with
      | none => .error (.malformed label)
      | some entries => .ok (entries.map fun entry => (Key.ofString entry.1, entry.2))

end SettingsFile

end HourlyIngest
