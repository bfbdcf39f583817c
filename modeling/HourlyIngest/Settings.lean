import HourlyIngest.Failure
import HourlyIngest.Number.Binary64
import HourlyIngest.Setting.Convert
import HourlyIngest.Setting.Environment
import HourlyIngest.Setting.File
import HourlyIngest.Sql.Insert

/-!
# The settings of a run

The settings come in four layers, each laid over the one before it: the defaults, a settings file,
the environment, and what the command line says.  What the layers amount to is brought into its
types, and then the rules on single values are checked.
-/

namespace HourlyIngest

open Number Text

/-- How the database is reached.  A connection string takes the place of the single fields. -/
structure DatabaseSettings where
  url : Option String := none
  host : String := "localhost"
  port : Nat := 5432
  user : String := "postgres"
  password : Option String := none
  dbname : String := "postgres"
  connectTimeout : Nat := 10
deriving DecidableEq, Repr

structure Settings where
  sourceDirectory : String
  table : String
  batchSize : Nat
  deleteAfterLoad : Bool
  failFast : Bool
  database : DatabaseSettings
deriving DecidableEq, Repr

/-- What the command line says about the settings; what it does not mention is left to the layers
below. -/
structure Overrides where
  sourceDirectory : Option Path := none
  databaseUrl : Option String := none
  table : Option String := none
  batchSize : Option Nat := none
  keepFiles : Bool := false
  failFast : Bool := false
deriving DecidableEq, Repr

namespace Settings

/-! ## Layers -/

/-- The name of the settings file that is looked for when none is given. -/
def defaultFile : Path := encode "noaa-loader"

/-- A setting with a key at the top or one below. -/
def entry (key : Key) (value : Scalar) : Key × Setting :=
  (key, .scalar none value)

/-- A key in the group of the database. -/
def databaseKey (name : String) : Key :=
  .child (.name "database") name

/-- The layer of the defaults.  There is none for the source directory. -/
def defaults : Layer :=
  [entry (.name "table") (.text "noaa_hourly_raw"),
    entry (.name "batch_size") (.integer 4000),
    entry (.name "delete_after_load") (.boolean true),
    entry (.name "fail_fast") (.boolean false),
    entry (databaseKey "host") (.text "localhost"),
    entry (databaseKey "port") (.integer 5432),
    entry (databaseKey "user") (.text "postgres"),
    entry (databaseKey "dbname") (.text "postgres"),
    entry (databaseKey "connect_timeout_secs") (.integer 10)]

/-- A number of 64 bits with its highest bit read as a sign. -/
def signed64 (n : Nat) : Int :=
  Int.bmod n (maxUnsigned64 + 1)

/-- The layer of the command line.  The two switches only ever turn something on. -/
def overrides (given : Overrides) : Layer :=
  (given.sourceDirectory.map fun path => entry (.name "source_dir") (.text (lossy path))).toList ++
    (given.databaseUrl.map fun url => entry (databaseKey "url") (.text url)).toList ++
    (given.table.map fun table => entry (.name "table") (.text table)).toList ++
    (given.batchSize.map fun size =>
      entry (.name "batch_size") (.integer (signed64 size))).toList ++
    (if given.keepFiles then [entry (.name "delete_after_load") (.boolean false)] else []) ++
    (if given.failFast then [entry (.name "fail_fast") (.boolean true)] else [])

/-- What the file and the environment amount to, as one layer.  A single value that the file puts in
the place of a group is gone once the environment sets an entry of the group. -/
def outside (file : Layer) (environment : Environment) : Layer :=
  ((Setting.empty.overlayAll file).overlayAll environment.layer).entries.map fun entry =>
    (Key.ofString entry.1, entry.2)

/-- What all layers amount to. -/
def combine (file : Layer) (environment : Environment) (given : Overrides) : Setting :=
  ((Setting.empty.overlayAll defaults).overlayAll (outside file environment)).overlayAll
    (overrides given)

/-! ## Types -/

/-- Bring an entry of a group into its type, if it is there. -/
def convert? {α : Type} (convert : String → Setting → Except SettingFault α)
    (group : Setting) (path name : String) : Except SettingFault (Option α) :=
  match group.get? name with
  | none => .ok none
  | some setting => (convert (path ++ name) setting).map some

/-- The value of a field that has to be there. -/
def required {α : Type} (name : String) : Option α → Except SettingFault α
  | some value => .ok value
  | none => .error (.missing name)

/-- The group of the database from a table.  All entries are brought into their types before a
missing one is noticed. -/
def databaseOfTable (group : Setting) : Except SettingFault DatabaseSettings := do
  let url ← convert? Setting.toOptionalText group "database." "url"
  let host ← convert? Setting.toText group "database." "host"
  let port ← convert? Setting.toUnsigned16 group "database." "port"
  let user ← convert? Setting.toText group "database." "user"
  let password ← convert? Setting.toOptionalText group "database." "password"
  let dbname ← convert? Setting.toText group "database." "dbname"
  let timeout ← convert? Setting.toUnsigned group "database." "connect_timeout_secs"
  return {
    url := url.join
    host := ← required "host" host
    port := ← required "port" port
    user := ← required "user" user
    password := password.join
    dbname := ← required "dbname" dbname
    connectTimeout := ← required "connect_timeout_secs" timeout }

/-- How messages name the group of the database. -/
def databaseGroup : String := "DatabaseSettings"

/-- The item of a list that stands for a field of the group of the database. -/
private def item {α : Type} (convert : String → Setting → Except SettingFault α)
    (items : List Setting) (index : Nat) : Except SettingFault α :=
  match items[index]? with
  | some setting => convert ("database[" ++ toString index ++ "]") setting
  | none => .error (.shortGroup index databaseGroup 7)

/-- The group of the database from a list, by position. -/
def databaseOfList (items : List Setting) : Except SettingFault DatabaseSettings := do
  return {
    url := ← item Setting.toOptionalText items 0
    host := ← item Setting.toText items 1
    port := ← item Setting.toUnsigned16 items 2
    user := ← item Setting.toText items 3
    password := ← item Setting.toOptionalText items 4
    dbname := ← item Setting.toText items 5
    connectTimeout := ← item Setting.toUnsigned items 6 }

/-- How a message names a single value that stands where a group should. -/
def scalarText : Scalar → String
  | .nil => "unit value"
  | .boolean value => Found.describe (.boolean value)
  | .integer value => "integer \x60" ++ toString value ++ "\x60"
  | .real value => "floating point \x60" ++ value.toPointText ++ "\x60"
  | .text value => Found.describe (.text value)

/-- The group of the database. -/
def databaseOf (setting : Setting) : Except SettingFault DatabaseSettings :=
  match setting with
  | .table origin entries => databaseOfTable (.table origin entries)
  | .list _ items => databaseOfList items
  | .scalar _ value => .error (.notGroup (scalarText value) databaseGroup)

/-- The settings that a table of settings stands for. -/
def ofSetting (root : Setting) : Except SettingFault Settings := do
  let sourceDirectory ← convert? Setting.toText root "" "source_dir"
  let table ← convert? Setting.toText root "" "table"
  let batchSize ← convert? Setting.toUnsigned root "" "batch_size"
  let deleteAfterLoad ← convert? Setting.toBoolean root "" "delete_after_load"
  let failFast ← convert? Setting.toBoolean root "" "fail_fast"
  let database ← convert? (fun _ => databaseOf) root "" "database"
  return {
    sourceDirectory := ← required "source_dir" sourceDirectory
    table := ← required "table" table
    batchSize := ← required "batch_size" batchSize
    deleteAfterLoad := ← required "delete_after_load" deleteAfterLoad
    failFast := ← required "fail_fast" failFast
    database := ← required "database" database }

/-! ## Rules -/

/-- The rule that a text is not empty. -/
def checkText (field value : String) : List Violation :=
  if value = "" then [.empty field] else []

/-- The rules that the settings break, by kind of rule and then by field. -/
def violations (settings : Settings) : List Violation :=
  checkText "database.dbname" settings.database.dbname ++
    checkText "database.host" settings.database.host ++
    checkText "database.user" settings.database.user ++
    checkText "table" settings.table ++
    (if 1 ≤ settings.batchSize ∧ settings.batchSize ≤ Sql.maxBatch then []
      else [.outOfRange "batch_size" 1 Sql.maxBatch settings.batchSize])

/-- The settings from their layers below the command line. -/
def ofLayers (file : Layer) (environment : Environment) (given : Overrides) :
    Except Failure Settings :=
  match ofSetting (combine file environment given) with
  | .error fault => .error (.settings fault)
  | .ok settings =>
      if settings.violations.isEmpty then .ok settings
      else .error (.violations settings.violations)

/-- The settings of a run.  A file that is named has to exist; the default one need not. -/
def load (formats : FileFormats) (fs : FileSystem) (environment : Environment)
    (file : Option Path) (given : Overrides) : Except Failure Settings :=
  match SettingsFile.layer formats fs (file.getD defaultFile) file.isSome with
  | .error fault => .error (.settings fault)
  | .ok layer => ofLayers layer environment given

end Settings

end HourlyIngest
