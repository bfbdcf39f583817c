import HourlyIngest.Number.Numeral

/-!
# The options of the command line

There are two commands, each with options of its own; three options belong to every level and may
stand before or after the command.
-/

namespace HourlyIngest.CommandLine

/-- Where options may stand: before the command, or after it. -/
inductive Level where
  | top
  | load
  | check
deriving DecidableEq, Repr

inductive Flag where
  | sourceDir
  | databaseUrl
  | table
  | verbose
  | batchSize
  | logFile
  | config
  | keepFiles
  | failFast
  | quiet
  | report
  | help
  | version
deriving DecidableEq, Repr

/-- What stands behind an option. -/
inductive Argument where
  | switch
  | text
  /-- A path, which is not empty. -/
  | path
  /-- A whole number of 64 bits. -/
  | number
deriving DecidableEq, Repr

namespace Flag

def long : Flag → String
  | sourceDir => "source-dir"
  | databaseUrl => "database-url"
  | table => "table"
  | verbose => "verbose"
  | batchSize => "batch-size"
  | logFile => "log-file"
  | config => "config"
  | keepFiles => "keep-files"
  | failFast => "fail-fast"
  | quiet => "quiet"
  | report => "report"
  | help => "help"
  | version => "version"

def short? : Flag → Option Char
  | sourceDir => some 's'
  | table => some 't'
  | verbose => some 'v'
  | batchSize => some 'b'
  | config => some 'c'
  | quiet => some 'q'
  | help => some 'h'
  | version => some 'V'
  | _ => none

def argument : Flag → Argument
  | sourceDir => .path
  | databaseUrl => .text
  | table => .text
  | batchSize => .number
  | logFile => .path
  | config => .path
  | report => .path
  | _ => .switch

/-- How the help names the value of the option. -/
def valueName : Flag → String
  | sourceDir => "SOURCE_DIR"
  | databaseUrl => "DATABASE_URL"
  | table => "TABLE"
  | batchSize => "BATCH_SIZE"
  | logFile => "LOG_FILE"
  | config => "CONFIG"
  | report => "REPORT"
  | _ => ""

def about : Flag → String
  | sourceDir => "Directory containing the hourly CSV files"
  | databaseUrl => "PostgreSQL connection string (key=value or URI)"
  | table => "Destination table [default: noaa_hourly_raw]"
  | verbose => "Enable verbose logging"
  | batchSize => "Rows per INSERT statement [default: 4000]"
  | logFile => "Log file path"
  | config => "Configuration file [default: ./noaa-loader.toml if present]"
  | keepFiles => "Leave source files in place after loading"
  | failFast => "Stop at the first file that fails"
  | quiet => "Hide the progress bar"
  | report => "Write a JSON report of the run to this path"
  | help => "Print help"
  | version => "Print version"

/-- The option with its two dashes, and the name of its value if it takes one. -/
def display (flag : Flag) : String :=
  "--" ++ flag.long ++
    (if flag.argument = .switch then "" else " <" ++ flag.valueName ++ ">")

end Flag

namespace Level

/-- The options of a level, in the order of its help. -/
def flags : Level → List Flag
  | top => [.verbose, .logFile, .config, .help, .version]
  | load =>
      [.sourceDir, .databaseUrl, .table, .verbose, .batchSize, .logFile, .config, .keepFiles,
        .failFast, .quiet, .report, .help]
  | check => [.sourceDir, .verbose, .logFile, .config, .help]

def findLong? (level : Level) (name : String) : Option Flag :=
  level.flags.find? (·.long == name)

def findShort? (level : Level) (letter : Char) : Option Flag :=
  level.flags.find? (·.short? == some letter)

end Level

/-! ## Help -/

/-- The name by which the program is called. -/
def programName : String := "noaa-loader"

def programVersion : String := "0.1.0"

inductive HelpPage where
  | level (level : Level)
  | help
deriving DecidableEq, Repr

def Level.about : Level → String
  | .top => "Load NOAA ISD hourly CSV files into PostgreSQL and remove them"
  | .load => "Load every CSV file in a directory, deleting each once committed"
  | .check => "Read every CSV file and report what a load would do, without a database"

def helpAbout : String := "Print this message or the help of the given subcommand(s)"

/-- Text with blanks behind it up to a width. -/
def padRight (width : Nat) (text : String) : String :=
  text ++ String.ofList (List.replicate (width - text.length) ' ')

/-- Lines of two columns, the second beginning two blanks behind the longest first one. -/
def columns (rows : List (String × String)) : String :=
  let width := (rows.map fun row => row.1.length).foldl max 0
  String.join (rows.map fun row => "  " ++ padRight width row.1 ++ "  " ++ row.2 ++ "\n")

/-- How the help spells an option. -/
def Flag.spelling (flag : Flag) : String :=
  (match flag.short? with
    | some letter => "-" ++ letter.toString ++ ", "
    | none => "    ") ++ flag.display

def Level.optionList (level : Level) : String :=
  "Options:\n" ++ columns (level.flags.map fun flag => (flag.spelling, flag.about))

def HelpPage.text : HelpPage → String
  | .level .top =>
      Level.about .top ++ "\n\nUsage: " ++ programName ++ " [OPTIONS] <COMMAND>\n\nCommands:\n" ++
        columns [("load", Level.about .load), ("check", Level.about .check), ("help", helpAbout)] ++
        "\n" ++ Level.optionList .top
  | .level .load =>
      Level.about .load ++ "\n\nUsage: " ++ programName ++ " load [OPTIONS]\n\n" ++
        Level.optionList .load
  | .level .check =>
      Level.about .check ++ "\n\nUsage: " ++ programName ++ " check [OPTIONS]\n\n" ++
        Level.optionList .check
  | .help =>
      helpAbout ++ "\n\nUsage: " ++ programName ++ " help [COMMAND]...\n\nArguments:\n" ++
        columns [("[COMMAND]...", "Print help for the subcommand(s)")]

end HourlyIngest.CommandLine
