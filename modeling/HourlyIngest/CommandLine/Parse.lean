import HourlyIngest.CommandLine.Option
import HourlyIngest.Text.Plain

/-!
# Reading the command line

Arguments are taken one after the other.  An option that takes a value may have it attached, or
waits for it: the argument after it is its value unless that looks like an option.  The value of an
option is looked at when the next option comes up or the arguments of its level end, and an
argument that fits nowhere is reported before that.  Options before the command are looked at last.
-/

namespace HourlyIngest.CommandLine

open Number Text

/-- Why a command line is not accepted, or what it asks for in the place of a run. -/
inductive UsageFault where
  | valueMissing (flag : Flag)
  | valueNotTaken (flag : Flag) (value : String)
  | repeated (flag : Flag)
  | notNumber (flag : Flag) (value : String) (fault : NumeralFault)
  | unknownArgument (argument : String)
  | unknownCommand (name : String)
  | commandMissing
  /-- Nothing was said at all. -/
  | nothingGiven
  | helpWanted (page : HelpPage)
  | versionWanted
deriving DecidableEq, Repr

namespace UsageFault

def exitCode : UsageFault → Nat
  | helpWanted _ => 0
  | versionWanted => 0
  | _ => 2

/-- What is shown.  Texts of the user are repeated without commands to the terminal. -/
def message : UsageFault → String
  | valueMissing flag =>
      "error: a value is required for '" ++ flag.display ++ "' but none was supplied"
  | valueNotTaken flag value =>
      "error: unexpected value '" ++ plain value ++ "' for '" ++ flag.display ++
        "' found; no more were expected"
  | repeated flag =>
      "error: the argument '" ++ flag.display ++ "' cannot be used multiple times"
  | notNumber flag value fault =>
      "error: invalid value '" ++ plain value ++ "' for '" ++ flag.display ++ "': " ++ fault.message
  | unknownArgument argument => "error: unexpected argument '" ++ plain argument ++ "' found"
  | unknownCommand name => "error: unrecognized subcommand '" ++ plain name ++ "'"
  | commandMissing =>
      "error: '" ++ programName ++ "' requires a subcommand but one was not provided"
  | nothingGiven => HelpPage.text (.level .top)
  | helpWanted page => page.text
  | versionWanted => programName ++ " " ++ programVersion ++ "\n"

/-- Whether a text was asked for, or has to do for a run, rather than that a rule was broken. -/
def isPage : UsageFault → Bool
  | nothingGiven | helpWanted _ | versionWanted => true
  | _ => false

/-- What a report of the fault begins with: a page in full, an error's first line. -/
def headline (fault : UsageFault) : String :=
  if fault.isPage then fault.message else firstLine fault.message

end UsageFault

/-! ## Options of one level -/

inductive Value where
  | on
  | text (text : String)
  | number (number : Nat)
deriving DecidableEq, Repr

/-- What has been read of a level.  `pending` is an option whose value has not been looked at yet;
`awaiting` says that the value itself is still to come. -/
structure Progress where
  values : List (Flag × Value) := []
  pending : Option (Flag × Option String) := none
  awaiting : Bool := false
deriving DecidableEq, Repr

namespace Progress

def value? (progress : Progress) (flag : Flag) : Option Value :=
  (progress.values.find? (·.1 == flag)).map (·.2)

/-- The value that a text is for an option. -/
def readValue (flag : Flag) (text : String) : Except UsageFault Value :=
  match flag.argument with
  | .switch => .ok .on
  | .text => .ok (.text text)
  | .path => if text = "" then .error (.valueMissing flag) else .ok (.text text)
  | .number =>
      match readUnsigned maxUnsigned64 text.toList with
      | .ok number => .ok (.number number)
      | .error fault => .error (.notNumber flag text fault)

/-- Note an option and its value, which must be the first of the option. -/
def accept (progress : Progress) (flag : Flag) (text : String) : Except UsageFault Progress :=
  if (progress.value? flag).isSome then .error (.repeated flag)
  else
    (readValue flag text).map fun value =>
      { progress with values := progress.values ++ [(flag, value)] }

/-- Look at the value of the pending option. -/
def settle (progress : Progress) : Except UsageFault Progress :=
  match progress.pending with
  | none => .ok { progress with awaiting := false }
  | some (flag, none) => .error (.valueMissing flag)
  | some (flag, some text) =>
      ({ progress with pending := none, awaiting := false } : Progress).accept flag text

/-- An option that takes no value.  The two that ask for a text end the reading. -/
def switch (level : Level) (progress : Progress) (flag : Flag) : Except UsageFault Progress :=
  match progress.settle with
  | .error fault => .error fault
  | .ok progress =>
      match flag with
      | .help => .error (.helpWanted (.level level))
      | .version => .error .versionWanted
      | flag => progress.accept flag ""

/-- An option with its value attached. -/
def attach (progress : Progress) (flag : Flag) (text : String) : Except UsageFault Progress :=
  match progress.settle with
  | .error fault => .error fault
  | .ok progress => progress.accept flag text

/-- An option whose value is the next argument. -/
def await (progress : Progress) (flag : Flag) : Except UsageFault Progress :=
  match progress.settle with
  | .error fault => .error fault
  | .ok progress => .ok { progress with pending := some (flag, none), awaiting := true }

/-- The next argument as the value of the option that waits for it. -/
def supply (progress : Progress) (text : String) : Progress :=
  { progress with
    pending := progress.pending.map fun pending => (pending.1, some text)
    awaiting := false }

/-- Letters after one dash.  A letter whose option takes a value takes the rest of the argument. -/
def takeShort (level : Level) (progress : Progress) : List Char → Except UsageFault Progress
  | [] => .ok progress
  | letter :: rest =>
      match level.findShort? letter with
      | none => .error (.unknownArgument ("-" ++ letter.toString))
      | some flag =>
          if flag.argument = .switch then
            match switch level progress flag with
            | .error fault => .error fault
            | .ok progress => takeShort level progress rest
          else
            match rest with
            | [] => progress.await flag
            | '=' :: value => progress.attach flag (String.ofList value)
            | value => progress.attach flag (String.ofList value)

/-- A name after two dashes, and the value after an equals sign where there is one. -/
def takeLong (level : Level) (progress : Progress) (text : List Char) :
    Except UsageFault Progress :=
  let name := text.takeWhile (· != '=')
  let value := text.drop name.length
  match level.findLong? (String.ofList name) with
  | none => .error (.unknownArgument ("--" ++ String.ofList name))
  | some flag =>
      match flag.argument, value with
      | .switch, [] => switch level progress flag
      | .switch, _ :: value => .error (.valueNotTaken flag (String.ofList value))
      | _, [] => progress.await flag
      | _, _ :: value => progress.attach flag (String.ofList value)

end Progress

/-! ## Levels -/

inductive CommandName where
  | load
  | check
  | help
deriving DecidableEq, Repr

def CommandName.find? : String → Option CommandName
  | "load" => some .load
  | "check" => some .check
  | "help" => some .help
  | _ => none

/-- The fault of an argument that fits nowhere.  Behind two dashes a command is not recognised. -/
def strayArgument (level : Level) (trailing : Bool) (argument : String) : UsageFault :=
  if level ≠ .top ∨ (trailing ∧ (CommandName.find? argument).isSome) then .unknownArgument argument
  else .unknownCommand argument

/-- The command that an argument names at a level: only before the command, and not in the place of
a value. -/
def commandAt? (level : Level) (progress : Progress) (argument : String) : Option CommandName :=
  if level = .top ∧ !progress.awaiting then CommandName.find? argument else none

/-- Read the arguments of a level: what has been read at its end, and the command with the arguments
after it. -/
def readLevel (level : Level) (progress : Progress) :
    List String → Except UsageFault (Progress × Option (CommandName × List String))
  | [] => .ok (progress, none)
  | argument :: rest =>
      match commandAt? level progress argument with
      | some command => .ok (progress, some (command, rest))
      | none =>
          match argument.toList with
          | ['-', '-'] =>
              match rest with
              | [] => .ok (progress, none)
              | stray :: _ => .error (strayArgument level true stray)
          | '-' :: '-' :: text =>
              match progress.takeLong level text with
              | .error fault => .error fault
              | .ok progress => readLevel level progress rest
          | '-' :: letter :: letters =>
              match progress.takeShort level (letter :: letters) with
              | .error fault => .error fault
              | .ok progress => readLevel level progress rest
          | _ =>
              if progress.awaiting then readLevel level (progress.supply argument) rest
              else .error (strayArgument level false argument)

/-! ## Command lines -/

structure LoadArguments where
  sourceDir : Option String := none
  databaseUrl : Option String := none
  table : Option String := none
  batchSize : Option Nat := none
  keepFiles : Bool := false
  failFast : Bool := false
  quiet : Bool := false
  report : Option String := none
deriving DecidableEq, Repr

inductive Command where
  | load (arguments : LoadArguments)
  | check (sourceDir : Option String)
deriving DecidableEq, Repr

structure Invocation where
  verbose : Bool := false
  logFile : Option String := none
  config : Option String := none
  command : Command
deriving DecidableEq, Repr

namespace Progress

def text? (progress : Progress) (flag : Flag) : Option String :=
  match progress.value? flag with
  | some (.text text) => some text
  | _ => none

def number? (progress : Progress) (flag : Flag) : Option Nat :=
  match progress.value? flag with
  | some (.number number) => some number
  | _ => none

def has (progress : Progress) (flag : Flag) : Bool :=
  (progress.value? flag).isSome

/-- The arguments of the command to load. -/
def loadArguments (progress : Progress) : LoadArguments :=
  { sourceDir := progress.text? .sourceDir
    databaseUrl := progress.text? .databaseUrl
    table := progress.text? .table
    batchSize := progress.number? .batchSize
    keepFiles := progress.has .keepFiles
    failFast := progress.has .failFast
    quiet := progress.has .quiet
    report := progress.text? .report }

end Progress

namespace Invocation

/-- Put the options of both levels together.  An option that belongs to every level counts where it
was given; given at both, it counts behind the command. -/
def assemble (top inner : Progress) (command : Command) : Invocation :=
  { verbose := top.has .verbose || inner.has .verbose
    logFile := inner.text? .logFile <|> top.text? .logFile
    config := inner.text? .config <|> top.text? .config
    command := command }

/-- Read the arguments after a command. -/
def readCommand (level : Level) (arguments : List String) : Except UsageFault Progress :=
  match readLevel level {} arguments with
  | .error fault => .error fault
  | .ok (progress, _) => progress.settle

/-- The page that the help command shows. -/
def helpPage : List String → UsageFault
  | [] => .helpWanted (.level .top)
  | ["load"] => .helpWanted (.level .load)
  | ["check"] => .helpWanted (.level .check)
  | ["help"] => .helpWanted .help
  | first :: rest =>
      if (CommandName.find? first).isSome then .unknownCommand (rest.head?.getD first)
      else .unknownCommand first

/-- Read the arguments after a command and put both levels together. -/
def finish (top : Progress) (level : Level) (command : Progress → Command)
    (arguments : List String) : Except UsageFault Invocation :=
  match readCommand level arguments with
  | .error fault => .error fault
  | .ok inner => top.settle.map fun top => assemble top inner (command inner)

/-- Read a command line, without the name of the program. -/
def parse (arguments : List String) : Except UsageFault Invocation :=
  match readLevel .top {} arguments with
  | .error fault => .error fault
  | .ok (top, some (.load, rest)) => finish top .load (fun inner => .load inner.loadArguments) rest
  | .ok (top, some (.check, rest)) =>
      finish top .check (fun inner => .check (inner.text? .sourceDir)) rest
  | .ok (_, some (.help, rest)) => .error (helpPage rest)
  | .ok (top, none) =>
      match top.settle with
      | .error fault => .error fault
      | .ok top => .error (if top.values.isEmpty then .nothingGiven else .commandMissing)

end Invocation

end HourlyIngest.CommandLine
