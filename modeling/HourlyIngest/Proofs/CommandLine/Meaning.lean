import HourlyIngest.Proofs.CommandLine.Spelling

/-!
# What a command line means

What a command line asks for (`Invocation`) gives values to some options, each of which is said once
(`Invocation.options`).  Written in any order and in any of their spellings, with the options that
belong to every level on either side of the command and all others behind it (`Invocation.Writes`),
they are read as what was asked for (`parse_of_writes`): a value is found at the level at which it
was written, and the levels are put together so that it does not matter which one that was.
-/

namespace HourlyIngest.CommandLine

open Number

/-! ## What there is to write -/

/-- A switch that is on or not said. -/
def switch? (on : Bool) : Option Value :=
  if on then some .on else none

namespace Command

def level : Command → Level
  | .load _ => .load
  | .check _ => .check

def name : Command → String
  | .load _ => "load"
  | .check _ => "check"

/-- The value that a command gives to an option of its own. -/
def said? : Command → Flag → Option Value
  | .load given, .sourceDir => given.sourceDir.map .text
  | .load given, .databaseUrl => given.databaseUrl.map .text
  | .load given, .table => given.table.map .text
  | .load given, .batchSize => given.batchSize.map .number
  | .load given, .keepFiles => switch? given.keepFiles
  | .load given, .failFast => switch? given.failFast
  | .load given, .quiet => switch? given.quiet
  | .load given, .report => given.report.map .text
  | .check directory, .sourceDir => directory.map .text
  | _, _ => none

end Command

/-- The options that belong to every level. -/
def Flag.everywhere : List Flag := [.verbose, .logFile, .config]

theorem Level.nodup_flags (level : Level) : level.flags.Nodup := by
  cases level <;> decide

theorem Level.mem_flags_of_everywhere (level : Level) :
    ∀ flag ∈ Flag.everywhere, flag ∈ level.flags := by
  cases level <;> decide

theorem eq_on_of_switch? {on : Bool} {value : Value} (hvalue : switch? on = some value) :
    value = .on := by
  cases on
  · cases hvalue
  · exact (Option.some.inj hvalue).symm

theorem Command.suits_of_said? {command : Command} {flag : Flag} {value : Value}
    (hsaid : command.said? flag = some value) :
    flag ≠ .help ∧ flag ≠ .version ∧ value.Suits flag.argument := by
  cases command with
  | load given =>
      cases flag with
      | keepFiles | failFast | quiet =>
          exact ⟨by decide, by decide, eq_on_of_switch? hsaid ▸ trivial⟩
      | sourceDir | databaseUrl | table | batchSize | report =>
          obtain ⟨_, -, rfl⟩ := Option.map_eq_some_iff.mp hsaid
          exact ⟨by decide, by decide, trivial⟩
      | _ => cases hsaid
  | check directory =>
      cases flag with
      | sourceDir =>
          obtain ⟨_, -, rfl⟩ := Option.map_eq_some_iff.mp hsaid
          exact ⟨by decide, by decide, trivial⟩
      | _ => cases hsaid

namespace Invocation

/-- The value that is given to an option. -/
def said? (invocation : Invocation) : Flag → Option Value
  | .verbose => switch? invocation.verbose
  | .logFile => invocation.logFile.map .text
  | .config => invocation.config.map .text
  | flag => invocation.command.said? flag

/-- The options with a value, each of them once. -/
def options (invocation : Invocation) : List (Flag × Value) :=
  invocation.command.level.flags.filterMap fun flag => (invocation.said? flag).map (flag, ·)

/-- The arguments are the options in some order, those in front of the command being some that
belong to every level, and each in some spelling. -/
def Writes (invocation : Invocation) (arguments : List String) : Prop :=
  ∃ before after : List (Flag × Value), ∃ first second : List (List String),
    (before ++ after).Perm invocation.options ∧
    (∀ given ∈ before, given.1 ∈ Flag.everywhere) ∧
    List.Forall₂ Written before first ∧ List.Forall₂ Written after second ∧
    arguments = first.flatten ++ invocation.command.name :: second.flatten

variable {invocation : Invocation} {flag : Flag} {given : Flag × Value}

theorem mem_options_iff :
    given ∈ invocation.options ↔
      given.1 ∈ invocation.command.level.flags ∧ invocation.said? given.1 = some given.2 := by
  obtain ⟨flag, value⟩ := given
  simp [options, List.mem_filterMap]

theorem nodup_options (invocation : Invocation) :
    (invocation.options.map Prod.fst).Nodup :=
  (keys_filterMap_sublist _ _).nodup (Level.nodup_flags _)

/-- Values are given to no options that ask for a text, and they suit their options. -/
theorem suits_of_said? {value : Value} (hsaid : invocation.said? flag = some value) :
    flag ≠ .help ∧ flag ≠ .version ∧ value.Suits flag.argument := by
  cases flag with
  | verbose => exact ⟨by decide, by decide, eq_on_of_switch? hsaid ▸ trivial⟩
  | logFile | config =>
      obtain ⟨text, -, rfl⟩ := Option.map_eq_some_iff.mp hsaid
      exact ⟨by decide, by decide, trivial⟩
  | _ => exact Command.suits_of_said? hsaid

/-- An option with a value is one that the command has. -/
theorem admits_of_mem_options (hgiven : given ∈ invocation.options) :
    Admits invocation.command.level given := by
  obtain ⟨hflag, hsaid⟩ := mem_options_iff.mp hgiven
  obtain ⟨hhelp, hversion, hsuits⟩ := suits_of_said? hsaid
  exact ⟨hflag, hhelp, hversion, hsuits⟩

end Invocation

/-! ## What is found -/

namespace Progress

variable {inner top progress : Progress} {flag : Flag}

theorem text?_of_value? {found : Option String}
    (hvalue : progress.value? flag = found.map Value.text) : progress.text? flag = found := by
  rw [text?, hvalue]
  cases found <;> rfl

theorem number?_of_value? {found : Option Nat}
    (hvalue : progress.value? flag = found.map Value.number) : progress.number? flag = found := by
  rw [number?, hvalue]
  cases found <;> rfl

theorem has_of_value? {on : Bool} (hvalue : progress.value? flag = switch? on) :
    progress.has flag = on := by
  rw [has, hvalue]
  cases on <;> rfl

/-- A text that was found at one of the two levels. -/
theorem text?_of_either {found : Option String}
    (hvalue : (inner.value? flag).or (top.value? flag) = found.map Value.text) :
    (inner.text? flag <|> top.text? flag) = found := by
  cases hinner : inner.value? flag with
  | none =>
      rw [hinner, Option.none_or] at hvalue
      rw [text?_of_value? hvalue, text?, hinner]
      rfl
  | some value =>
      rw [hinner, Option.some_or] at hvalue
      rw [text?_of_value? (hinner.trans hvalue)]
      cases found with
      | none => cases hvalue
      | some text => rfl

theorem has_of_either {on : Bool}
    (hvalue : (inner.value? flag).or (top.value? flag) = switch? on) :
    (top.has flag || inner.has flag) = on := by
  rw [has, has, Bool.or_comm, ← Option.isSome_or, hvalue]
  cases on <;> rfl

end Progress

namespace Invocation

variable {invocation : Invocation} {flag : Flag} {before after : List (Flag × Value)}

/-- Whatever was said is found at one of the two levels. -/
theorem value?_of_perm (hperm : (before ++ after).Perm invocation.options)
    (hflag : flag ∈ invocation.command.level.flags) :
    (Progress.value? { values := after } flag).or (Progress.value? { values := before } flag) =
      invocation.said? flag := by
  have hswap : (after ++ before).Perm invocation.options := List.perm_append_comm.trans hperm
  have hnodup : ((after ++ before).map Prod.fst).Nodup :=
    (hswap.map Prod.fst).nodup_iff.mpr (nodup_options invocation)
  calc
    (Progress.value? { values := after } flag).or (Progress.value? { values := before } flag) =
        ((after ++ before).find? (·.1 == flag)).map (·.2) := by
      rw [List.find?_append, Option.map_or]
      rfl
    _ = (invocation.options.find? (·.1 == flag)).map (·.2) := find?_perm hswap hnodup flag
    _ = invocation.said? flag := by rw [options, find?_filterMap, if_pos hflag]

/-- The options of the command itself are found behind it. -/
theorem value?_of_own (hperm : (before ++ after).Perm invocation.options)
    (hbefore : ∀ given ∈ before, given.1 ∈ Flag.everywhere)
    (hflag : flag ∈ invocation.command.level.flags) (hown : flag ∉ Flag.everywhere) :
    Progress.value? { values := after } flag = invocation.command.said? flag := by
  have hsaid : invocation.said? flag = invocation.command.said? flag := by
    cases flag with
    | verbose | logFile | config => exact absurd (by decide) hown
    | _ => rfl
  have hnone : Progress.value? { values := before } flag = none := by
    have hkey : flag ∉ before.map Prod.fst := by
      intro hmem
      obtain ⟨given, hgiven, rfl⟩ := List.mem_map.mp hmem
      exact hown (hbefore given hgiven)
    rw [Progress.value?, find?_eq_none_of_notMem hkey]
    rfl
  rw [← hsaid, ← value?_of_perm hperm hflag, hnone, Option.or_none]

/-- Put together, the two levels are what was asked for. -/
theorem assemble_of_perm (hperm : (before ++ after).Perm invocation.options)
    {command : Command} (hcommand : command = invocation.command) :
    assemble { values := before } { values := after } command = invocation := by
  have hflags := invocation.command.level.mem_flags_of_everywhere
  unfold assemble
  rw [Progress.has_of_either (value?_of_perm hperm (hflags .verbose (by decide))),
    Progress.text?_of_either (value?_of_perm hperm (hflags .logFile (by decide))),
    Progress.text?_of_either (value?_of_perm hperm (hflags .config (by decide))), hcommand]

/-! ## Command lines -/

/-- Reading the arguments behind a command. -/
theorem readCommand_row {level : Level} {row : List (Flag × Value)} {parts : List (List String)}
    (hrow : List.Forall₂ Written row parts) (hadmits : ∀ given ∈ row, Admits level given)
    (hnodup : (row.map Prod.fst).Nodup) :
    readCommand level parts.flatten = .ok { values := row } := by
  obtain ⟨last, hlast, hread⟩ := readLevel_row hrow hadmits (reads_values []) hnodup []
  rw [List.append_nil, readLevel] at hread
  rw [readCommand, hread]
  exact hlast.settle

/-- The command is found in the options behind it. -/
theorem loadArguments_of_own {given : LoadArguments} (hload : invocation.command = .load given)
    (hperm : (before ++ after).Perm invocation.options)
    (hbefore : ∀ given ∈ before, given.1 ∈ Flag.everywhere) :
    Progress.loadArguments { values := after } = given := by
  have hvalue : ∀ flag ∈ Level.load.flags, flag ∉ Flag.everywhere →
      Progress.value? { values := after } flag = (Command.load given).said? flag := by
    intro flag hflag hown
    rw [value?_of_own hperm hbefore (by rwa [hload]) hown, hload]
  obtain ⟨sourceDir, databaseUrl, table, batchSize, keepFiles, failFast, quiet, report⟩ := given
  rw [Progress.loadArguments, LoadArguments.mk.injEq]
  refine ⟨?_, ?_, ?_, ?_, ?_, ?_, ?_, ?_⟩
  · exact Progress.text?_of_value? (hvalue .sourceDir (by decide) (by decide))
  · exact Progress.text?_of_value? (hvalue .databaseUrl (by decide) (by decide))
  · exact Progress.text?_of_value? (hvalue .table (by decide) (by decide))
  · exact Progress.number?_of_value? (hvalue .batchSize (by decide) (by decide))
  · exact Progress.has_of_value? (hvalue .keepFiles (by decide) (by decide))
  · exact Progress.has_of_value? (hvalue .failFast (by decide) (by decide))
  · exact Progress.has_of_value? (hvalue .quiet (by decide) (by decide))
  · exact Progress.text?_of_value? (hvalue .report (by decide) (by decide))

/-- The command behind the options of the first level. -/
theorem readLevel_command {top : Progress} {options : List (Flag × Value)}
    (htop : Reads top options) {name : String} {command : CommandName}
    (hname : CommandName.find? name = some command) (rest : List String) :
    readLevel .top top (name :: rest) = .ok (top, some (command, rest)) := by
  have hat : commandAt? .top top name = some command := by
    simp [commandAt?, htop.awaiting, hname]
  rw [readLevel.eq_def .top top (name :: rest)]
  dsimp only
  rw [hat]

theorem finish_of_perm {top : Progress} {level : Level} {command : Progress → Command}
    {arguments : List String} (htop : Reads top before)
    (hread : readCommand level arguments = .ok { values := after })
    (hcommand : command { values := after } = invocation.command)
    (hperm : (before ++ after).Perm invocation.options) :
    finish top level command arguments = .ok invocation := by
  rw [finish, hread]
  dsimp only
  rw [htop.settle, Except.map, assemble_of_perm hperm hcommand]

/-- **A command line means what it says.**  Whatever is asked for, written in any order, in any
spellings and with the options that belong to every level on either side of the command, is read as
just that. -/
theorem parse_of_writes {arguments : List String} (hwrites : invocation.Writes arguments) :
    parse arguments = .ok invocation := by
  obtain ⟨before, after, first, second, hperm, hbefore, hfirst, hsecond, rfl⟩ := hwrites
  have hadmits : ∀ given ∈ before ++ after, Admits invocation.command.level given :=
    fun given hgiven => admits_of_mem_options (hperm.mem_iff.mp hgiven)
  have hnodup : ((before ++ after).map Prod.fst).Nodup :=
    (hperm.map Prod.fst).nodup_iff.mpr (nodup_options invocation)
  rw [List.map_append, List.nodup_append] at hnodup
  rw [List.forall_mem_append] at hadmits
  have htop : ∀ given ∈ before, Admits .top given := by
    intro given hgiven
    have hmem := Level.mem_flags_of_everywhere .top given.1 (hbefore given hgiven)
    exact { hadmits.1 given hgiven with mem := hmem }
  obtain ⟨top, htop, hread⟩ :=
    readLevel_row hfirst htop (reads_values []) hnodup.1
      (invocation.command.name :: second.flatten)
  have hinner := readCommand_row hsecond hadmits.2 hnodup.2.1
  cases hinvoked : invocation.command with
  | load given =>
      rw [hinvoked] at hread hinner
      rw [parse, hread, readLevel_command htop rfl]
      refine finish_of_perm htop hinner ?_ hperm
      rw [loadArguments_of_own hinvoked hperm hbefore, hinvoked]
  | check directory =>
      rw [hinvoked] at hread hinner
      rw [parse, hread, readLevel_command htop rfl]
      refine finish_of_perm htop hinner ?_ hperm
      have hflag : Flag.sourceDir ∈ invocation.command.level.flags := by
        rw [hinvoked]
        exact (by decide : Flag.sourceDir ∈ Level.check.flags)
      have hsource := value?_of_own hperm hbefore hflag (by decide)
      rw [hinvoked] at hsource
      rw [Progress.text?_of_value? hsource, hinvoked]

/-- What can be taken for commands, options and equals signs stands for values, and the largest number
of 64 bits is a number of rows. -/
theorem parse_of_writes_sample :
    let invocation : Invocation := {
      verbose := true
      logFile := some "--verbose"
      config := some "load"
      command := .load {
        sourceDir := some "=in"
        table := some "check"
        batchSize := some 18446744073709551615
        quiet := true } }
    let arguments := ["-c", "load", "load", "--table=check", "-b=18446744073709551615",
      "--log-file=--verbose", "-q", "--source-dir", "=in", "--verbose"]
    invocation.Writes arguments ∧ parse arguments = .ok invocation := by
  intro invocation arguments
  have hsize : Value.Spelled (.number 18446744073709551615) "18446744073709551615" := by
    have hvalue : digitsValue "18446744073709551615".toList = 18446744073709551615 := by
      decide +kernel
    have hdigits : Digits "18446744073709551615".toList :=
      ⟨by decide, List.all_eq_true.mp (by decide +kernel)⟩
    have hspelled := Value.Spelled.number hdigits (by rw [hvalue]; decide)
    rwa [hvalue] at hspelled
  have hbefore : List.Forall₂ Written [(.config, .text "load")] [["-c", "load"]] :=
    .cons (.separate (by decide) (by decide +kernel) (.text (by decide)) (by decide +kernel)) .nil
  have hafter : List.Forall₂ Written
      [(.table, .text "check"), (.batchSize, .number 18446744073709551615),
        (.logFile, .text "--verbose"), (.quiet, .on), (.sourceDir, .text "=in"), (.verbose, .on)]
      [["--table" ++ "=" ++ "check"], ["-b" ++ "=" ++ "18446744073709551615"],
        ["--log-file" ++ "=" ++ "--verbose"], ["-q"], ["--source-dir", "=in"], ["--verbose"]] :=
    .cons (.attached (by decide) (by decide +kernel) (.text (by decide))) <|
    .cons (.attached (by decide) (by decide +kernel) hsize) <|
    .cons (.attached (by decide) (by decide +kernel) (.text (by decide))) <|
    .cons (.switch rfl (by decide +kernel)) <|
    .cons (.separate (by decide) (by decide +kernel) (.text (by decide)) (by decide +kernel)) <|
    .cons (.switch rfl (by decide +kernel)) .nil
  have hwrites : invocation.Writes arguments :=
    ⟨_, _, _, _, by decide +kernel, by decide, hbefore, hafter, by decide +kernel⟩
  exact ⟨hwrites, parse_of_writes hwrites⟩

end Invocation

end HourlyIngest.CommandLine
