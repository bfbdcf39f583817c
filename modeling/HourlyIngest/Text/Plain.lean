import HourlyIngest.Text.Utf8

/-!
# Text without commands to a terminal

A terminal obeys controls and sequences that begin with the escape character.  `plain` takes both
out of a text, so that a message that repeats a foreign text shows its letters only.  Of the
controls, tabs, line breaks, form feeds and carriage returns are kept.

A sequence is one of three kinds.  A short one ends with its first character that is neither blank
nor punctuation from `!` to `/`.  A control sequence, begun by `[`, ends with its first letter or
mark from `@` on; a kept control breaks off either kind.  A string sequence goes on until it is
closed.  An escape character begins a new sequence wherever it stands.
-/

namespace HourlyIngest.Text

/-- Where in a text with commands a character stands. -/
inductive CommandMode where
  /-- Outside of every command. -/
  | shown
  /-- Behind an escape character. -/
  | escape
  /-- Behind an escape character and punctuation. -/
  | short
  /-- In a control sequence. -/
  | control
  /-- At the beginning of a device string. -/
  | device
  /-- In the parameters of a device string. -/
  | deviceParameter
  /-- In the punctuation of a device string. -/
  | deviceMark
  /-- In a string that a string terminator closes. -/
  | string
  /-- In a string for the operating system, which a bell closes. -/
  | system
deriving DecidableEq, Repr

/-- The controls that lay out text. -/
def isLayout (c : Char) : Bool :=
  c == '\t' || c == '\n' || c.toNat == 0x0C || c == '\r'

/-- Whether the UTF-8 form of a character holds the byte that is a string terminator of its own. -/
def holdsTerminator (c : Char) : Bool :=
  0x80 ≤ c.toNat && (encode c.toString).contains 0x9C

namespace CommandMode

/-- Whether a character is shown.  Outside of commands all but controls are; inside of them only
layout that breaks the command off. -/
def shows (mode : CommandMode) (c : Char) : Bool :=
  match mode with
  | .shown => isLayout c || (0x20 ≤ c.toNat && c.toNat != 0x7F)
  | .escape | .short | .control => isLayout c
  | _ => false

/-- The mode behind a character. -/
def next (mode : CommandMode) (c : Char) : CommandMode :=
  let n := c.toNat
  if n = 0x1B then .escape
  else if n = 0x18 ∨ n = 0x1A ∨ mode.shows c then .shown
  else
    match mode with
    | .shown => .shown
    | .escape =>
        if c = '[' then .control
        else if c = ']' then .system
        else if c = 'P' then .device
        else if c = 'X' ∨ c = '^' ∨ c = '_' then .string
        else if 0x20 ≤ n ∧ n ≤ 0x2F then .short
        else if 0x30 ≤ n ∧ n ≤ 0x7E then .shown
        else .escape
    | .short => if 0x30 ≤ n ∧ n ≤ 0x7E then .shown else .short
    | .control => if 0x40 ≤ n ∧ n ≤ 0x7E then .shown else .control
    | .device =>
        if 0x40 ≤ n ∧ n ≤ 0x7E then .string
        else if 0x30 ≤ n ∧ n ≤ 0x3F then .deviceParameter
        else if 0x20 ≤ n ∧ n ≤ 0x2F then .deviceMark
        else .device
    | .deviceParameter =>
        if 0x3C ≤ n ∧ n ≤ 0x7E then .string
        else if 0x20 ≤ n ∧ n ≤ 0x2F then .deviceMark
        else .deviceParameter
    | .deviceMark => if 0x30 ≤ n ∧ n ≤ 0x7E then .string else .deviceMark
    | .string => if holdsTerminator c then .shown else .string
    | .system => if n = 0x07 then .shown else .system

end CommandMode

/-- The characters of a text that are shown, the first standing in the given mode. -/
def plainFrom (mode : CommandMode) : List Char → List Char
  | [] => []
  | c :: rest =>
      if mode.shows c then c :: plainFrom (mode.next c) rest else plainFrom (mode.next c) rest

/-- The text without controls and commands to a terminal. -/
def plain (text : String) : String :=
  String.ofList (plainFrom .shown text.toList)

/-- The first line of a text, without the line break and a carriage return in front of it. -/
def firstLine (text : String) : String :=
  let characters := text.toList
  let line := characters.takeWhile (· != '\n')
  String.ofList <|
    if line.length < characters.length && line.getLast? == some '\r' then line.dropLast else line

end HourlyIngest.Text
