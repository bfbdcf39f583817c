import HourlyIngest.Json.Reader
import HourlyIngest.Toml.Marked

/-!
# Reading TOML

The reader takes one line of a document after the other: a header, an entry, or nothing, each
followed by an optional comment.  Values between brackets may go over several lines.  The first
fault refuses the whole document; there is no word on where it is.
-/

namespace HourlyIngest.Toml

/-! ## Blanks, comments and line breaks -/

def isSpace (c : Char) : Bool :=
  c == ' ' || c == '\t'

/-- The text after the blanks at its beginning. -/
def skipSpace (text : List Char) : List Char :=
  text.dropWhile isSpace

/-- Whether a character may stand in a comment or a quoted text of one line. -/
def isPlain (c : Char) : Bool :=
  c == '\t' || (0x20 ≤ c.toNat && c.toNat ≠ 0x7F)

/-- The text after a line break. -/
def afterBreak? : List Char → Option (List Char)
  | '\n' :: rest => some rest
  | '\r' :: '\n' :: rest => some rest
  | _ => none

/-- The text after blanks and a comment, both of which may be missing. -/
def skipComment (text : List Char) : List Char :=
  match skipSpace text with
  | '#' :: rest => rest.dropWhile isPlain
  | rest => rest

/-- The text after blanks, comments and line breaks. -/
def skipLines (text : List Char) : Nat → List Char
  | 0 => text
  | fuel + 1 =>
      match afterBreak? (skipComment text) with
      | some rest => skipLines rest fuel
      | none => skipComment text

/-! ## Quoted texts -/

/-- The character with a number, unless that is half of a surrogate pair or too large. -/
def scalar? (number : Nat) : Option Char :=
  if number < 0xD800 ∨ (0xDFFF < number ∧ number < 0x110000) then some (Char.ofNat number)
  else none

/-- The number that hexadecimal digits make up. -/
def hexNumber? (digits : List Char) : Option Nat :=
  digits.foldlM (fun value c => (Json.hexValue? c).map (value * 16 + ·)) 0

/-- The character that an escape stands for, and the text after it.  The backslash has been
read. -/
def escape? : List Char → Option (Char × List Char)
  | 'b' :: rest => some (Char.ofNat 0x08, rest)
  | 't' :: rest => some ('\t', rest)
  | 'n' :: rest => some ('\n', rest)
  | 'f' :: rest => some (Char.ofNat 0x0C, rest)
  | 'r' :: rest => some ('\r', rest)
  | '"' :: rest => some ('"', rest)
  | '\\' :: rest => some ('\\', rest)
  | 'u' :: rest => do
      if (rest.take 4).length < 4 then none
      return (← scalar? (← hexNumber? (rest.take 4)), rest.drop 4)
  | 'U' :: rest => do
      if (rest.take 8).length < 8 then none
      return (← scalar? (← hexNumber? (rest.take 8)), rest.drop 8)
  | _ => none

/-- The rest of a text of one line after its opening mark, which also ends it.  Escapes are read if
the mark is the double quote. -/
def readLine? (mark : Char) (done text : List Char) : Nat → Option (List Char × List Char)
  | 0 => none
  | fuel + 1 =>
      match text with
      | [] => none
      | c :: rest =>
          if c = mark then some (done.reverse, rest)
          else if c = '\\' ∧ mark = '"' then
            match escape? rest with
            | some (c, rest) => readLine? mark (c :: done) rest fuel
            | none => none
          else if isPlain c then readLine? mark (c :: done) rest fuel
          else none

/-- The number of marks at the beginning of a text, at most five. -/
def marks (mark : Char) (text : List Char) : Nat :=
  ((text.take 5).takeWhile (· = mark)).length

/-- The text after blanks and line breaks. -/
def skipBlankLines (text : List Char) : Nat → List Char
  | 0 => text
  | fuel + 1 =>
      match afterBreak? (skipSpace text) with
      | some rest => skipBlankLines rest fuel
      | none => skipSpace text

/-- The rest of a text over several lines after its three opening marks.  Up to two marks may stand
right in front of the three that end it.  A backslash at the end of a line takes the line break
away, and all blanks after it. -/
def readLines? (mark : Char) (done text : List Char) : Nat → Option (List Char × List Char)
  | 0 => none
  | fuel + 1 =>
      if 3 ≤ marks mark text then
        some (List.replicate (marks mark text - 3) mark ++ done |>.reverse,
          text.drop (marks mark text))
      else
        match afterBreak? text, text with
        | some rest, _ => readLines? mark ('\n' :: done) rest fuel
        | none, [] => none
        | none, c :: rest =>
            if c = '\\' ∧ mark = '"' then
              match afterBreak? (skipSpace rest) with
              | some below => readLines? mark done (skipBlankLines below fuel) fuel
              | none =>
                  match escape? rest with
                  | some (c, rest) => readLines? mark (c :: done) rest fuel
                  | none => none
            else if isPlain c then readLines? mark (c :: done) rest fuel
            else none

/-- A quoted text in any of its four forms. -/
def readText? (text : List Char) : Option (List Char × List Char) :=
  match text with
  | '"' :: '"' :: '"' :: rest =>
      readLines? '"' [] ((afterBreak? rest).getD rest) (text.length + 1)
  | '\'' :: '\'' :: '\'' :: rest =>
      readLines? '\'' [] ((afterBreak? rest).getD rest) (text.length + 1)
  | '"' :: rest => readLine? '"' [] rest (text.length + 1)
  | '\'' :: rest => readLine? '\'' [] rest (text.length + 1)
  | _ => none

/-! ## Keys -/

/-- Whether a character may stand in a key without quotes. -/
def isKeyChar (c : Char) : Bool :=
  ('a' ≤ c && c ≤ 'z') || ('A' ≤ c && c ≤ 'Z') || ('0' ≤ c && c ≤ '9') || c == '_' || c == '-'

def readSimpleKey? (text : List Char) : Option (String × List Char) :=
  match text with
  | '"' :: rest =>
      (readLine? '"' [] rest (text.length + 1)).map fun read => (String.ofList read.1, read.2)
  | '\'' :: rest =>
      (readLine? '\'' [] rest (text.length + 1)).map fun read => (String.ofList read.1, read.2)
  | _ =>
      let name := text.takeWhile isKeyChar
      if name.isEmpty then none else some (String.ofList name, text.drop name.length)

/-- The greatest number of parts of a key, and the deepest nesting of brackets in a value. -/
def maxDepth : Nat := 79

/-- A key of at most the given number of parts, with dots between them.  Blanks may stand around
each part. -/
def readParts? (text : List Char) : Nat → Option (List String × List Char)
  | 0 => none
  | parts + 1 =>
      match readSimpleKey? (skipSpace text) with
      | none => none
      | some (part, rest) =>
          match skipSpace rest with
          | '.' :: rest => (readParts? rest parts).map fun read => (part :: read.1, read.2)
          | rest => some ([part], rest)

def readKey? (text : List Char) : Option (List String × List Char) :=
  readParts? text maxDepth

/-! ## Values -/

/-- Whether a character may stand in a token. -/
def isTokenChar (c : Char) : Bool :=
  isKeyChar c || c == '+' || c == '.' || c == ':'

/-- A value without quotes and brackets.  A date may go on with a time after one blank. -/
def readBare? (text : List Char) : Option (Toml × List Char) :=
  let token := text.takeWhile isTokenChar
  let rest := text.drop token.length
  let long? : Option (Toml × List Char) :=
    match rest with
    | ' ' :: more =>
        let time := more.takeWhile isTokenChar
        match takeDate? token with
        | some (_, []) =>
            if time.isEmpty then none
            else
              (readMoment? .document (token ++ ' ' :: time)).map fun value =>
                (value, more.drop time.length)
        | _ => none
    | _ => none
  match long? with
  | some read => some read
  | none => (readToken? token).map fun value => (value, rest)

mutual

/-- A value.  `depth` bounds the nesting of brackets that is still allowed. -/
def readValue? (depth : Nat) (text : List Char) : Nat → Option (Toml × List Char)
  | 0 => none
  | fuel + 1 =>
      match text, depth with
      | '[' :: _, 0 => none
      | '\x7b' :: _, 0 => none
      | '[' :: rest, depth + 1 =>
          (readItems? depth (skipLines rest (rest.length + 1)) fuel).map fun read =>
            (.array read.1, read.2)
      | '\x7b' :: rest, depth + 1 =>
          match skipSpace rest with
          | '\x7d' :: rest => some (.table .inline [], rest)
          | rest =>
              (readEntries? depth [] rest fuel).map fun read => (.table .inline read.1, read.2)
      | '"' :: _, _ => (readText? text).map fun read => (.string (String.ofList read.1), read.2)
      | '\'' :: _, _ => (readText? text).map fun read => (.string (String.ofList read.1), read.2)
      | _, _ => readBare? text

/-- The items of an array up to its closing bracket; a comma may stand after the last one. -/
def readItems? (depth : Nat) (text : List Char) : Nat → Option (List Toml × List Char)
  | 0 => none
  | fuel + 1 =>
      match text with
      | ']' :: rest => some ([], rest)
      | _ =>
          match readValue? depth text fuel with
          | none => none
          | some (item, rest) =>
              match skipLines rest (rest.length + 1) with
              | ']' :: rest => some ([item], rest)
              | ',' :: rest =>
                  (readItems? depth (skipLines rest (rest.length + 1)) fuel).map fun read =>
                    (item :: read.1, read.2)
              | _ => none

/-- One or more entries between braces, up to the closing one. -/
def readEntries? (depth : Nat) (entries : Entries) (text : List Char) :
    Nat → Option (Entries × List Char)
  | 0 => none
  | fuel + 1 =>
      match readKey? text with
      | some (path, '=' :: rest) =>
          match readValue? depth (skipSpace rest) fuel, path.getLast? with
          | some (value, rest), some key =>
              match insertDotted entries path.dropLast key value with
              | none => none
              | some entries =>
                  match skipSpace rest with
                  | '\x7d' :: rest => some (entries, rest)
                  | ',' :: rest => readEntries? depth entries rest fuel
                  | _ => none
          | _, _ => none
      | _ => none

end

/-! ## Documents -/

/-- The text after a header or an entry: a comment may follow, then the line has to end. -/
def endLine? (text : List Char) : Option (List Char) :=
  match skipComment text with
  | [] => some []
  | rest => afterBreak? rest

/-- What one line does to a document, and the lines after it. -/
def readStatement? (draft : Draft) (text : List Char) : Option (Draft × List Char) := do
  let fuel := 2 * text.length + 2
  match skipSpace text with
  | [] => return (draft, [])
  | '#' :: _ => return (draft, ← endLine? text)
  | '\n' :: rest => return (draft, rest)
  | '\r' :: '\n' :: rest => return (draft, rest)
  | '[' :: '[' :: rest =>
      let (path, rest) ← readKey? rest
      let rest ← after? ']' rest
      let rest ← after? ']' rest
      return (← draft.header path true, ← endLine? rest)
  | '[' :: rest =>
      let (path, rest) ← readKey? rest
      let rest ← after? ']' rest
      return (← draft.header path false, ← endLine? rest)
  | rest =>
      let (path, rest) ← readKey? rest
      let rest ← after? '=' rest
      let (value, rest) ← readValue? maxDepth (skipSpace rest) fuel
      let key ← path.getLast?
      return (← draft.entry path.dropLast key value, ← endLine? rest)

/-- The lines of a document, one after the other. -/
def readStatements? (draft : Draft) (text : List Char) : Nat → Option Draft
  | 0 => none
  | fuel + 1 =>
      if text.isEmpty then some draft
      else
        match readStatement? draft text with
        | some (draft, rest) => readStatements? draft rest fuel
        | none => none

/-- The entries of a document.  A byte order mark may stand in front of it. -/
def parse? (text : String) : Option Entries := do
  let characters :=
    match text.toList with
    | [] => []
    | c :: rest => if c.toNat = 0xFEFF then rest else c :: rest
  let draft ← readStatements? {} characters (characters.length + 1)
  match ← unmark? (.table .standard (← draft.close)) with
  | .table _ entries => return entries
  | _ => none

end HourlyIngest.Toml
