import HourlyIngest.Text.CaseTable

/-!
# Lower-casing

`lowercase` maps every character to its lower-case form.  Two rules go beyond a table of single
characters: the dotted capital I has a form of two characters, and a capital sigma has a special
form at the end of a word.  `lowerAscii` knows the ASCII letters alone.
-/

namespace HourlyIngest.Text

/-- The lower-case form of an ASCII capital; every other character is kept. -/
def lowerAscii (c : Char) : Char :=
  if 0x41 ≤ c.toNat && c.toNat ≤ 0x5A then Char.ofNat (c.toNat + 0x20) else c

/-- Equality of texts up to the case of ASCII letters. -/
def equalAsciiCase (a b : List Char) : Bool :=
  a.map lowerAscii == b.map lowerAscii

/-- Whether a character belongs to the run of capitals. -/
def CaseRun.covers (run : CaseRun) (n : Nat) : Bool :=
  run.first ≤ n && n ≤ run.last && (n - run.first) % run.stride == 0

/-- The lower-case form of one character, without regard to its neighbours. -/
def lowerChar (c : Char) : List Char :=
  if c.toNat < 0x80 then [lowerAscii c]
  else if c.toNat = 0x130 then ['i', Char.ofNat 0x307]
  else
    match lowerRuns.find? (·.covers c.toNat) with
    | some run => [Char.ofNat (run.target + (c.toNat - run.first))]
    | none => [c]

/-- Whether the first character that is not skipped has case. -/
def nextHasCase (text : List Char) : Bool :=
  match text.dropWhile (inRanges caseIgnorableRanges) with
  | [] => false
  | c :: _ => inRanges casedRanges c

/-- Lower-case a text.  `before` holds the characters already passed, the nearest first: a capital
sigma that ends a word of at least two letters takes its final form. -/
def lowercaseAfter (before : List Char) : List Char → List Char
  | [] => []
  | c :: rest =>
      if c.toNat = 0x3A3 then
        Char.ofNat (if nextHasCase before && !nextHasCase rest then 0x3C2 else 0x3C3) ::
          lowercaseAfter (c :: before) rest
      else lowerChar c ++ lowercaseAfter (c :: before) rest

def lowercase (text : String) : String :=
  String.ofList (lowercaseAfter [] text.toList)

end HourlyIngest.Text
