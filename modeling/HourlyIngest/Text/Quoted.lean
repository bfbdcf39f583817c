import HourlyIngest.Text.Printable

/-!
# Texts shown in double quotes

Messages show a text of the user's between double quotes.  Quotes and backslashes take a
backslash, four controls have a letter of their own, and a character that a reader could not see
is shown by its number in hexadecimal.
-/

namespace HourlyIngest.Text

/-- The digits of a number in hexadecimal, in lower case. -/
def hexDigits (n : Nat) : List Char :=
  Nat.toDigits 16 n

/-- How one character stands between the quotes. -/
def quoteChar (c : Char) : List Char :=
  if c = '"' then ['\\', '"']
  else if c = '\\' then ['\\', '\\']
  else if c = '\t' then ['\\', 't']
  else if c = '\r' then ['\\', 'r']
  else if c = '\n' then ['\\', 'n']
  else if c.toNat = 0 then ['\\', '0']
  else if isPrintable c then [c]
  else ['\\', 'u', '\x7b'] ++ hexDigits c.toNat ++ ['\x7d']

def quoted (text : String) : String :=
  String.ofList ('"' :: (text.toList.flatMap quoteChar ++ ['"']))

end HourlyIngest.Text
