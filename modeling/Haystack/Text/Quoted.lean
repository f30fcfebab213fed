import Haystack.Text.Extending
import Haystack.Text.Unprintable

/-!
# Quoted text

How a string is shown inside a message: between double quotes, with a backslash escape for every
character that would end the quotes, not be seen, or change how its neighbours look.
-/

namespace Haystack.Text

/-- The escape of a character by its code point, in hexadecimal. -/
def codePointEscape (c : Char) : List Char :=
  ['\\', 'u', '\x7b'] ++ Nat.toDigits 16 c.toNat ++ ['\x7d']

/-- What a character looks like between quotes. -/
def escaped (c : Char) : List Char :=
  if c = '\x00' then ['\\', '0']
  else if c = '\t' then ['\\', 't']
  else if c = '\r' then ['\\', 'r']
  else if c = '\n' then ['\\', 'n']
  else if c = '\\' ∨ c = '"' then ['\\', c]
  else if isExtending c ∨ isUnprintable c then codePointEscape c
  else [c]

/-- **A string between quotes.** -/
def quoted (s : String) : String :=
  String.ofList ('"' :: s.toList.flatMap escaped ++ ['"'])

end Haystack.Text
