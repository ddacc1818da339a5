/-
Texts between double quotes as they stand in messages: quotes, backslashes and the usual controls
behind a backslash, every other character that does not print by its code point.
-/
import Latchkey.Text.Unprintable

namespace Latchkey.Text

/-- Lower-case hexadecimal digits. -/
def hexText (n : Nat) : List Char := Nat.toDigits 16 n

def escapeQuoted (c : Char) : List Char :=
  if c = '"' then ['\\', '"']
  else if c = '\\' then ['\\', '\\']
  else if c = '\n' then ['\\', 'n']
  else if c = '\r' then ['\\', 'r']
  else if c = '\t' then ['\\', 't']
  else if c.toNat = 0 then ['\\', '0']
  else if isUnprintable c then '\\' :: 'u' :: '\x7b' :: hexText c.toNat ++ ['\x7d']
  else [c]

def quoted (s : String) : String := String.ofList ('"' :: s.toList.flatMap escapeQuoted ++ ['"'])

end Latchkey.Text
