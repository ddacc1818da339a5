/-
JSON values as they are written: without white space, the members of an object in their order.
Within texts only quotation marks, backslashes and characters below the space are escaped.
-/
import Latchkey.Digest.Bytes

namespace Latchkey.Json

inductive Value
  | null
  | flag (value : Bool)
  | integer (value : Int)
  | text (value : String)
  | object (members : List (String × Value))

namespace Value

/-- How a character stands in a text. -/
def escape (c : Char) : List Char :=
  if c = '"' then ['\\', '"']
  else if c = '\\' then ['\\', '\\']
  else if c = '\x08' then ['\\', 'b']
  else if c = '\x0c' then ['\\', 'f']
  else if c = '\n' then ['\\', 'n']
  else if c = '\r' then ['\\', 'r']
  else if c = '\t' then ['\\', 't']
  else if c.toNat < 0x20 then
    ['\\', 'u', '0', '0', Bytes.hexDigit (c.toNat / 16), Bytes.hexDigit (c.toNat % 16)]
  else [c]

def quote (s : String) : List Char := '"' :: s.toList.flatMap escape ++ ['"']

/-- The decimal digits, behind a minus sign if the number is negative. -/
def numeral (i : Int) : List Char := (toString i).toList

mutual

def chars : Value → List Char
  | null => ['n', 'u', 'l', 'l']
  | flag true => ['t', 'r', 'u', 'e']
  | flag false => ['f', 'a', 'l', 's', 'e']
  | integer i => numeral i
  | text s => quote s
  | object [] => ['\x7b', '\x7d']
  | object (m :: ms) => '\x7b' :: memberChars m ++ moreChars ms

/-- A key and its value. -/
def memberChars : String × Value → List Char
  | (key, value) => quote key ++ ':' :: chars value

/-- The members behind the first one, and the end of the object. -/
def moreChars : List (String × Value) → List Char
  | [] => ['\x7d']
  | m :: ms => ',' :: memberChars m ++ moreChars ms

end

def render (v : Value) : String := String.ofList v.chars

end Value

end Latchkey.Json
