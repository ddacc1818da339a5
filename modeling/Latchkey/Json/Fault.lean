/-
What can be wrong with a JSON text: faults of syntax, and data that is not what was asked for. The
place of a fault is the path of the value that was being read.
-/
import Latchkey.Text.Binary64
import Latchkey.Text.Quoted

namespace Latchkey.Json

/-- A number as it is read: an integer of 64 bits, signed or not, or a floating-point number. -/
inductive Number
  | integer (value : Int)
  | real (negative : Bool) (magnitude : Binary64)
deriving DecidableEq, Repr

/-- A value that was found where another kind was asked for. -/
inductive Found
  | null
  | flag (value : Bool)
  | number (value : Number)
  | text (value : String)
  | sequence
  | map
deriving DecidableEq, Repr

def Found.label : Found → String
  | null => "null"
  | flag value => "boolean `" ++ toString value ++ "`"
  | number (.integer value) => "integer `" ++ toString value ++ "`"
  | number (.real negative magnitude) =>
    "floating point `" ++ (if negative then "-" else "") ++ magnitude.text ++ "`"
  | text value => "string " ++ Text.quoted value
  | sequence => "sequence"
  | map => "map"

/-- What was asked for. -/
inductive Wanted
  | text
  | flag
  | signed32
  | signed64
  | record (name : String)
  | texts
deriving DecidableEq, Repr

def Wanted.label : Wanted → String
  | text => "a string"
  | flag => "a boolean"
  | signed32 => "i32"
  | signed64 => "i64"
  | record name => "struct " ++ name
  | texts => "a sequence"

inductive Fault
  | endInValue
  | endInList
  | endInObject
  | endInText
  | expectedValue
  | expectedLiteral
  | expectedColon
  | expectedObjectSeparator
  | expectedListSeparator
  | keyNotText
  | trailingComma
  | trailingCharacters
  | invalidNumber
  | numberOutOfRange
  | invalidEscape
  | controlCharacter
  | invalidCodePoint
  | loneSurrogate
  /-- A high surrogate without a low one; what stands directly behind it may close the text. -/
  | unpairedSurrogate (isLast : Bool)
  | tooDeep
  | missingField (key : String)
  | duplicateField (key : String)
  | wrongLength (length : Nat) (record : String) (size : Nat)
  | wrongType (found : Found) (wanted : Wanted)
  | outOfRange (value : Int) (wanted : Wanted)
deriving DecidableEq, Repr

namespace Fault

def message : Fault → String
  | endInValue => "EOF while parsing a value"
  | endInList => "EOF while parsing a list"
  | endInObject => "EOF while parsing an object"
  | endInText => "EOF while parsing a string"
  | expectedValue => "expected value"
  | expectedLiteral => "expected ident"
  | expectedColon => "expected `:`"
  | expectedObjectSeparator => "expected `,` or `\x7d`"
  | expectedListSeparator => "expected `,` or `]`"
  | keyNotText => "key must be a string"
  | trailingComma => "trailing comma"
  | trailingCharacters => "trailing characters"
  | invalidNumber => "invalid number"
  | numberOutOfRange => "number out of range"
  | invalidEscape => "invalid escape"
  | controlCharacter => "control character (\\u0000-\\u001F) found while parsing a string"
  | invalidCodePoint => "invalid unicode code point"
  | loneSurrogate => "lone leading surrogate in hex escape"
  | unpairedSurrogate _ => "unexpected end of hex escape"
  | tooDeep => "recursion limit exceeded"
  | missingField key => "missing field `" ++ key ++ "`"
  | duplicateField key => "duplicate field `" ++ key ++ "`"
  | wrongLength length record size =>
    "invalid length " ++ toString length ++ ", expected struct " ++ record ++ " with "
      ++ toString size ++ (if size = 1 then " element" else " elements")
  | wrongType found wanted =>
    "invalid type: " ++ found.label ++ ", expected " ++ wanted.label
  | outOfRange value wanted =>
    "invalid value: integer `" ++ toString value ++ "`, expected " ++ wanted.label

/-- Whether the text is well-formed JSON as far as it was read, and only its data is wrong. -/
def isData : Fault → Bool
  | missingField _ | duplicateField _ | wrongLength _ _ _ | wrongType _ _ | outOfRange _ _ => true
  | _ => false

end Fault

/-- A step into a value. -/
inductive Step
  | key (name : String)
  | index (i : Nat)
deriving DecidableEq, Repr

/-- A fault and the path of the value in which it arose. -/
structure Failure where
  path : List Step
  fault : Fault
deriving DecidableEq, Repr

namespace Failure

def under (step : Step) (f : Failure) : Failure := { f with path := step :: f.path }

/-- Keys are joined by full stops, indices stand in brackets. -/
def pathText : List Step → String
  | [] => ""
  | .key name :: rest => name ++ more rest
  | .index i :: rest => "[" ++ toString i ++ "]" ++ more rest
where
  more : List Step → String
    | [] => ""
    | .key name :: rest => "." ++ name ++ more rest
    | .index i :: rest => "[" ++ toString i ++ "]" ++ more rest

/-- The message, behind the path if there is one. -/
def message (f : Failure) : String :=
  if f.path.isEmpty then f.fault.message else pathText f.path ++ ": " ++ f.fault.message

end Failure

/-- What comes of reading: a value, or the first fault. -/
abbrev Reading (α : Type) := Except Failure α

def fail {α : Type} (fault : Fault) : Reading α := .error ⟨[], fault⟩

/-- Reading inside the value that `step` leads to. -/
def within {α : Type} (step : Step) (r : Reading α) : Reading α := r.mapError (·.under step)

end Latchkey.Json
