/-
Decimal integers within bounds: an optional sign and at least one ASCII digit. A minus sign is
read only where negative numbers are allowed. Reading goes from left to right, so a number that is
too large already is refused as such even if something else than a digit follows.
-/
namespace Latchkey.Text

inductive IntegerFault
  | empty
  | invalidDigit
  | tooLarge
  | tooSmall
deriving DecidableEq, Repr

def IntegerFault.message : IntegerFault → String
  | .empty => "cannot parse integer from empty string"
  | .invalidDigit => "invalid digit found in string"
  | .tooLarge => "number too large to fit in target type"
  | .tooSmall => "number too small to fit in target type"

/-- The value of an ASCII digit. -/
def digit? (c : Char) : Option Nat := if c.isDigit then some (c.toNat - '0'.toNat) else none

/-- The value of a hexadecimal digit of either case. -/
def hexDigit? (c : Char) : Option Nat :=
  if c.isDigit then some (c.toNat - '0'.toNat)
  else if 'a' ≤ c ∧ c ≤ 'f' then some (c.toNat - 'a'.toNat + 10)
  else if 'A' ≤ c ∧ c ≤ 'F' then some (c.toNat - 'A'.toNat + 10)
  else none

/-- Reads on from the value of the digits so far. -/
def readDigits (limit : Nat) (beyond : IntegerFault) (value : Nat) :
    List Char → Except IntegerFault Nat
  | [] => .ok value
  | c :: rest =>
    match digit? c with
    | none => .error .invalidDigit
    | some d =>
      if value * 10 + d ≤ limit then readDigits limit beyond (value * 10 + d) rest
      else .error beyond

/-- The integer between `lowest` and `highest` that a text spells. -/
def readInteger (lowest highest : Int) (text : List Char) : Except IntegerFault Int :=
  match text with
  | [] => .error .empty
  | ['+'] | ['-'] => .error .invalidDigit
  | '+' :: rest => do return (← readDigits highest.toNat .tooLarge 0 rest : Nat)
  | '-' :: rest =>
    if lowest < 0 then do return -((← readDigits (-lowest).toNat .tooSmall 0 rest : Nat) : Int)
    else .error .invalidDigit
  | text => do return (← readDigits highest.toNat .tooLarge 0 text : Nat)

def maxUnsigned32 : Int := 4294967295

def maxUnsigned64 : Int := 18446744073709551615

def minSigned64 : Int := -9223372036854775808

def maxSigned64 : Int := 9223372036854775807

end Latchkey.Text
