/-
Numeric addresses of hosts, of four octets or of eight groups, in strict and in loose spelling.
-/
import Latchkey.Text.Integer
import Latchkey.Text.Pieces

namespace Latchkey.Address

/-! ## Four octets -/

/-- A number up to 255 without needless zeros. -/
def isOctet (cs : List Char) : Bool :=
  cs == ['0'] || (cs.head? != some '0' && !cs.isEmpty &&
    match Text.readDigits 255 .tooLarge 0 cs with
    | .ok _ => true
    | .error _ => false)

/-- Four octets between full stops. -/
def isDotted (cs : List Char) : Bool :=
  let pieces := Text.splitAt '.' cs
  pieces.length == 4 && pieces.all isOctet

/-! ## Eight groups -/

/-- Groups of up to four hexadecimal digits between colons, of which `room` may still come. One
double colon stands for one group or more, and four octets at the end for two. -/
def groups (hasGap : Bool) : (room : Nat) → List Char → Bool
  | room, [] => hasGap || room == 0
  | 0, _ :: _ => false
  | room + 1, ':' :: rest => !hasGap && groups true room rest
  | room + 1, cs =>
    let digits := (cs.take 4).takeWhile fun c => (Text.hexDigit? c).isSome
    match cs.drop digits.length with
    | [] => groups hasGap room []
    | ':' :: rest => !rest.isEmpty && groups hasGap room rest
    | '.' :: _ => isDotted cs && (room == 1 || (hasGap && 1 ≤ room))
    | _ => false

/-- Whether a text is an address of eight groups. -/
def isIpv6 : List Char → Bool
  | ':' :: ':' :: rest => groups true 7 rest
  | ':' :: _ => false
  | cs => groups false 8 cs

/-- Whether a text is an address in strict spelling. -/
def isStrict (cs : List Char) : Bool := isDotted cs || isIpv6 cs

/-! ## Loose spelling -/

/-- The base of a number and its digits: a zero in front means octal, and `0x` hexadecimal. -/
def baseOf : List Char → Nat × List Char
  | '0' :: 'x' :: digits | '0' :: 'X' :: digits => (16, digits)
  | '0' :: d :: digits => (8, d :: digits)
  | digits => (10, digits)

/-- The number that a text is in some base; no digits behind the sign of a base mean zero. -/
def number? (cs : List Char) : Option Nat :=
  let (base, digits) := baseOf cs
  if cs.isEmpty then none
  else digits.foldlM (fun n c => do
    let d ← Text.hexDigit? c
    guard (d < base)
    return n * base + d) 0

/-- The pieces of a name between full stops; one full stop at the end does not count. -/
def labels (cs : List Char) : List (List Char) :=
  let pieces := Text.splitAt '.' cs
  if pieces.getLast? = some [] then pieces.dropLast else pieces

/-- Whether a name has to be an address, because its last label is a number or made of digits. -/
def endsInNumber (cs : List Char) : Bool :=
  match (labels cs).getLast? with
  | none => false
  | some last => !last.isEmpty && (last.all Char.isDigit || (number? last).isSome)

/-- Whether a name is an address of up to four numbers, of which the last one takes the bytes that
are left. -/
def isLoose (cs : List Char) : Bool :=
  let pieces := labels cs
  pieces.length ≤ 4 &&
    match pieces.reverse.mapM number? with
    | some (last :: others) => last < Nat.pow 256 (4 - others.length) && others.all (· < 256)
    | _ => false

end Latchkey.Address
