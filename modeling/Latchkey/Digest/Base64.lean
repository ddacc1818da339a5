/-
Base64 without padding, over any alphabet of 64 symbols. Three bytes are four symbols; one or two
bytes at the end are two or three symbols, whose spare bits are zero. Decoding accepts exactly the
texts that encoding writes and says where another text goes wrong.
-/
import Latchkey.Digest.Bytes

namespace Latchkey.Base64

/-- Sixty-four symbols, by value. -/
structure Alphabet where
  symbols : Bytes
  length_eq : symbols.length = 64
  nodup : symbols.Nodup

/-- Letters, digits, hyphen and underscore. -/
def Alphabet.urlSafe : Alphabet where
  symbols := Bytes.ofString "ABCDEFGHIJKLMNOPQRSTUVWXYZabcdefghijklmnopqrstuvwxyz0123456789-_"
  length_eq := by decide +kernel
  nodup := by decide +kernel

/-- Full stop and slash, letters, digits: the order of bcrypt. -/
def Alphabet.bcrypt : Alphabet where
  symbols := Bytes.ofString "./ABCDEFGHIJKLMNOPQRSTUVWXYZabcdefghijklmnopqrstuvwxyz0123456789"
  length_eq := by decide +kernel
  nodup := by decide +kernel

/-- Why a text is no encoding. -/
inductive Fault
  | invalidSymbol (symbol : UInt8) (offset : Nat)
  /-- The last symbol has bits that belong to no byte. -/
  | invalidLastSymbol (symbol : UInt8) (offset : Nat)
  | invalidLength (length : Nat)
  | invalidPadding
deriving DecidableEq, Repr

def Fault.message : Fault → String
  | invalidSymbol symbol offset =>
    "Invalid symbol " ++ toString symbol.toNat ++ ", offset " ++ toString offset ++ "."
  | invalidLastSymbol symbol offset =>
    "Invalid last symbol " ++ toString symbol.toNat ++ ", offset " ++ toString offset ++ "."
  | invalidLength length => "Invalid input length: " ++ toString length
  | invalidPadding => "Invalid padding"

/-! ## Six-bit values and bytes -/

/-- The six-bit values of a byte string. -/
def toSextets : Bytes → List Nat
  | a :: b :: c :: rest =>
    a.toNat / 4 :: (a.toNat % 4 * 16 + b.toNat / 16) :: (b.toNat % 16 * 4 + c.toNat / 64) ::
      c.toNat % 64 :: toSextets rest
  | [a, b] => [a.toNat / 4, a.toNat % 4 * 16 + b.toNat / 16, b.toNat % 16 * 4]
  | [a] => [a.toNat / 4, a.toNat % 4 * 16]
  | [] => []

/-- Why values are those of no byte string. -/
inductive Remainder
  | spareBits
  | loneValue
deriving DecidableEq, Repr

/-- The byte string that six-bit values stand for. -/
def ofSextets : List Nat → Except Remainder Bytes
  | w :: x :: y :: z :: rest => do
    let bytes ← ofSextets rest
    return UInt8.ofNat (w * 4 + x / 16) :: UInt8.ofNat (x % 16 * 16 + y / 4) ::
      UInt8.ofNat (y % 4 * 64 + z) :: bytes
  | [w, x, y] =>
    if y % 4 = 0 then .ok [UInt8.ofNat (w * 4 + x / 16), UInt8.ofNat (x % 16 * 16 + y / 4)]
    else .error .spareBits
  | [w, x] => if x % 16 = 0 then .ok [UInt8.ofNat (w * 4 + x / 16)] else .error .spareBits
  | [_] => .error .loneValue
  | [] => .ok []

/-! ## Texts -/

def encode (alphabet : Alphabet) (bytes : Bytes) : Bytes :=
  (toSextets bytes).map fun value => alphabet.symbols.getD value 0

/-- The value of a symbol. -/
def Alphabet.value? (alphabet : Alphabet) (symbol : UInt8) : Option Nat :=
  alphabet.symbols.idxOf? symbol

/-- The values of the symbols of a text, whose first symbol stands at `offset`. -/
def values (alphabet : Alphabet) (offset : Nat) : Bytes → Except Fault (List Nat)
  | [] => .ok []
  | symbol :: rest =>
    match alphabet.value? symbol with
    | none => .error (.invalidSymbol symbol offset)
    | some value => do return value :: (← values alphabet (offset + 1) rest)

/-- The sign that other writers fill a text up with. -/
def padding : UInt8 := 61

/-- Whether the only thing wrong with the symbols of a text is one or two signs of padding where
its last group of four has room for them. -/
def isPadded (alphabet : Alphabet) (text : Bytes) : Bool :=
  let tail := text.reverse.takeWhile (· == padding)
  let core := text.take (text.length - tail.length)
  !tail.isEmpty && (core.length % 4 ≥ 2 && core.length / 4 == (text.length - 1) / 4)
    && core.all fun symbol => (alphabet.value? symbol).isSome

/-- The byte string that a text encodes. -/
def decode (alphabet : Alphabet) (text : Bytes) : Except Fault Bytes :=
  if isPadded alphabet text then .error .invalidPadding
  else do
    let values ← values alphabet 0 text
    match ofSextets values with
    | .ok bytes => .ok bytes
    | .error .spareBits =>
      .error (.invalidLastSymbol (text.getLastD 0) (text.length - 1))
    | .error .loneValue => .error (.invalidLength text.length)

end Latchkey.Base64
