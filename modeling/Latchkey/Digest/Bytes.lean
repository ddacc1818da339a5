/-
Byte strings as lists of bytes: the bytes of a text, big-endian words, and the hexadecimal text of
a byte string.
-/
namespace Latchkey

abbrev Bytes := List UInt8

namespace Bytes

/-- The bytes of a text in UTF-8. -/
def ofString (s : String) : Bytes := s.toUTF8.data.toList

/-- The text of bytes that are all ASCII. -/
def toAscii (bs : Bytes) : String := String.ofList (bs.map fun b => Char.ofNat b.toNat)

/-- The text that bytes spell in UTF-8, if they spell one. -/
def toText? (bs : Bytes) : Option String := String.fromUTF8? ⟨bs.toArray⟩

/-- A word of four bytes, the first the highest. -/
def word (a b c d : UInt8) : UInt32 :=
  a.toUInt32 <<< 24 ||| b.toUInt32 <<< 16 ||| c.toUInt32 <<< 8 ||| d.toUInt32

def ofWord (w : UInt32) : Bytes :=
  [(w >>> 24).toUInt8, (w >>> 16).toUInt8, (w >>> 8).toUInt8, w.toUInt8]

/-- The words of a byte string; up to three bytes at the end are left out. -/
def words : Bytes → List UInt32
  | a :: b :: c :: d :: rest => word a b c d :: words rest
  | _ => []

def hexDigit (n : Nat) : Char := Nat.digitChar n

/-- Two lower-case hexadecimal digits for each byte. -/
def toHex (bs : Bytes) : String :=
  String.ofList (bs.flatMap fun b => [hexDigit (b.toNat / 16), hexDigit (b.toNat % 16)])

@[simp] theorem length_ofWord (w : UInt32) : (ofWord w).length = 4 := rfl

end Bytes

end Latchkey
