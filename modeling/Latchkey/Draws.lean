/-
Random values. A call draws all it may need before it starts: two random ids for a new account, one
id for a new row, an opaque token and a salt. The ids are UUIDs of version 4 and 7; the token is 64
letters and digits.
-/
import Latchkey.Clock
import Latchkey.Digest.Bytes

namespace Latchkey

/-! ## Ids -/

namespace Uuid

/-- The lengths in bytes of the groups between hyphens. -/
def groups : List Nat := [4, 2, 2, 2, 6]

def groupTexts : List Nat → Bytes → List String
  | [], _ => []
  | n :: ns, bs => Bytes.toHex (bs.take n) :: groupTexts ns (bs.drop n)

/-- Sixteen bytes as text. -/
def text (bs : Bytes) : String := "-".intercalate (groupTexts groups bs)

/-- Sets the version and the variant of the standard. -/
def mark (version : Nat) (bs : Bytes) : Bytes :=
  (bs.modify 6 fun b => UInt8.ofNat (version * 16 + b.toNat % 16)).modify 8 fun b =>
    UInt8.ofNat (0x80 + b.toNat % 64)

/-- The id of version 4 with the given random bytes. -/
def random (bs : Bytes) : String := text (mark 4 bs)

/-- The first six bytes of an id of version 7: milliseconds since 1970. -/
def stamp (t : Instant) : Bytes :=
  (List.range 6).map fun i => UInt8.ofNat (t.toNat / Nat.pow 256 (5 - i))

/-- The id of version 7 for an instant with the given random bytes. -/
def timed (t : Instant) (bs : Bytes) : String := text (mark 7 (stamp t ++ bs.drop 6))

/-- The version in the text of an id. -/
def version? (id : String) : Option Nat :=
  id.toList[14]?.bind fun c => if c.isDigit then some (c.toNat - '0'.toNat) else none

end Uuid

/-! ## Opaque tokens -/

namespace OpaqueToken

def length : Nat := 64

def symbols : List Char :=
  "ABCDEFGHIJKLMNOPQRSTUVWXYZabcdefghijklmnopqrstuvwxyz0123456789".toList

/-- One symbol for each byte. -/
def ofBytes (bs : Bytes) : String :=
  String.ofList (bs.map fun b => symbols.getD (b.toNat % 62) 'A')

end OpaqueToken

/-! ## The draws of a call -/

structure Draws where
  accountId : String
  customerId : String
  rowId : String
  token : String
  salt : Bytes
deriving DecidableEq, Repr

/-- Bytes that the draws of a call are made of. -/
def Draws.size : Nat := 128

/-- The draws of a call at an instant, from random bytes. -/
def Draws.ofBytes (t : Instant) (bs : Bytes) : Draws where
  accountId := Uuid.random (bs.take 16)
  customerId := Uuid.random ((bs.drop 16).take 16)
  rowId := Uuid.timed t ((bs.drop 32).take 16)
  salt := (bs.drop 48).take 16
  token := OpaqueToken.ofBytes ((bs.drop 64).take OpaqueToken.length)

end Latchkey
