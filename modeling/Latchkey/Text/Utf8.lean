/-
Bytes that should spell text in UTF-8, read from left to right: where they stop doing so, and the
text that they spell if every broken piece counts as one replacement character. A broken piece is as
long as it could still have become a character.
-/
import Latchkey.Digest.Bytes

namespace Latchkey.Text.Utf8

/-- The first place at which bytes spell no text. -/
structure Fault where
  /-- How many bytes in front spell text. -/
  validLength : Nat
  /-- How many bytes make up the broken piece; `none` if the end cuts a character off. -/
  brokenLength : Option Nat
deriving DecidableEq, Repr

/-- How many bytes follow the first byte of a character, and the bounds of the second one. -/
def follow? (b : UInt8) : Option (Nat × UInt8 × UInt8) :=
  if 0xC2 ≤ b ∧ b ≤ 0xDF then some (1, 0x80, 0xBF)
  else if b = 0xE0 then some (2, 0xA0, 0xBF)
  else if b = 0xED then some (2, 0x80, 0x9F)
  else if 0xE1 ≤ b ∧ b ≤ 0xEF then some (2, 0x80, 0xBF)
  else if b = 0xF0 then some (3, 0x90, 0xBF)
  else if 0xF1 ≤ b ∧ b ≤ 0xF3 then some (3, 0x80, 0xBF)
  else if b = 0xF4 then some (3, 0x80, 0x8F)
  else none

/-- The bytes of a character when `left` more have to follow and `length` are there; without them,
how many bytes make up the broken piece. -/
def continued (left length : Nat) : Bytes → Except (Option Nat) Nat
  | [] => if left = 0 then .ok length else .error none
  | b :: rest =>
    match left with
    | 0 => .ok length
    | left + 1 =>
      if 0x80 ≤ b ∧ b ≤ 0xBF then continued left (length + 1) rest else .error (some length)

/-- How many bytes the character that begins with a byte has. -/
def front (b : UInt8) (rest : Bytes) : Except (Option Nat) Nat :=
  if b < 0x80 then .ok 1
  else
    match follow? b, rest with
    | none, _ => .error (some 1)
    | some _, [] => .error none
    | some (left, low, high), c :: rest =>
      if low ≤ c ∧ c ≤ high then continued (left - 1) 2 rest else .error (some 1)

/-- Looks for a fault behind `offset` bytes, of which `skip` more belong to a character. -/
def findFault (offset skip : Nat) : Bytes → Option Fault
  | [] => none
  | b :: rest =>
    match skip with
    | skip + 1 => findFault (offset + 1) skip rest
    | 0 =>
      match front b rest with
      | .ok length => findFault (offset + 1) (length - 1) rest
      | .error broken => some ⟨offset, broken⟩

/-- The first fault of bytes that spell no text. -/
def fault? (bs : Bytes) : Option Fault := findFault 0 0 bs

/-- The character that the bytes of one character spell. -/
def character (b : UInt8) (more : Bytes) : Char :=
  let mark : Nat := if b < 0x80 then b.toNat else b.toNat % Nat.pow 2 (6 - more.length)
  Char.ofNat (more.foldl (fun n c => n * 64 + c.toNat % 64) mark)

/-- Reads on behind `skip` bytes that belong to what was read last. -/
def spell (skip : Nat) : Bytes → List Char
  | [] => []
  | b :: rest =>
    match skip with
    | skip + 1 => spell skip rest
    | 0 =>
      match front b rest with
      | .ok length => character b (rest.take (length - 1)) :: spell (length - 1) rest
      | .error (some length) => '\uFFFD' :: spell (length - 1) rest
      | .error none => ['\uFFFD']

/-- The text of bytes, with a replacement character for each broken piece. -/
def mend (bs : Bytes) : String := String.ofList (spell 0 bs)

end Latchkey.Text.Utf8
