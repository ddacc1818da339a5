/-
Texts in JSON, from behind the opening quotation mark on. They can be skimmed, which finds where
they end, or read, which also asks that surrogates come in pairs and that the bytes spell text.
-/
import Latchkey.Json.Fault
import Latchkey.Digest.Bytes

namespace Latchkey.Json.Quotation

/-! ## Escapes -/

/-- The value of a hexadecimal digit of either case. -/
def hexValue? (b : UInt8) : Option Nat :=
  if 0x30 ≤ b ∧ b ≤ 0x39 then some (b.toNat - 0x30)
  else if 0x61 ≤ b ∧ b ≤ 0x66 then some (b.toNat - 0x57)
  else if 0x41 ≤ b ∧ b ≤ 0x46 then some (b.toNat - 0x37)
  else none

/-- The 16-bit unit that four hexadecimal digits spell. -/
def unit? (a b c d : UInt8) : Option Nat := do
  return ((← hexValue? a) * 16 + (← hexValue? b)) * 256 + (← hexValue? c) * 16 + (← hexValue? d)

/-- The character of an escape of one letter. -/
def letter? (b : UInt8) : Option UInt8 :=
  if b = 0x22 ∨ b = 0x5C ∨ b = 0x2F then some b
  else if b = 0x62 then some 0x08
  else if b = 0x66 then some 0x0C
  else if b = 0x6E then some 0x0A
  else if b = 0x72 then some 0x0D
  else if b = 0x74 then some 0x09
  else none

def isHighSurrogate (n : Nat) : Bool := 0xD800 ≤ n && n ≤ 0xDBFF

def isLowSurrogate (n : Nat) : Bool := 0xDC00 ≤ n && n ≤ 0xDFFF

/-- The character that a pair of surrogates stands for. -/
def pairValue (high low : Nat) : Nat := (high - 0xD800) * 0x400 + (low - 0xDC00) + 0x10000

/-- Puts the bytes of a character in front of bytes that are kept last one first. -/
def push (content : Bytes) (n : Nat) : Bytes :=
  (String.utf8EncodeChar (Char.ofNat n)).reverse ++ content

/-! ## Skimming and reading -/

/-- What follows the closing quotation mark. -/
def skim : Bytes → Except Fault Bytes
  | [] => .error .endInText
  | 0x22 :: rest => .ok rest
  | 0x5C :: 0x75 :: a :: b :: c :: d :: rest =>
    if (unit? a b c d).isSome then skim rest else .error .invalidEscape
  | 0x5C :: 0x75 :: _ => .error .endInText
  | 0x5C :: e :: rest => if (letter? e).isSome then skim rest else .error .invalidEscape
  | [0x5C] => .error .endInText
  | b :: rest => if b < 0x20 then .error .controlCharacter else skim rest

/-- The text up to the closing quotation mark. The bytes read so far are in `content`, last one
first. -/
def read (content : Bytes) : Bytes → Except Fault String
  | [] => .error .endInText
  | 0x22 :: _ =>
    match Bytes.toText? content.reverse with
    | some s => .ok s
    | none => .error .invalidCodePoint
  | 0x5C :: 0x75 :: a :: b :: c :: d :: rest =>
    match unit? a b c d with
    | none => .error .invalidEscape
    | some unit =>
      if isLowSurrogate unit then .error .loneSurrogate
      else if ¬ isHighSurrogate unit then read (push content unit) rest
      else
        match rest with
        | 0x5C :: 0x75 :: a :: b :: c :: d :: rest =>
          match unit? a b c d with
          | none => .error .invalidEscape
          | some low =>
            if isLowSurrogate low then read (push content (pairValue unit low)) rest
            else .error .loneSurrogate
        | [] | [0x5C] | 0x5C :: 0x75 :: _ => .error .endInText
        | b :: _ => .error (.unpairedSurrogate (b == 0x22))
  | 0x5C :: 0x75 :: _ => .error .endInText
  | 0x5C :: e :: rest =>
    match letter? e with
    | some b => read (b :: content) rest
    | none => .error .invalidEscape
  | [0x5C] => .error .endInText
  | b :: rest => if b < 0x20 then .error .controlCharacter else read (b :: content) rest

theorem length_lt_of_skim {bs rest : Bytes} (h : skim bs = .ok rest) : rest.length < bs.length := by
  fun_induction skim bs <;> simp_all <;> omega

end Latchkey.Json.Quotation
