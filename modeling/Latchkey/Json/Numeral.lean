/-
Numbers in JSON texts: their spelling, and the value that is read from it.

The value of an integer of 64 bits is exact. Any other number goes through a significand of 64 bits,
which takes digits while there is room, and a power of ten, by which the significand is multiplied
or divided in floating-point arithmetic; so a long number need not be the nearest one.
-/
import Latchkey.Json.Fault
import Latchkey.Digest.Bytes

namespace Latchkey.Json

/-- The spelling of a number; digits are kept as their values. -/
structure Numeral where
  negative : Bool
  whole : List Nat
  fraction : Option (List Nat)
  exponent : Option (Bool × List Nat)
deriving DecidableEq, Repr

namespace Numeral

/-! ## Spelling -/

/-- The value of an ASCII digit. -/
def digit? (b : UInt8) : Option Nat :=
  if 0x30 ≤ b ∧ b ≤ 0x39 then some (b.toNat - 0x30) else none

/-- The digits at the front, and the rest. -/
def spanDigits : Bytes → List Nat × Bytes
  | [] => ([], [])
  | b :: rest =>
    match digit? b with
    | some d => let (ds, rest) := spanDigits rest; (d :: ds, rest)
    | none => ([], b :: rest)

/-- At least one digit; without one, the fault tells whether the text has ended. -/
def digits (bs : Bytes) : Except Fault (List Nat × Bytes) :=
  match spanDigits bs with
  | ([], []) => .error .endInValue
  | ([], _ :: _) => .error .invalidNumber
  | found => .ok found

/-- Digits before the point: no zero stands in front of another digit. -/
def wholeDigits (bs : Bytes) : Except Fault (List Nat × Bytes) := do
  let (ds, rest) ← digits bs
  match ds with
  | 0 :: _ :: _ => .error .invalidNumber
  | _ => .ok (ds, rest)

def fractionDigits : Bytes → Except Fault (Option (List Nat) × Bytes)
  | 0x2E :: rest => do
    let (ds, rest) ← digits rest
    return (some ds, rest)
  | rest => .ok (none, rest)

/-- Whether a minus sign comes first, and the rest. -/
def minus : Bytes → Bool × Bytes
  | 0x2D :: rest => (true, rest)
  | rest => (false, rest)

/-- Whether a minus sign comes first, and what follows the sign, if there is one. -/
def sign : Bytes → Bool × Bytes
  | 0x2B :: rest => (false, rest)
  | rest => minus rest

def exponentDigits : Bytes → Except Fault (Option (Bool × List Nat) × Bytes)
  | b :: rest =>
    if b = 0x65 ∨ b = 0x45 then do
      let (negative, rest) := sign rest
      let (ds, rest) ← digits rest
      return (some (negative, ds), rest)
    else .ok (none, b :: rest)
  | [] => .ok (none, [])

/-- The number at the front of a text, and the rest. -/
def scan (bs : Bytes) : Except Fault (Numeral × Bytes) := do
  let (negative, bs) := minus bs
  let (whole, bs) ← wholeDigits bs
  let (fraction, bs) ← fractionDigits bs
  let (exponent, bs) ← exponentDigits bs
  return (⟨negative, whole, fraction, exponent⟩, bs)

theorem length_spanDigits (bs : Bytes) :
    (spanDigits bs).1.length + (spanDigits bs).2.length = bs.length := by
  fun_induction spanDigits bs <;> grind

theorem length_snd_minus_le (bs : Bytes) : (minus bs).2.length ≤ bs.length := by
  unfold minus
  split <;> simp

theorem length_snd_sign_le (bs : Bytes) : (sign bs).2.length ≤ bs.length := by
  unfold sign
  split
  · simp
  · exact length_snd_minus_le _

theorem length_lt_of_digits {bs rest : Bytes} {ds : List Nat} (h : digits bs = .ok (ds, rest)) :
    rest.length < bs.length := by
  have hlen := length_spanDigits bs
  unfold digits at h
  split at h
  · contradiction
  · contradiction
  · rename_i hnil hcons
    injection h with h
    rw [h] at hlen hnil hcons
    cases ds with
    | nil => cases rest <;> simp_all
    | cons d ds => simp at hlen; omega

theorem length_lt_of_wholeDigits {bs rest : Bytes} {ds : List Nat}
    (h : wholeDigits bs = .ok (ds, rest)) : rest.length < bs.length := by
  simp only [wholeDigits, bind, Except.bind] at h
  split at h
  · contradiction
  · rename_i found hd
    have := length_lt_of_digits hd
    split at h <;> simp_all

theorem length_le_of_fractionDigits {bs rest : Bytes} {ds : Option (List Nat)}
    (h : fractionDigits bs = .ok (ds, rest)) : rest.length ≤ bs.length := by
  unfold fractionDigits at h
  split at h
  · simp only [bind, Except.bind, pure, Except.pure] at h
    split at h
    · contradiction
    · rename_i found hd
      have := length_lt_of_digits hd
      simp_all
      omega
  · simp_all

theorem length_le_of_exponentDigits {bs rest : Bytes} {ds : Option (Bool × List Nat)}
    (h : exponentDigits bs = .ok (ds, rest)) : rest.length ≤ bs.length := by
  unfold exponentDigits at h
  split at h
  · rename_i b more
    have := length_snd_sign_le more
    split at h
    · simp only [bind, Except.bind, pure, Except.pure] at h
      split at h
      · contradiction
      · rename_i found hd
        have := length_lt_of_digits hd
        simp_all
        omega
    · simp_all
  · simp_all

theorem length_lt_of_scan {bs rest : Bytes} {n : Numeral} (h : scan bs = .ok (n, rest)) :
    rest.length < bs.length := by
  have := length_snd_minus_le bs
  simp only [scan, bind, Except.bind, pure, Except.pure] at h
  split at h
  · contradiction
  · rename_i whole hw
    have := length_lt_of_wholeDigits hw
    split at h
    · contradiction
    · rename_i fraction hf
      have := length_le_of_fractionDigits hf
      split at h
      · contradiction
      · rename_i exponent he
        have := length_le_of_exponentDigits he
        simp_all
        omega

/-! ## Value -/

/-- Adds digits to a significand while it fits 64 bits, and counts those added. -/
def fill (significand : Nat) (count : Nat) : List Nat → Nat × Nat
  | [] => (significand, count)
  | d :: ds =>
    if significand * 10 + d < Nat.pow 2 64 then fill (significand * 10 + d) (count + 1) ds
    else (significand, count)

/-- The value of digits, if it is below `2 ^ 31`. -/
def small? (value : Nat) : List Nat → Option Nat
  | [] => some value
  | d :: ds => if value * 10 + d < Nat.pow 2 31 then small? (value * 10 + d) ds else none

/-- The nearest number to a power of ten. -/
def power (n : Nat) : Option Binary64 := Binary64.ofNat (Nat.pow 10 n)

/-- Multiplies by a power of ten in one step, or divides in steps of at most `10 ^ 308`. -/
def scaleBy (x : Binary64) (e : Int) (fuel : Nat) : Option Binary64 :=
  if 0 ≤ e then
    if e ≤ 308 then do x.mul (← power e.toNat)
    else if x.isZero then some x else none
  else if -308 ≤ e then do x.div (← power (-e).toNat)
  else if x.isZero then some x
  else
    match fuel with
    | 0 => some .zero
    | fuel + 1 => do scaleBy (← x.div (← power 308)) (e + 308) fuel

/-- Three divisions by `10 ^ 308` make any significand zero. -/
def scale (x : Binary64) (e : Int) : Option Binary64 := scaleBy x e 4

def real (negative : Bool) (significand : Nat) (e : Int) : Except Fault Number :=
  match (Binary64.ofNat significand).bind (scale · e) with
  | some x => .ok (.real negative x)
  | none => .error .numberOutOfRange

/-- The value of a number. -/
def value (n : Numeral) : Except Fault Number :=
  let (significand, used) := fill 0 0 n.whole
  let left := n.whole.length - used
  match n.fraction, n.exponent with
  | none, none =>
    if left = 0 ∧ ¬ n.negative then .ok (.integer significand)
    else if left = 0 ∧ 0 < significand ∧ significand ≤ Nat.pow 2 63 then
      .ok (.integer (-(significand : Int)))
    else real n.negative significand left
  | fraction, exponent =>
    let (significand, decimals) := fill significand 0 (fraction.getD [])
    let e : Int := left - decimals
    match exponent with
    | none => real n.negative significand e
    | some (down, ds) =>
      match small? 0 ds with
      | some x => real n.negative significand (if down then e - x else e + x)
      | none =>
        if significand ≠ 0 ∧ ¬ down then .error .numberOutOfRange
        else .ok (.real n.negative .zero)

/-- Whether a number is read to its end before anything is found wrong with it: an exponent that is
too large is given up at the digit with which it leaves 31 bits. -/
def isReadWhole (n : Numeral) : Bool :=
  match n.value, n.exponent with
  | .error _, some (_, ds) => (small? 0 ds.dropLast).isSome
  | _, _ => true

end Numeral

end Latchkey.Json
