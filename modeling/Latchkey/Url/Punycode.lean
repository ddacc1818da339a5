/-
Labels of domain names in their ASCII form. A label is its ASCII characters, then a hyphen if there
are any, then numbers that put in the other characters: each number tells how far the next code
point and its place lie behind the last ones. The digits of a number are letters and decimal digits,
least digit first, and a digit below a threshold is the last one.
-/
namespace Latchkey.Punycode

def digit? (c : Char) : Option Nat :=
  if 'a' ≤ c ∧ c ≤ 'z' then some (c.toNat - 'a'.toNat)
  else if 'A' ≤ c ∧ c ≤ 'Z' then some (c.toNat - 'A'.toNat)
  else if c.isDigit then some (c.toNat - '0'.toNat + 26)
  else none

/-- The threshold of a digit; `k` grows by 36 from digit to digit. -/
def threshold (k bias : Nat) : Nat :=
  if k ≤ bias then 1 else if bias + 26 ≤ k then 26 else k - bias

/-- Divides by 35 until at most 455 is left, and adds 36 for each division. -/
def shrink (delta k : Nat) : Nat × Nat :=
  if 455 < delta then shrink (delta / 35) (k + 36) else (delta, k)
termination_by delta
decreasing_by exact Nat.div_lt_self (by omega) (by omega)

/-- The bias behind a number, when there are `size` characters. -/
def adapt (delta size : Nat) (isFirst : Bool) : Nat :=
  let delta := if isFirst then delta / 700 else delta / 2
  let (delta, k) := shrink (delta + delta / size) 0
  k + 36 * delta / (delta + 38)

/-- A label while its numbers are read. -/
structure Draft where
  output : List Char
  code : Nat
  /-- Where the last character was put in, plus the digits of the number that is being read. -/
  position : Nat
  bias : Nat
  /-- The position at which the number began. -/
  start : Nat
  /-- What the next digit counts. -/
  weight : Nat
  k : Nat
deriving DecidableEq, Repr

namespace Draft

def ofAscii (output : List Char) : Draft := ⟨output, 0x80, 0, 72, 0, 1, 36⟩

/-- Takes the next digit. -/
def take (d : Draft) (c : Char) : Option Draft := do
  let digit ← digit? c
  let position := d.position + digit * d.weight
  let limit := threshold d.k d.bias
  if digit < limit then
    let size := d.output.length + 1
    let code := d.code + position / size
    guard (Nat.isValidChar code)
    let place := position % size
    return { output := d.output.take place ++ Char.ofNat code :: d.output.drop place
             code := code
             position := place + 1
             bias := adapt (position - d.start) size (d.start == 0)
             start := place + 1
             weight := 1
             k := 36 }
  else return { d with position := position, weight := d.weight * (36 - limit), k := d.k + 36 }

end Draft

/-- The label that an ASCII form stands for. The hyphen has something in front of it, and the last
number has its last digit. -/
def decode? (cs : List Char) : Option (List Char) := do
  let numbers := (cs.reverse.takeWhile (· ≠ '-')).reverse
  let ascii := (cs.take (cs.length - numbers.length)).dropLast
  guard (numbers.length + 1 ≠ cs.length)
  let d ← numbers.foldlM Draft.take (.ofAscii ascii)
  guard (d.k = 36 ∧ ascii.all fun c => c.toNat < 0x80)
  return d.output

end Latchkey.Punycode
