/-
The Blowfish cipher and its expensive key schedule, in which a salt takes part and the schedule is
run `2 ^ cost` times over.

The cipher starts from the binary digits of the fractional part of π, which are computed here.
-/
import Latchkey.Digest.Bytes

namespace Latchkey.Blowfish

/-! ## The digits of π -/

/-- Adds `scale / (x * odd)`, `-scale / (x ^ 3 * (odd + 2))` and so on, `n` terms in all; `power`
is the quotient of the scale by the power of `x` at hand, `square` the square of `x`. -/
def arctanTerms (square : Nat) : (n power odd : Nat) → (sign sum : Int) → Int
  | 0, _, _, _, sum => sum
  | n + 1, power, odd, sign, sum =>
    arctanTerms square n (power / square) (odd + 2) (-sign) (sum + sign * (power / odd : Nat))

/-- The arc tangent of `1 / x`, as a multiple of `1 / 2 ^ bits`, from its power series. -/
def arctanInverse (x bits : Nat) : Int :=
  arctanTerms (x * x) bits (Nat.pow 2 bits / x) 1 1 0

/-- How many words the cipher starts from: 18 subkeys and four boxes of 256. -/
def wordCount : Nat := 18 + 4 * 256

/-- The first binary digits of the fractional part of π, as many as fill the words, from
`π = 16 arctan (1 / 5) - 4 arctan (1 / 239)` with 64 digits to spare. -/
def piDigits : Nat :=
  let bits := 32 * wordCount + 64
  let pi := 16 * arctanInverse 5 bits - 4 * arctanInverse 239 bits
  (pi - (3 * Nat.pow 2 bits : Nat)).toNat / Nat.pow 2 64

def piWord (digits i : Nat) : UInt32 := UInt32.ofNat (digits >>> (32 * (wordCount - 1 - i)))

/-! ## The cipher -/

structure Keys where
  subkeys : Vector UInt32 18
  box0 : Vector UInt32 256
  box1 : Vector UInt32 256
  box2 : Vector UInt32 256
  box3 : Vector UInt32 256

def initialKeys : Keys :=
  let digits := piDigits
  { subkeys := Vector.ofFn fun i => piWord digits i
    box0 := Vector.ofFn fun i => piWord digits (18 + i)
    box1 := Vector.ofFn fun i => piWord digits (18 + 256 + i)
    box2 := Vector.ofFn fun i => piWord digits (18 + 512 + i)
    box3 := Vector.ofFn fun i => piWord digits (18 + 768 + i) }

namespace Keys

@[inline] def mix (k : Keys) (x : UInt32) : UInt32 :=
  ((k.box0.get (x >>> 24).toUInt8.toFin + k.box1.get (x >>> 16).toUInt8.toFin)
    ^^^ k.box2.get (x >>> 8).toUInt8.toFin) + k.box3.get x.toUInt8.toFin

/-- Enciphers a block of two words: sixteen rounds, taken in pairs so that the halves need not be
exchanged. -/
def encrypt (k : Keys) (left right : UInt32) : UInt32 × UInt32 :=
  let (l, r) := Fin.foldl 8 (fun (l, r) i =>
    let l := l ^^^ k.subkeys[2 * i.val]
    let r := r ^^^ k.mix l ^^^ k.subkeys[2 * i.val + 1]
    (l ^^^ k.mix r, r)) (left, right)
  (r ^^^ k.subkeys[17], l ^^^ k.subkeys[16])

/-! ## The key schedule -/

/-- Word `i` of an endless repetition of the bytes of a key. -/
def cyclicWord (key : Array UInt8) (i : Nat) : UInt32 :=
  let byte := fun j => key.getD ((4 * i + j) % key.size) 0
  Bytes.word (byte 0) (byte 1) (byte 2) (byte 3)

/-- The next pair of words of a schedule: the last one, joined with the salt's words, enciphered
anew. The four words of the salt are used in turn, two for every step. -/
@[inline] def nextPair (k : Keys) (salt : Vector UInt32 4) (step : Nat) (last : UInt32 × UInt32) :
    UInt32 × UInt32 :=
  let s := 2 * (step % 2)
  have : s + 1 < 4 := by omega
  k.encrypt (last.1 ^^^ salt[s]) (last.2 ^^^ salt[s + 1])

/-- Replaces all subkeys and box entries, pair by pair, starting from the key's words. -/
def expand (k : Keys) (salt : Vector UInt32 4) (key : Vector UInt32 18) : Keys :=
  let start : Keys := { k with subkeys := Vector.zipWith (· ^^^ ·) k.subkeys key }
  let (k, last) := Fin.foldl 9 (fun (k, last) i =>
    let pair := nextPair k salt i last
    ({ k with subkeys := (k.subkeys.set (2 * i.val) pair.1).set (2 * i.val + 1) pair.2 }, pair))
    (start, ((0, 0) : UInt32 × UInt32))
  let (k, last) := Fin.foldl 128 (fun (k, last) i =>
    let pair := nextPair k salt (9 + i) last
    ({ k with box0 := (k.box0.set (2 * i.val) pair.1).set (2 * i.val + 1) pair.2 }, pair)) (k, last)
  let (k, last) := Fin.foldl 128 (fun (k, last) i =>
    let pair := nextPair k salt (137 + i) last
    ({ k with box1 := (k.box1.set (2 * i.val) pair.1).set (2 * i.val + 1) pair.2 }, pair)) (k, last)
  let (k, last) := Fin.foldl 128 (fun (k, last) i =>
    let pair := nextPair k salt (265 + i) last
    ({ k with box2 := (k.box2.set (2 * i.val) pair.1).set (2 * i.val + 1) pair.2 }, pair)) (k, last)
  let (k, _) := Fin.foldl 128 (fun (k, last) i =>
    let pair := nextPair k salt (393 + i) last
    ({ k with box3 := (k.box3.set (2 * i.val) pair.1).set (2 * i.val + 1) pair.2 }, pair)) (k, last)
  k

def noSalt : Vector UInt32 4 := #v[0, 0, 0, 0]

/-- The schedule for a key and a salt, made expensive by `2 ^ cost` repetitions. -/
def expensive (cost : Nat) (salt : Bytes) (key : Bytes) : Keys :=
  let salt := salt.toArray
  let key := key.toArray
  let saltWords := Vector.ofFn fun i : Fin 4 => cyclicWord salt i
  let keyPad := Vector.ofFn fun i : Fin 18 => cyclicWord key i
  let saltPad := Vector.ofFn fun i : Fin 18 => cyclicWord salt i
  Nat.fold (Nat.pow 2 cost) (fun _ _ k => (k.expand noSalt keyPad).expand noSalt saltPad)
    (initialKeys.expand saltWords keyPad)

/-- Enciphers a block sixty-four times. -/
def encrypt64 (k : Keys) (block : UInt32 × UInt32) : UInt32 × UInt32 :=
  Nat.fold 64 (fun _ _ (l, r) => k.encrypt l r) block

end Keys

end Latchkey.Blowfish
