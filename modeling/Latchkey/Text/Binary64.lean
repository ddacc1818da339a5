/-
Non-negative floating-point numbers of 64 bits in exact arithmetic: rounding a quotient to the
nearest, products and quotients, and the shortest decimal that reads back as the number.
-/
namespace Latchkey

/-- `mantissa * 2 ^ exponent`, with at most 53 bits of mantissa and an exponent of at least
-1074. -/
structure Binary64 where
  mantissa : Nat
  exponent : Int
deriving DecidableEq, Repr

namespace Binary64

def zero : Binary64 := ⟨0, -1074⟩

def isZero (x : Binary64) : Bool := x.mantissa == 0

/-- The quotient of two numbers times a power of two, as a quotient. -/
def scale (num den : Nat) (e : Int) : Nat × Nat :=
  if 0 ≤ e then (num * Nat.pow 2 e.toNat, den) else (num, den * Nat.pow 2 (-e).toNat)

/-- The nearest whole number; a half goes to the even neighbour. -/
def roundDiv (num den : Nat) : Nat :=
  let q := num / den
  let twice := 2 * (num % den)
  if twice < den ∨ (twice = den ∧ q % 2 = 0) then q else q + 1

/-- The nearest number to `num / den`, unless it is too large to be finite. -/
def round (num den : Nat) : Option Binary64 :=
  if num = 0 then some zero
  else
    let guess : Int := (Nat.log2 num : Int) - Nat.log2 den
    let (n, d) := scale num den (-guess)
    let high : Int := if d ≤ n then guess else guess - 1
    let e := max (high - 52) (-1074)
    let (n, d) := scale num den (-e)
    let m := roundDiv n d
    let (m, e) := if m = Nat.pow 2 53 then (Nat.pow 2 52, e + 1) else (m, e)
    if 971 < e then none else some ⟨m, e⟩

/-- The number as a quotient. -/
def ratio (x : Binary64) : Nat × Nat := scale x.mantissa 1 x.exponent

def ofNat (n : Nat) : Option Binary64 := round n 1

def mul (x y : Binary64) : Option Binary64 :=
  round (x.ratio.1 * y.ratio.1) (x.ratio.2 * y.ratio.2)

def div (x y : Binary64) : Option Binary64 :=
  round (x.ratio.1 * y.ratio.2) (x.ratio.2 * y.ratio.1)

/-! ## Shortest decimals -/

/-- The least `k`, from `k` on and within `fuel` steps, for which `num * 10 ^ k` reaches `den`. -/
def powerToReach (num den : Nat) : (fuel k : Nat) → Nat
  | 0, k => k
  | fuel + 1, k => if den ≤ num * Nat.pow 10 k then k else powerToReach num den fuel (k + 1)

/-- The place of the first digit of `num / den`: 0 for the ones, 1 for the tens, -1 for the
tenths. -/
def firstPlace (num den : Nat) : Int :=
  if den ≤ num then ((Nat.toDigits 10 (num / den)).length : Int) - 1
  else -(powerToReach num den 330 1 : Int)

/-- The ends of the interval of reals that round to the number, and whether they belong to it. -/
def interval (x : Binary64) : (Nat × Nat) × (Nat × Nat) × Bool :=
  let narrow := x.mantissa = Nat.pow 2 52 ∧ -1074 < x.exponent
  let low := if narrow then scale (4 * x.mantissa - 1) 4 x.exponent
    else scale (2 * x.mantissa - 1) 2 x.exponent
  (low, scale (2 * x.mantissa + 1) 2 x.exponent, x.mantissa % 2 == 0)

/-- Whether `d * 10 ^ e` rounds to the number. -/
def readsBack (x : Binary64) (d : Nat) (e : Int) : Bool :=
  let (low, high, closed) := x.interval
  let (n, m) := if 0 ≤ e then (d * Nat.pow 10 e.toNat, 1) else (d, Nat.pow 10 (-e).toNat)
  if closed then low.1 * m ≤ n * low.2 && n * high.2 ≤ high.1 * m
  else low.1 * m < n * low.2 && n * high.2 < high.1 * m

/-- The decimal of `digits` digits that reads back and is nearest, if there is one, as an integer
and a power of ten. -/
def nearest? (x : Binary64) (digits : Nat) : Option (Nat × Int) :=
  let (num, den) := x.ratio
  let e := firstPlace num den + 1 - digits
  let (n, m) := if 0 ≤ e then (num, den * Nat.pow 10 e.toNat)
    else (num * Nat.pow 10 (-e).toNat, den)
  let d := n / m
  let up := 2 * (n % m) > m ∨ (2 * (n % m) = m ∧ d % 2 = 1)
  let (first, second) := if up then (d + 1, d) else (d, d + 1)
  if x.readsBack first e then some (first, e)
  else if x.readsBack second e then some (second, e)
  else none

/-- The fewest digits that read back, at most seventeen. -/
def shortest (x : Binary64) : Nat × Int :=
  ((List.range 17).findSome? fun i => x.nearest? (i + 1)).getD (0, 0)

/-! ## Texts -/

/-- Where positional notation ends. -/
def positional (place : Int) : Bool := -5 ≤ place && place ≤ 15

/-- The decimal text: positional with at least one decimal, or one digit before the point and an
exponent with its sign. -/
def text (x : Binary64) : String :=
  if x.isZero then "0.0"
  else
    let (d, e) := x.shortest
    let all := Nat.toDigits 10 d
    let place : Int := e + all.length - 1
    let ds := (all.reverse.dropWhile (· == '0')).reverse
    let zeros := fun (n : Int) => List.replicate n.toNat '0'
    if positional place then
      if ds.length ≤ place + 1 then
        String.ofList (ds ++ zeros (place + 1 - ds.length) ++ ['.', '0'])
      else if 0 ≤ place then
        String.ofList (ds.take (place + 1).toNat ++ '.' :: ds.drop (place + 1).toNat)
      else String.ofList ('0' :: '.' :: zeros (-place - 1) ++ ds)
    else
      let rest := ds.drop 1
      let point := if rest.isEmpty then [] else ['.']
      let sign := if 0 ≤ place then '+' else '-'
      String.ofList
        (ds.take 1 ++ point ++ rest ++ 'e' :: sign :: Nat.toDigits 10 place.natAbs)

end Binary64

end Latchkey
