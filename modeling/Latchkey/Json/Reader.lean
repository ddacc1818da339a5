/-
Readers take a value off the front of the tokens, or say what is wrong with it. The first thing that
is wrong counts: a value of the wrong kind is refused before anything behind it is looked at.
-/
import Latchkey.Json.Skip
import Latchkey.Text.Integer

namespace Latchkey.Json

/-- A value read off the front, and the tokens behind it. -/
abbrev Reader (α : Type) := List Token → Reading (α × List Token)

def ofExcept {α : Type} : Except Fault α → Reading α
  | .ok a => .ok a
  | .error fault => fail fault

/-- What a token at the place of a value begins. -/
def found : Token → Except Fault Found
  | .text value _ => value.map .text
  | .number numeral => do return .number (← (← numeral).value)
  | .literal value => do
    match ← value with
    | none => return .null
    | some b => return .flag b
  | .openList => .ok .sequence
  | .openObject => .ok .map
  | _ => .error .expectedValue

/-- Refuses a value of another kind. -/
def mismatch {α : Type} (wanted : Wanted) (t : Token) : Reading α := do
  fail (.wrongType (← ofExcept (found t)) wanted)

namespace Reader

/-! ## Scalars -/

def text : Reader String
  | [] => fail .endInValue
  | .text value _ :: rest => do return (← ofExcept value, rest)
  | t :: _ => mismatch .text t

def flag : Reader Bool
  | [] => fail .endInValue
  | .literal (.ok (some b)) :: rest => .ok (b, rest)
  | t :: _ => mismatch .flag t

def integer (lowest highest : Int) (wanted : Wanted) : Reader Int
  | [] => fail .endInValue
  | .number numeral :: rest => do
    match ← ofExcept (do (← numeral).value) with
    | .integer i =>
      if lowest ≤ i ∧ i ≤ highest then .ok (i, rest) else fail (.outOfRange i wanted)
    | n => fail (.wrongType (.number n) wanted)
  | t :: _ => mismatch wanted t

def signed32 : Reader Int32 := fun ts => do
  let (i, rest) ← integer (-2147483648) 2147483647 .signed32 ts
  return (Int32.ofInt i, rest)

def signed64 : Reader Int64 := fun ts => do
  let (i, rest) ← integer Text.minSigned64 Text.maxSigned64 .signed64 ts
  return (Int64.ofInt i, rest)

/-- A value or `null`. -/
def nullable {α : Type} (read : Reader α) : Reader (Option α)
  | .literal value :: rest => do
    match ← ofExcept value with
    | none => .ok (none, rest)
    | some b => do
      let (a, rest) ← read (.literal (.ok (some b)) :: rest)
      return (some a, rest)
  | ts => do
    let (a, rest) ← read ts
    return (some a, rest)

/-! ## Values of any kind -/

/-- Passes over a value that is not asked for. -/
def ignored : Reader Unit := fun ts => do return ((), ← ofExcept (skip .lenient .value [] ts))

/-- The tokens of the value that comes first, which is kept to be read later; `depth` lists and
objects are open around it. -/
def kept (depth : Nat) : Reader (List Token) := fun ts => do
  let rest ← ofExcept (skip (.strict (depthLimit - depth)) .value [] ts)
  return (ts.take (ts.length - rest.length), rest)

/-! ## Lists of texts -/

/-- The texts behind the first one. -/
def moreTexts (found : List String) : Reader (List String)
  | .closeList :: rest => .ok (found.reverse, rest)
  | .comma :: .text value _ :: rest => do moreTexts ((← ofExcept value) :: found) rest
  | .comma :: .closeList :: _ => fail .trailingComma
  | .comma :: t :: _ => mismatch .text t
  | [.comma] => fail .endInValue
  | _ :: _ => fail .expectedListSeparator
  | [] => fail .endInList

def texts : Reader (List String)
  | .openList :: .closeList :: rest => .ok ([], rest)
  | .openList :: .text value _ :: rest => do moreTexts [← ofExcept value] rest
  | .openList :: t :: _ => mismatch .text t
  | [.openList] => fail .endInList
  | [] => fail .endInValue
  | t :: _ => mismatch .texts t

end Reader

/-- The value of a whole text: nothing but white space may stand behind it. -/
def decode {α : Type} (read : Reader α) (bs : Bytes) : Reading α := do
  let (a, rest) ← read (Token.all bs)
  if rest.isEmpty then return a else fail .trailingCharacters

end Latchkey.Json
