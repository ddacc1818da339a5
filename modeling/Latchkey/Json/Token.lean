/-
The tokens of a JSON text. A text or number that is malformed is a token too and carries its fault,
because it depends on the reader whether the fault matters: one who expects a colon never looks
inside a number, and one who skips a text does not mind a lone surrogate in it. Behind a token that
nobody can get past there are no more tokens.
-/
import Latchkey.Json.Numeral
import Latchkey.Json.Quotation

namespace Latchkey.Json

inductive Token
  | openObject
  | closeObject
  | openList
  | closeList
  | colon
  | comma
  /-- A text, and the fault that even skipping it meets. -/
  | text (value : Except Fault String) (broken : Option Fault)
  | number (numeral : Except Fault Numeral)
  /-- `null`, `true` or `false`. -/
  | literal (value : Except Fault (Option Bool))
  /-- A byte that begins no token. -/
  | stray

namespace Token

/-- Space, tab, line feed and carriage return. -/
def isSpace (b : UInt8) : Bool := b == 0x20 || b == 0x09 || b == 0x0A || b == 0x0D

/-- What follows the letters of a literal. -/
def expect : (letters : Bytes) → Bytes → Except Fault Bytes
  | [], rest => .ok rest
  | _ :: _, [] => .error .endInValue
  | l :: letters, b :: rest => if b = l then expect letters rest else .error .expectedLiteral

def ofText (bs : Bytes) : Token × Bytes :=
  match Quotation.skim bs with
  | .ok rest => (.text (Quotation.read [] bs) none, rest)
  | .error fault => (.text (Quotation.read [] bs) (some fault), [])

def ofNumber (bs : Bytes) : Token × Bytes :=
  match Numeral.scan bs with
  | .ok (numeral, rest) => (.number (.ok numeral), rest)
  | .error fault => (.number (.error fault), [])

def ofLiteral (value : Option Bool) (letters bs : Bytes) : Token × Bytes :=
  match expect letters bs with
  | .ok rest => (.literal (.ok value), rest)
  | .error fault => (.literal (.error fault), [])

/-- The token that a byte is by itself. -/
def ofByte? (b : UInt8) : Option Token :=
  if b = 0x7B then some .openObject
  else if b = 0x7D then some .closeObject
  else if b = 0x5B then some .openList
  else if b = 0x5D then some .closeList
  else if b = 0x3A then some .colon
  else if b = 0x2C then some .comma
  else none

/-- The literal that begins with a byte, and its other letters. -/
def literal? (b : UInt8) : Option (Option Bool × Bytes) :=
  if b = 0x6E then some (none, [0x75, 0x6C, 0x6C])
  else if b = 0x74 then some (some true, [0x72, 0x75, 0x65])
  else if b = 0x66 then some (some false, [0x61, 0x6C, 0x73, 0x65])
  else none

/-- The token that begins with a byte, and the rest. -/
def startingWith (b : UInt8) (rest : Bytes) : Token × Bytes :=
  if b = 0x22 then ofText rest
  else if b = 0x2D ∨ 0x30 ≤ b ∧ b ≤ 0x39 then ofNumber (b :: rest)
  else
    match ofByte? b, literal? b with
    | some t, _ => (t, rest)
    | none, some (value, letters) => ofLiteral value letters rest
    | none, none => (.stray, rest)

/-- The first token of a text and the rest, unless only white space is left. -/
def next? (bs : Bytes) : Option (Token × Bytes) :=
  match bs.dropWhile isSpace with
  | [] => none
  | b :: rest => some (startingWith b rest)

/-! ## Every token takes at least one byte -/

theorem length_le_of_expect {letters bs rest : Bytes} (h : expect letters bs = .ok rest) :
    rest.length ≤ bs.length := by
  fun_induction expect letters bs <;> grind

theorem length_snd_ofText_le (bs : Bytes) : (ofText bs).2.length ≤ bs.length := by
  unfold ofText
  split
  · rename_i h
    exact Nat.le_of_lt (Quotation.length_lt_of_skim h)
  · simp

theorem length_snd_ofNumber_lt (b : UInt8) (bs : Bytes) :
    (ofNumber (b :: bs)).2.length < (b :: bs).length := by
  unfold ofNumber
  split
  · rename_i h
    exact Numeral.length_lt_of_scan h
  · simp

theorem length_snd_ofLiteral_le (value : Option Bool) (letters bs : Bytes) :
    (ofLiteral value letters bs).2.length ≤ bs.length := by
  unfold ofLiteral
  split
  · rename_i h
    exact length_le_of_expect h
  · simp

theorem length_snd_startingWith_lt (b : UInt8) (rest : Bytes) :
    (startingWith b rest).2.length < (b :: rest).length := by
  unfold startingWith
  split
  · exact Nat.lt_succ_of_le (length_snd_ofText_le rest)
  · split
    · exact length_snd_ofNumber_lt b rest
    · split
      · simp
      · exact Nat.lt_succ_of_le (length_snd_ofLiteral_le _ _ rest)
      · simp

theorem length_lt_of_next? {bs rest : Bytes} {t : Token} (h : next? bs = some (t, rest)) :
    rest.length < bs.length := by
  have hle := (List.dropWhile_suffix isSpace (l := bs)).length_le
  unfold next? at h
  split at h
  · contradiction
  · rename_i b more heq
    have := length_snd_startingWith_lt b more
    rw [heq] at hle
    simp_all
    omega

/-- Puts the tokens of a text behind those that are there, which are kept last one first. -/
def scan (found : List Token) (bs : Bytes) : List Token :=
  match _h : next? bs with
  | none => found.reverse
  | some (t, rest) => scan (t :: found) rest
termination_by bs.length
decreasing_by exact length_lt_of_next? (by assumption)

/-- The tokens of a text. -/
def all (bs : Bytes) : List Token := scan [] bs

end Token

end Latchkey.Json
