/-
Media types, such as `application/problem+json; charset=utf-8`: a type, a subtype, the suffix behind
the last plus sign of the subtype, and parameters, which must be well-formed but are not kept.
-/
namespace Latchkey.Http

structure MediaType where
  type : String
  subtype : String
  suffix : Option String
deriving DecidableEq, Repr

namespace MediaType

/-- Letters, digits and the signs that a name may hold. -/
def isNameChar (c : Char) : Bool :=
  c.isAlphanum || "!#$%&'*+-.^_|~\x60".toList.contains c

/-! ## Parameters -/

/-- Where in the parameters the reading stands. -/
inductive Place
  | beforeName
  | inName
  | beforeValue
  | inValue
  | openQuote
  | inQuote
  | afterQuote
deriving DecidableEq, Repr

def isQuotable (c : Char) : Bool := 31 < c.toNat && c.toNat ≠ 127

/-- The place behind the next character. -/
def Place.next? : Place → Char → Option Place
  | beforeName, c => if c = ' ' then some beforeName else if isNameChar c then some inName else none
  | inName, c => if c = '=' then some beforeValue else if isNameChar c then some inName else none
  | beforeValue, c =>
    if c = '"' then some openQuote else if isNameChar c then some inValue else none
  | inValue, c => if c = ';' then some beforeName else if isNameChar c then some inValue else none
  | openQuote, c => if isQuotable c then some inQuote else none
  | inQuote, c =>
    if c = '"' then some afterQuote else if isQuotable c then some inQuote else none
  | afterQuote, c =>
    if c = ';' then some beforeName else if c = ' ' then some afterQuote else none

/-- Whether the parameters may end here. -/
def Place.isEnd : Place → Bool
  | beforeName | beforeValue | inValue | afterQuote => true
  | inName | openQuote | inQuote => false

/-- Whether the text behind the first semicolon is well-formed. -/
def areParameters (cs : List Char) : Bool :=
  ((cs.foldlM Place.next? .beforeName).map Place.isEnd).getD false

/-! ## Types -/

/-- Splits a subtype at its last plus sign, unless nothing stands in front of it. -/
def splitSuffix (cs : List Char) : List Char × Option (List Char) :=
  let tail := (cs.reverse.takeWhile (· ≠ '+')).reverse
  let front := cs.take (cs.length - tail.length - 1)
  if front.isEmpty ∨ tail.length = cs.length then (cs, none) else (front, some tail)

def lower (cs : List Char) : String := String.ofList (cs.map Char.toLower)

/-- The media type that a text spells. -/
def parse? (text : String) : Option MediaType :=
  let cs := text.toList
  let type := cs.takeWhile isNameChar
  match type, cs.dropWhile isNameChar with
  | _ :: _, '/' :: rest =>
    let name := rest.takeWhile isNameChar
    let (subtype, suffix) := splitSuffix name
    let found : MediaType := ⟨lower type, lower subtype, suffix.map lower⟩
    match rest.dropWhile isNameChar with
    | [] => some found
    | ';' :: parameters => if ¬ name.isEmpty ∧ areParameters parameters then some found else none
    | _ => none
  | _, _ => none

/-- JSON by its own name or by its suffix. -/
def isJson (m : MediaType) : Bool :=
  m.type == "application" && (m.subtype == "json" || m.suffix == some "json")

end MediaType

end Latchkey.Http
