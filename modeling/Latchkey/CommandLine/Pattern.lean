/-
Whether a text is a regular expression. The texts come from directives of a log filter, in which
commas, equals signs and right braces have a meaning of their own; so no braces are ever closed
here, and whatever needs them is malformed. The properties of characters beyond the first 128 are
not at hand: classes such as digits, boundaries between words and letters of either case are only
allowed where bytes are meant.
-/
import Latchkey.Text.Alphanumeric
import Latchkey.Text.Blank
import Latchkey.Text.Integer

namespace Latchkey.CommandLine.Pattern

/-- What holds at a place of an expression, and can be changed by flags. -/
structure Mode where
  /-- Whether characters rather than bytes are meant. -/
  isUnicode : Bool
  /-- Whether a letter stands for both its cases. -/
  ignoresCase : Bool
  /-- Whether white space and comments are left out. -/
  isSpaced : Bool
deriving DecidableEq, Repr

/-- Whether characters can be listed: the other case of one is only known among the first 128. -/
def Mode.isPlain (mode : Mode) : Bool := !mode.isUnicode || !mode.ignoresCase

/-- The rest behind white space and comments, where these are left out. -/
def dropSpace (mode : Mode) (inComment : Bool) : List Char → List Char
  | [] => []
  | c :: rest =>
    if ¬ mode.isSpaced then c :: rest
    else if inComment then dropSpace mode (c ≠ '\n') rest
    else if Text.isBlankChar c then dropSpace mode false rest
    else if c = '#' then dropSpace mode true rest
    else c :: rest

/-! ## Escapes -/

inductive Item
  | literal (code : Nat)
  /-- A set of characters. -/
  | set
  /-- A condition on a place. -/
  | condition
deriving DecidableEq, Repr

/-- The character with a code of so many hexadecimal digits. -/
def readCode (count value : Nat) (cs : List Char) : Option (Item × List Char) :=
  match count, cs with
  | 0, cs => if Nat.isValidChar value then some (.literal value, cs) else none
  | count + 1, c :: cs => do readCode count (value * 16 + (← Text.hexDigit? c)) cs
  | _ + 1, [] => none
termination_by structural count

/-- The escapes that stand for a control. -/
def controls : List (Char × Nat) :=
  [('a', 0x07), ('f', 0x0C), ('t', 0x09), ('n', 0x0A), ('r', 0x0D), ('v', 0x0B)]

/-- What an escape stands for, behind its backslash. -/
def readEscape (mode : Mode) : List Char → Option (Item × List Char)
  | [] => none
  | 'x' :: cs => do
    let (item, rest) ← readCode 2 0 cs
    match item with
    | .literal code => if mode.isUnicode ∨ code < 0x80 then some (item, rest) else none
    | _ => none
  | 'u' :: cs => readCode 4 0 cs
  | 'U' :: cs => readCode 8 0 cs
  | c :: cs =>
    if c = 'd' ∨ c = 's' ∨ c = 'w' then if mode.isUnicode then none else some (.set, cs)
    else if c = 'A' ∨ c = 'z' then some (.condition, cs)
    else if c = 'b' ∨ c = 'B' ∨ c = '<' ∨ c = '>' then
      if mode.isUnicode then none else some (.condition, cs)
    else
      match controls.lookup c with
      | some code => some (.literal code, cs)
      | none => if c.toNat < 0x80 ∧ ¬ c.isAlphanum then some (.literal c.toNat, cs) else none

/-! ## Sets in brackets -/

def classNames : List String :=
  ["alnum", "alpha", "ascii", "blank", "cntrl", "digit", "graph", "lower", "print", "punct",
    "space", "upper", "word", "xdigit"]

/-- The rest behind a named class, behind its bracket and colon. -/
def afterClassName? (cs : List Char) : Option (List Char) :=
  let cs := if cs.head? = some '^' then cs.drop 1 else cs
  let name := cs.takeWhile Char.isAlpha
  match cs.drop name.length with
  | ':' :: ']' :: rest => if classNames.contains (String.ofList name) then some rest else none
  | _ => none

/-- One character or escape of a set. -/
def readItem (mode : Mode) : List Char → Option (Item × List Char)
  | [] => none
  | '\\' :: cs => readEscape mode cs
  | c :: cs => if mode.isUnicode ∨ c.toNat < 0x80 then some (.literal c.toNat, cs) else none

/-- An item of a set, or a range between two characters. -/
def readRange (mode : Mode) (cs : List Char) : Option (List Char) := do
  let (low, cs) ← readItem mode cs
  guard (low ≠ .condition)
  match dropSpace mode false cs with
  | '-' :: cs =>
    let next := (dropSpace mode false cs).head?
    if next = some ']' ∨ next = some '-' then some ('-' :: cs)
    else
      match low, ← readItem mode (dropSpace mode false cs) with
      | .literal low, (.literal high, rest) => if low ≤ high then some rest else none
      | _, _ => none
  | cs => some cs

/-- What stands at the front of a set, behind its bracket: a circumflex, hyphens and, before
anything else, a right bracket. -/
def openSet (mode : Mode) (cs : List Char) : Option (List Char) :=
  let cs := dropSpace mode false cs
  let isNegative := cs.head? = some '^'
  let behind := if isNegative then dropSpace mode false (cs.drop 1) else cs
  let items := behind.dropWhile (· = '-')
  let items := if items.length = behind.length ∧ items.head? = some ']' then items.drop 1 else items
  if mode.isPlain ∧ (isNegative → mode.isUnicode) then some items else none

/-- The rest behind a set of which `depth + 1` brackets are open. -/
def readSet (mode : Mode) : (fuel depth : Nat) → List Char → Option (List Char)
  | 0, _, _ => none
  | fuel + 1, depth, cs =>
    match dropSpace mode false cs with
    | [] => none
    | ']' :: rest =>
      match depth with
      | 0 => some rest
      | depth + 1 => readSet mode fuel depth rest
    | '[' :: rest =>
      let named := if rest.head? = some ':' then afterClassName? (rest.drop 1) else none
      match named with
      | some rest => readSet mode fuel depth rest
      | none => (openSet mode rest).bind (readSet mode fuel (depth + 1))
    | '&' :: '&' :: rest | '-' :: '-' :: rest | '~' :: '~' :: rest => readSet mode fuel depth rest
    | cs => (readRange mode cs).bind (readSet mode fuel depth)

/-! ## Groups -/

/-- How a group begins. -/
inductive Opening
  /-- A group, perhaps with a name, in which a mode holds. -/
  | group (name : Option String) (mode : Mode)
  /-- Flags for the rest of the group that they stand in. -/
  | flags (mode : Mode)
deriving DecidableEq, Repr

/-- Reads flags up to a colon or right parenthesis: each at most once, and a hyphen, which does not
come last, in front of those that are switched off. -/
def readFlags (seen : List Char) (mode : Mode) : List Char → Option (Bool × Mode × List Char)
  | [] => none
  | c :: rest =>
    let isLast := seen.head? = some '-'
    let value := ¬ seen.contains '-'
    if c = ':' then if isLast then none else some (false, mode, rest)
    else if c = ')' then if isLast ∨ seen.isEmpty then none else some (true, mode, rest)
    else if seen.contains c then none
    else if c = 'u' then readFlags (c :: seen) { mode with isUnicode := value } rest
    else if c = 'i' then readFlags (c :: seen) { mode with ignoresCase := value } rest
    else if c = 'x' then readFlags (c :: seen) { mode with isSpaced := value } rest
    else if "msUR-".toList.contains c then readFlags (c :: seen) mode rest
    else none

def isNameStart (c : Char) : Bool := c == '_' || (Text.isAlphanumeric c && !c.isDigit)

def isNameChar (c : Char) : Bool := "_.[]".toList.contains c || Text.isAlphanumeric c

/-- The name of a group and what follows its angle bracket. -/
def readName (cs : List Char) : Option (String × List Char) :=
  let name := cs.takeWhile (· ≠ '>')
  match cs.drop name.length with
  | _ :: rest =>
    if name.head?.any isNameStart ∧ name.all isNameChar then some (String.ofList name, rest)
    else none
  | [] => none

/-- What follows a left parenthesis. -/
def readOpening (mode : Mode) (cs : List Char) : Option (Opening × List Char) :=
  match dropSpace mode false cs with
  | '?' :: 'P' :: '<' :: cs | '?' :: '<' :: cs => do
    let (name, rest) ← readName cs
    return (.group (some name) mode, rest)
  | '?' :: cs => do
    let (isWhole, inner, rest) ← readFlags [] mode cs
    return (if isWhole then .flags inner else .group none inner, rest)
  | cs => some (.group none mode, cs)

/-! ## Expressions -/

/-- Where an expression is being read. -/
structure State where
  mode : Mode
  /-- The modes around the groups that are open. -/
  around : List Mode
  names : List String
  /-- Whether there is something to repeat. -/
  hasOperand : Bool
deriving DecidableEq, Repr

/-- Whether the rest of an expression is well-formed. -/
def check : (fuel : Nat) → State → List Char → Bool
  | 0, _, _ => false
  | fuel + 1, s, cs =>
    let operand := { s with hasOperand := true }
    match dropSpace s.mode false cs with
    | [] => s.around.isEmpty
    | '(' :: rest =>
      match readOpening s.mode rest with
      | some (.group name mode, rest) =>
        !name.any s.names.contains
          && check fuel ⟨mode, s.mode :: s.around, name.toList ++ s.names, false⟩ rest
      | some (.flags mode, rest) => check fuel { s with mode := mode, hasOperand := false } rest
      | none => false
    | ')' :: rest =>
      match s.around with
      | mode :: around => check fuel { operand with mode := mode, around := around } rest
      | [] => false
    | '|' :: rest => check fuel { s with hasOperand := false } rest
    | '[' :: rest =>
      match (openSet s.mode rest).bind (readSet s.mode fuel 0) with
      | some rest => check fuel operand rest
      | none => false
    | '{' :: _ => false
    | '\\' :: rest =>
      match readEscape s.mode rest with
      | some (.literal _, rest) => s.mode.isPlain && check fuel operand rest
      | some (_, rest) => check fuel operand rest
      | none => false
    | c :: rest =>
      if c = '*' ∨ c = '+' ∨ c = '?' then
        s.hasOperand && check fuel s (if rest.head? = some '?' then rest.drop 1 else rest)
      else if c = '^' ∨ c = '$' then check fuel operand rest
      else if c = '.' then s.mode.isUnicode && check fuel operand rest
      else s.mode.isPlain && check fuel operand rest

/-- Whether a text is a regular expression. -/
def isWellFormed (cs : List Char) : Bool :=
  check (cs.length + 1) ⟨⟨true, false, false⟩, [], [], false⟩ cs

end Latchkey.CommandLine.Pattern
