/-
Names of domains. Upper case and other forms of characters do not matter, some characters count for
nothing, and some are refused. The labels between full stops must be fit for display: none begins
with a mark, joiners stand where letters could join, and what is written from right to left is not
mixed with what is not. A label in its ASCII form must stand for such a label.
-/
import Latchkey.Text.Alphanumeric
import Latchkey.Text.Composition
import Latchkey.Text.Direction
import Latchkey.Text.DomainCharacters
import Latchkey.Text.Joining
import Latchkey.Text.Mark
import Latchkey.Text.Pieces
import Latchkey.Url.Punycode

namespace Latchkey.DomainName

/-! ## Characters -/

def isAscii (c : Char) : Bool := c.toNat < 0x80

/-- Characters of ASCII that no name contains. -/
def isRefused (c : Char) : Bool :=
  c.toNat ≤ 0x20 || c.toNat == 0x7F || "%#/:<>?@[\\]^|".toList.contains c

/-- What a character stands for in a name, unless it is refused. -/
def mapped? (c : Char) : Option (List Char) :=
  if isAscii c then if isRefused c then none else some [c.toLower] else Text.domainCharacter? c

/-- Whether a character stands for itself. -/
def isOwnForm (c : Char) : Bool :=
  if isAscii c then mapped? c == some [c] else Text.isOwnForm c

/-! ## Joiners -/

def joiner : Char := '\u200D'

def nonJoiner : Char := '\u200C'

/-- Whether letters on both sides would join, were it not for what stands between them. -/
def wouldJoin (before behind : List Char) : Bool :=
  (before.dropWhile Text.isMark).head?.any Text.joinsBehind
    && (behind.dropWhile Text.isMark).head?.any Text.joinsBefore

/-- Whether joiners stand behind viramas, and those that keep letters apart there or between letters
that would join. What is before is given last character first. -/
def joinersFit (before : List Char) : List Char → Bool
  | [] => true
  | c :: rest =>
    let fits :=
      if c = joiner then before.head?.any Text.isVirama
      else if c = nonJoiner then before.head?.any Text.isVirama || wouldJoin before rest
      else true
    fits && joinersFit (c :: before) rest

/-! ## Directions -/

/-- Whether a character makes a name one that is written from right to left. -/
def isTurned (c : Char) : Bool := Text.isLeftward c || Text.isArabicNumber c

/-- Whether a character is written from left to right wherever it stands. -/
def isRightward (c : Char) : Bool :=
  Text.isAlphanumeric c && !isTurned c && !Text.isEuropeanNumber c && !Text.isMark c

/-- Whether a label has one direction, which its first character gives. -/
def hasDirection : List Char → Bool
  | [] => true
  | c :: rest =>
    let label := c :: rest
    let last := (label.reverse.dropWhile Text.isMark).headD c
    if Text.isLeftward c then
      !label.any isRightward && (isTurned last || Text.isEuropeanNumber last)
        && !(label.any Text.isArabicNumber && label.any Text.isEuropeanNumber)
    else
      isRightward c && !label.any isTurned && (isRightward last || Text.isEuropeanNumber last)

/-! ## Labels -/

/-- What stands in front of the ASCII form of a label. -/
def asciiMark : List Char := ['x', 'n', '-', '-']

/-- The label that a label stands for. An ASCII form is for composed labels that are not ASCII. -/
def shown? (label : List Char) : Option (List Char) :=
  if asciiMark.isPrefixOf label then do
    let shown ← Punycode.decode? (label.drop asciiMark.length)
    guard (shown.all isOwnForm ∧ ¬ shown.all isAscii ∧ Text.isComposed shown)
    return shown
  else some label

/-- Whether a label does not begin with a mark and its joiners stand where they may. -/
def isFit (label : List Char) : Bool := !label.head?.any Text.isMark && joinersFit [] label

/-- The characters that a name stands for, with labels in their ASCII form left so; `none` if it is
no name. -/
def normalize? (cs : List Char) : Option (List Char) := do
  let name := (← cs.mapM mapped?).flatten
  let labels ← (Text.splitAt '.' name).mapM shown?
  guard (labels.all isFit)
  guard (¬ labels.any (·.any isTurned) ∨ labels.all hasDirection)
  return name

end Latchkey.DomainName
