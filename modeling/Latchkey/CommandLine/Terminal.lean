/-
What is seen of a text when no colours are wanted. Escape sequences and controls are left out; line
breaks, tabs and form feeds stay, and one of them also ends a sequence that it stands in, if that is
not a string.
-/
namespace Latchkey.CommandLine.Terminal

/-- Where in an escape sequence the reading stands. -/
inductive Place
  /-- Outside of sequences. -/
  | ground
  | escape
  /-- Behind an escape and a space or mark. -/
  | intermediate
  /-- In a sequence that a left bracket begins and a letter ends. -/
  | control
  /-- In front of the string of a device. -/
  | deviceStart
  | deviceParameters
  | deviceIntermediate
  /-- In a string that the byte 0x9C ends. -/
  | string
  /-- In a command of the system, which the bell ends. -/
  | command
deriving DecidableEq, Repr

/-- Controls that are seen. -/
def isBreak (c : Char) : Bool := c == '\t' || c == '\n' || c == '\x0C' || c == '\r'

/-- Space and the marks up to the slash. -/
def isMark (c : Char) : Bool := 0x20 ≤ c.toNat && c.toNat ≤ 0x2F

/-- What ends a sequence. -/
def isFinal (c : Char) : Bool := 0x40 ≤ c.toNat && c.toNat ≤ 0x7E

/-- Controls, the delete character among them, and all that is not ASCII. -/
def isOutside (c : Char) : Bool := c.toNat < 0x20 || 0x7F ≤ c.toNat

/-- Whether the UTF-8 form of a character holds the byte that ends strings. -/
def endsString (c : Char) : Bool := (String.utf8EncodeChar c).contains 0x9C

/-- The place behind a character that begins or continues a sequence. -/
def Place.next : Place → Char → Place
  | ground, _ => ground
  | escape, c =>
    if isMark c then intermediate
    else if c = '[' then control
    else if c = ']' then command
    else if c = 'P' then deviceStart
    else if c = 'X' ∨ c = '^' ∨ c = '_' then string
    else ground
  | intermediate, c => if isMark c then intermediate else ground
  | control, c => if isFinal c then ground else control
  | deviceStart, c =>
    if isMark c then deviceIntermediate else if isFinal c then string else deviceParameters
  | deviceParameters, c =>
    if isMark c then deviceIntermediate
    else if isFinal c ∨ '<' ≤ c then string
    else deviceParameters
  | deviceIntermediate, c => if isMark c then deviceIntermediate else string
  | string, _ => string
  | command, _ => command

/-- The place behind a character, and whether the character is seen. -/
def Place.step (place : Place) (c : Char) : Place × Bool :=
  if c = '\x1B' then (escape, false)
  else if c = '\x18' ∨ c = '\x1A' then (ground, false)
  else
    match place with
    | ground => (ground, isBreak c || (0x20 ≤ c.toNat && c.toNat ≠ 0x7F))
    | string => (if endsString c then ground else string, false)
    | command => (if c = '\x07' then ground else command, false)
    | deviceStart | deviceParameters | deviceIntermediate =>
      (if isOutside c then place else place.next c, false)
    | escape | intermediate | control =>
      if isBreak c then (ground, true)
      else (if isOutside c then place else place.next c, false)

/-- What is seen of characters from a place on. -/
def seen (place : Place) : List Char → List Char
  | [] => []
  | c :: rest =>
    let (place, isSeen) := place.step c
    if isSeen then c :: seen place rest else seen place rest

/-- What is seen of a text. -/
def visible (text : String) : String := String.ofList (seen .ground text.toList)

/-- The first line of a text. -/
def firstLine (text : String) : String :=
  let line := text.toList.takeWhile (· ≠ '\n')
  String.ofList (if line.getLast? = some '\r' then line.dropLast else line)

end Latchkey.CommandLine.Terminal
