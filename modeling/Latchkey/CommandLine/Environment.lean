/-
Environment variables, and the file that adds to them: one assignment a line, `KEY=value`, with
quotes, escapes, references to other variables and comments. A variable that is set already keeps
its value. Reading stops at the first line that is no assignment; what was read before stays.
-/
import Latchkey.Digest.Bytes
import Latchkey.Text.Alphanumeric
import Latchkey.Text.Blank

namespace Latchkey.CommandLine

/-- Variables and their values; the first one with a name counts. -/
abbrev Environment := List (String × String)

namespace Environment

def get? (env : Environment) (name : String) : Option String := env.lookup name

/-- Sets a variable, unless it is set. -/
def setIfUnset (env : Environment) (name value : String) : Environment :=
  if (env.get? name).isSome then env else env ++ [(name, value)]

/-! ## Lines -/

/-- Where in a line the reading stands; a line goes on behind a line break within quotes. -/
inductive Place
  | outside
  /-- Behind white space, where a comment may begin. -/
  | blank
  | escape
  | single
  | singleEscape
  | double
  | doubleEscape
deriving DecidableEq, Repr

/-- The place behind a character, unless a comment begins with it. -/
def Place.next? : Place → Char → Option Place
  | outside, c =>
    if Text.isBlankChar c ∧ c ≠ '\n' ∧ c ≠ '\r' then some blank else some (opened c)
  | blank, c => if c = '#' then none else some (opened c)
  | escape, _ => some outside
  | single, c => some (if c = '\\' then singleEscape else if c = '\'' then outside else single)
  | singleEscape, _ => some single
  | double, c => some (if c = '\\' then doubleEscape else if c = '"' then outside else double)
  | doubleEscape, _ => some double
where
  opened (c : Char) : Place :=
    if c = '\\' then escape else if c = '"' then double else if c = '\'' then single else outside

/-- Whether a line may end here. A line break leads out of white space, so only the end of a file
leaves a line there, and that is refused. -/
def Place.isEnd (p : Place) : Bool := p == outside

/-- Follows a line: the part in front of a comment and where it ends, `none` for a comment. -/
def follow (place : Place) : List Char → List Char × Option Place
  | [] => ([], some place)
  | c :: rest =>
    match place.next? c with
    | none => ([], none)
    | some place =>
      let (kept, final) := follow place rest
      (c :: kept, final)

/-- The lines of bytes, each with its line feed. -/
def splitLines (line : Bytes) : Bytes → List Bytes
  | [] => if line.isEmpty then [] else [line.reverse]
  | b :: rest =>
    if b = 0x0A then (b :: line).reverse :: splitLines [] rest else splitLines (b :: line) rest

/-- A line without its line break. -/
def dropBreak (line : List Char) : List Char :=
  match line.reverse with
  | '\n' :: '\r' :: rest => rest.reverse
  | '\n' :: rest => rest.reverse
  | _ => line

def isComment (line : List Char) : Bool := (line.dropWhile Text.isBlankChar).head? == some '#'

/-- The lines of a file, joined where quotes and escapes join them; `none` stands for one that
cannot be read. `before` is what the line holds so far. -/
def logicalLines (before : List Char) (place : Place) : List Bytes → List (Option (List Char))
  | [] => if place.isEnd then [] else [none]
  | bytes :: rest =>
    match bytes.toText? with
    | none => [none]
    | some text =>
      if isComment (before ++ text.toList) then logicalLines [] .outside rest
      else
        match follow place text.toList with
        | (kept, none) => some (before ++ kept) :: logicalLines [] .outside rest
        | (kept, some place) =>
          if place.isEnd then some (dropBreak (before ++ kept)) :: logicalLines [] .outside rest
          else logicalLines (before ++ kept) place rest

/-! ## Values -/

inductive Quote
  | single
  | double
deriving DecidableEq, Repr

/-- A value while it is read. -/
structure Draft where
  /-- The value so far, last character first. -/
  output : List Char
  quote : Option Quote
  isEscaped : Bool
  /-- Whether only a comment may follow. -/
  isOver : Bool
  /-- The reference that is being read: whether it is in braces, and its name, last character
  first. -/
  reference : Option (Bool × List Char)

namespace Draft

def empty : Draft := ⟨[], none, false, false, none⟩

def push (d : Draft) (c : Char) : Draft := { d with output := c :: d.output }

/-- Puts in the value of the variable that is referred to; one that is not set is empty. -/
def resolve (env : Environment) (d : Draft) : Draft :=
  match d.reference with
  | none => d
  | some (_, name) =>
    let value := (env.get? (String.ofList name.reverse)).getD ""
    { d with output := value.toList.reverse ++ d.output, reference := none }

/-- Takes the next character of a reference. -/
def refer (env : Environment) (d : Draft) (braced : Bool) (name : List Char) (c : Char) : Draft :=
  if Text.isAlphanumeric c then { d with reference := some (braced, c :: name) }
  else if braced then
    if c = '\x7d' then d.resolve env else { d with reference := some (true, c :: name) }
  else if c = '\x7b' ∧ name.isEmpty then { d with reference := some (true, []) }
  else if c = '$' then { d.resolve env with reference := some (false, []) }
  else (d.resolve env).push c

/-- Takes a character that is neither quoted by single quotes nor part of a reference. -/
def plain (d : Draft) (c : Char) : Draft :=
  if c = '$' then { d with reference := some (false, []) }
  else if c = '\\' then { d with isEscaped := true }
  else if d.quote = some .double then if c = '"' then { d with quote := none } else d.push c
  else if c = '\'' then { d with quote := some .single }
  else if c = '"' then { d with quote := some .double }
  else if c = ' ' ∨ c = '\t' then { d with isOver := true }
  else d.push c

/-- The value that the characters spell from here on. -/
def finish (env : Environment) (d : Draft) : List Char → Option String
  | [] =>
    if d.quote.isSome ∨ d.reference.any (·.1) then none
    else some (String.ofList (d.resolve env).output.reverse)
  | c :: rest =>
    if d.isOver then
      if c = ' ' ∨ c = '\t' then finish env d rest
      else if c = '#' then some (String.ofList (d.resolve env).output.reverse)
      else none
    else if d.isEscaped then
      if ['\\', '\'', '"', '$', ' '].contains c then
        finish env { d.push c with isEscaped := false } rest
      else if c = 'n' then finish env { d.push '\n' with isEscaped := false } rest
      else none
    else if d.quote = some .single then
      if c = '\'' then finish env { d with quote := none } rest else finish env (d.push c) rest
    else
      match d.reference with
      | some (braced, name) => finish env (d.refer env braced name c) rest
      | none => finish env (d.plain c) rest

end Draft

/-! ## Assignments -/

def isKeyStart (c : Char) : Bool := c.isAlpha || c == '_'

def isKeyChar (c : Char) : Bool := c.isAlphanum || c == '_' || c == '.'

/-- The key at the front of a line, and what follows it and white space. -/
def key? (line : List Char) : Option (String × List Char) :=
  if line.head?.any isKeyStart then
    some (String.ofList (line.takeWhile isKeyChar),
      (line.dropWhile isKeyChar).dropWhile Text.isBlankChar)
  else none

def behindEquals? : List Char → Option (List Char)
  | '=' :: rest => some (rest.dropWhile Text.isBlankChar)
  | _ => none

/-- The key of an assignment and the text of its value. The word `export` may stand in front. -/
def assignment? (line : List Char) : Option (String × List Char) := do
  let (key, rest) ← key? line
  match behindEquals? rest with
  | some value => return (key, value)
  | none =>
    guard (key = "export")
    let (key, rest) ← key? rest
    return (key, ← behindEquals? rest)

/-- The environment after the lines. -/
def addLines (env : Environment) : List (Option (List Char)) → Environment
  | [] | none :: _ => env
  | some line :: rest =>
    let line := (Text.trim (String.ofList line)).toList
    if line.isEmpty ∨ line.head? = some '#' then addLines env rest
    else
      match assignment? line with
      | none => env
      | some (key, text) =>
        let value := if text.head? = some '#' then some "" else Draft.empty.finish env text
        match value with
        | none => env
        | some value => addLines (env.setIfUnset key value) rest

/-- The byte order mark in UTF-8. -/
def byteOrderMark : Bytes := [0xEF, 0xBB, 0xBF]

/-- The environment after a file. -/
def load (env : Environment) (file : Bytes) : Environment :=
  let bytes := if byteOrderMark.isPrefixOf file then file.drop 3 else file
  env.addLines (logicalLines [] .outside (splitLines [] bytes))

end Environment

end Latchkey.CommandLine
