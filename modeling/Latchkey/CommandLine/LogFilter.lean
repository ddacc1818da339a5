/-
Which log lines are shown. A filter is a list of directives, separated by commas: a level for
everything, or a target, a span in brackets, fields in braces, and a level. A directive that asks
for a span or for values of fields says nothing about lines outside of spans. Of the others the most
specific one that covers a line decides: the one with the longest target, then the one with the most
fields.
-/
import Latchkey.CommandLine.Pattern
import Latchkey.Text.Blank
import Latchkey.Text.Integer

namespace Latchkey.CommandLine

inductive Level
  | off
  | error
  | warn
  | info
  | debug
  | trace
deriving DecidableEq, Repr

namespace Level

def all : List Level := [off, error, warn, info, debug, trace]

def label : Level → String
  | off => "off"
  | error => "error"
  | warn => "warn"
  | info => "info"
  | debug => "debug"
  | trace => "trace"

/-- How much a level shows. -/
def rank (l : Level) : Nat := all.idxOf l

/-- A level by its name in any case, or by its rank. -/
def ofText? (text : String) : Option Level :=
  match Text.readInteger 0 Text.maxUnsigned64 text.toList with
  | .ok n => all[n.toNat]?
  | .error _ => all.find? (·.label == text.map Char.toLower)

end Level

/-- A field that a line must have, perhaps with a value. -/
structure FieldFilter where
  name : String
  hasValue : Bool
deriving DecidableEq, Repr

/-- What is said about lines of a target, or of all targets, within a span and with fields. -/
structure Directive where
  target : Option String
  span : Option String
  fields : List FieldFilter
  level : Level
deriving DecidableEq, Repr

namespace Directive

/-- The directive that shows everything. -/
def everything : Directive := ⟨none, none, [], .trace⟩

/-! ## Reading -/

/-- Where in a directive the reading stands; the numbers are offsets in bytes. -/
inductive Place
  | start
  /-- In a level or a target that begins at an offset. -/
  | name (first : Nat)
  | span (first : Nat)
  | field (first : Nat)
  /-- Behind a field. -/
  | fields
  /-- Behind the right bracket. -/
  | target
  | level (first : Nat)
deriving DecidableEq, Repr

/-- The characters behind so many bytes. -/
def dropBytes (n : Nat) : List Char → List Char
  | [] => []
  | c :: rest => if n = 0 then c :: rest else dropBytes (n - c.utf8Size) rest

/-- The characters of so many bytes. -/
def takeBytes (n : Nat) : List Char → List Char
  | [] => []
  | c :: rest => if n = 0 then [] else c :: takeBytes (n - c.utf8Size) rest

/-- The text between two offsets. -/
def slice (source : List Char) (first last : Nat) : String :=
  String.ofList (takeBytes (last - first) (dropBytes first source))

/-- Digits, then perhaps a point with digits and an exponent; or a word for no finite number. -/
def isReal (cs : List Char) : Bool :=
  let whole := cs.takeWhile Char.isDigit
  let behind := cs.drop whole.length
  let (fraction, behind) := match behind with
    | '.' :: rest => (rest.takeWhile Char.isDigit, rest.dropWhile Char.isDigit)
    | rest => ([], rest)
  let isExponent : Bool := match behind with
    | [] => true
    | c :: rest =>
      let digits := match rest with
        | '+' :: rest | '-' :: rest => rest
        | rest => rest
      (c == 'e' || c == 'E') && !digits.isEmpty && digits.all Char.isDigit
  (!(whole ++ fraction).isEmpty && isExponent)
    || ["inf", "infinity", "nan"].contains (String.ofList (cs.map Char.toLower))

/-- Whether a text can be the value of a field: a number, or a pattern. A number without a plus sign
is a pattern too. -/
def isValue (cs : List Char) : Bool :=
  Pattern.isWellFormed cs || (cs.head? == some '+' && isReal (cs.drop 1))

/-- A field: a name, and perhaps a value between the first equals sign and the next. -/
def field? (text : String) : Option FieldFilter :=
  match text.splitOn "=" with
  | [name] => if name.isEmpty then none else some ⟨name, false⟩
  | name :: value :: _ => if isValue value.toList then some ⟨name, true⟩ else none
  | [] => none

/-- A level; where none is given everything is shown. -/
def level? (text : String) : Option Level :=
  if text.isEmpty then some .trace else Level.ofText? text

/-- A level for everything, or a target of which everything is shown. -/
def ofName (name : String) : Directive :=
  match Level.ofText? name with
  | some level => { everything with level := level }
  | none => { everything with target := some name }

/-- Takes the character at an offset. -/
def step (source : List Char) (d : Directive) (place : Place) (i : Nat) (c : Char) :
    Option (Directive × Place) :=
  match place with
  | .start =>
    if c = '[' then some (d, .span (i + 1))
    else if c = '-' ∨ c = ':' ∨ c = '_' ∨ Text.isAlphanumeric c then some (d, .name i)
    else none
  | .name first =>
    if c = '=' then some ({ d with target := some (slice source first i) }, .level (i + 1))
    else if c = '[' then some ({ d with target := some (slice source first i) }, .span (i + 1))
    else some (d, place)
  | .span first =>
    let span := slice source first i
    if c = ']' then some ({ d with span := some span }, .target)
    else if c = '\x7b' then
      some ({ d with span := if span.isEmpty then none else some span }, .field (i + 1))
    else some (d, place)
  | .field first =>
    if c = '\x7d' then do
      return ({ d with fields := d.fields ++ [← field? (slice source first i)] }, .fields)
    else some (d, place)
  | .fields => if c = ']' then some (d, .target) else none
  | .target => if c = '=' then some (d, .level (i + 1)) else none
  | .level _ => some (d, place)

/-- Takes the characters from an offset on. -/
def steps (source : List Char) (d : Directive) (place : Place) (i : Nat) :
    List Char → Option (Directive × Place)
  | [] => some (d, place)
  | c :: rest => do
    let (d, place) ← step source d place i c
    steps source d place (i + c.utf8Size) rest

/-- The directive in a piece of text. White space around it is passed over. Offsets are counted from
behind the white space in front, but used on the whole piece, so white space in front moves every
cut by its length. -/
def ofText? (text : String) : Option Directive := do
  let source := text.toList
  let behind (first : Nat) := String.ofList (dropBytes first source)
  let (d, place) ← steps source everything .start 0 (Text.trim text).toList
  match place with
  | .name first => some (ofName (behind first))
  | .level first => do return { d with level := ← level? (behind first) }
  | .target => some d
  | _ => none

/-! ## Choosing -/

/-- Whether the directive says something about lines outside of spans. -/
def isGeneral (d : Directive) : Bool := d.span.isNone && !d.fields.any (·.hasValue)

/-- Whether the directive is about lines of a target with fields. -/
def covers (d : Directive) (target : String) (fields : List String) : Bool :=
  d.target.all (fun t => t.toList.isPrefixOf target.toList)
    && d.fields.all fun field => fields.contains field.name

/-- How specific a directive is: no target comes before the empty one. -/
def specificity (d : Directive) : Nat × Nat :=
  ((d.target.map fun t => t.length + 1).getD 0, d.fields.length)

/-- The more specific of two directives that cover a line. Between equals the order of the fields'
names decides; the second one is taken if the names are the same. -/
def stronger (a b : Directive) : Directive :=
  let (m, i) := a.specificity
  let (n, j) := b.specificity
  if n < m ∨ n = m ∧ j < i then a
  else if n = m ∧ j = i ∧ b.fields.map (·.name) < a.fields.map (·.name) then a
  else b

end Directive

structure LogFilter where
  directives : List Directive
deriving DecidableEq, Repr

namespace LogFilter

/-- The environment variable that holds a filter. -/
def variableName : String := "RUST_LOG"

def ofLevels (levels : List (Option String × Level)) : LogFilter :=
  ⟨levels.map fun (target, level) => ⟨target, none, [], level⟩⟩

/-- The filter that is used when none is given: all services' lines from `info` on. -/
def standard : LogFilter :=
  ofLevels [(none, .info), (some "nostalgix_api", .debug), (some "nostalgix_core", .debug)]

/-- The filter that a text spells, unless part of it is malformed. An empty one shows errors
only. -/
def ofText? (text : String) : Option LogFilter := do
  let directives ← ((text.splitOn ",").filter (!·.isEmpty)).mapM Directive.ofText?
  return if directives.isEmpty then ofLevels [(none, .error)] else ⟨directives⟩

/-- The filter in an environment variable; a malformed one does not count. -/
def ofVariable (value : Option String) : LogFilter := (value.bind ofText?).getD standard

/-- Whether lines of a target with fields and a level are shown, outside of spans. -/
def shows (f : LogFilter) (target : String) (fields : List String) (level : Level) : Bool :=
  match f.directives.filter fun d => d.isGeneral && d.covers target fields with
  | [] => false
  | d :: ds => level.rank ≤ (ds.foldl Directive.stronger d).level.rank

end LogFilter

end Latchkey.CommandLine
