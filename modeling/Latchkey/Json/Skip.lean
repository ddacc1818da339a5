/-
Passing over a value of any kind. `skip` follows the brackets with a stack of the lists and objects
that are open, one token at a time.

A value that nobody asked for is passed over leniently: lone surrogates, bytes that spell no text
and numbers too large do not matter. A value that is kept is passed over strictly, to a limited
depth, and the two manners differ in the faults they name behind a comma.
-/
import Latchkey.Json.Token

namespace Latchkey.Json

/-- What is open around a value. -/
inductive Frame
  | list
  | object
deriving DecidableEq, Repr

/-- Where in a value the skipping stands. -/
inductive Stage
  /-- Before a value. -/
  | value
  /-- Behind an opening bracket. -/
  | listStart
  | objectStart
  /-- Behind a comma. -/
  | listNext
  | objectNext
  /-- Between a key and its value. -/
  | colon
  /-- Behind a value. -/
  | after
deriving DecidableEq, Repr

/-- How a value is passed over; strictly, at most `depth` lists and objects may be open in it. -/
inductive Manner
  | lenient
  | strict (depth : Nat)
deriving DecidableEq, Repr

/-- How many lists and objects may be open at a time in a value of which something is kept. -/
def depthLimit : Nat := 127

def Manner.isStrict : Manner → Bool
  | lenient => false
  | strict _ => true

namespace Skip

/-- The fault of a text that is passed over. -/
def textFault (manner : Manner) (value : Except Fault String) (broken : Option Fault) :
    Option Fault :=
  match manner, value with
  | .strict _, .ok _ => none
  | .strict _, .error fault => some fault
  | .lenient, _ => broken

/-- The fault of a number that is passed over; a lenient reader does not tell where it ends. -/
def numberFault (manner : Manner) (numeral : Except Fault Numeral) : Option Fault :=
  match manner, numeral with
  | .strict _, .ok n => match n.value with
    | .ok _ => none
    | .error fault => some fault
  | .strict _, .error fault => some fault
  | .lenient, .ok _ => none
  | .lenient, .error _ => some .invalidNumber

abbrev Next := Except Fault (Stage × List Frame)

def provided (fault : Option Fault) (next : Stage × List Frame) : Next :=
  match fault with
  | none => .ok next
  | some fault => .error fault

def openFrame (manner : Manner) (frame : Frame) (stage : Stage) (stack : List Frame) : Next :=
  match manner with
  | .lenient => .ok (stage, frame :: stack)
  | .strict depth => if depth ≤ stack.length then .error .tooDeep else .ok (stage, frame :: stack)

/-- Takes a token where a value may begin. -/
def atValue (manner : Manner) (stack : List Frame) : Token → Next
  | .text value broken => provided (textFault manner value broken) (.after, stack)
  | .number numeral => provided (numberFault manner numeral) (.after, stack)
  | .literal (.ok _) => .ok (.after, stack)
  | .literal (.error fault) => .error fault
  | .openList => openFrame manner .list .listStart stack
  | .openObject => openFrame manner .object .objectStart stack
  | _ => .error .expectedValue

/-- Takes a token where a key must begin. -/
def atKey (manner : Manner) (stack : List Frame) : Token → Next
  | .text value broken => provided (textFault manner value broken) (.colon, stack)
  | _ => .error .keyNotText

def step (manner : Manner) : Stage → List Frame → Token → Next
  | .value, stack, t => atValue manner stack t
  | .listStart, stack, .closeList => .ok (.after, stack.tail)
  | .listStart, stack, t => atValue manner stack t
  | .listNext, stack, .closeList =>
    if manner.isStrict then .error .trailingComma else atValue manner stack .closeList
  | .listNext, stack, t => atValue manner stack t
  | .objectStart, stack, .closeObject => .ok (.after, stack.tail)
  | .objectStart, stack, t => atKey manner stack t
  | .objectNext, stack, .closeObject =>
    if manner.isStrict then .error .trailingComma else atKey manner stack .closeObject
  | .objectNext, stack, t => atKey manner stack t
  | .colon, stack, .colon => .ok (.value, stack)
  | .colon, _, _ => .error .expectedColon
  | .after, .list :: stack, .comma => .ok (.listNext, .list :: stack)
  | .after, .list :: stack, .closeList => .ok (.after, stack)
  | .after, .list :: _, _ => .error .expectedListSeparator
  | .after, .object :: stack, .comma => .ok (.objectNext, .object :: stack)
  | .after, .object :: stack, .closeObject => .ok (.after, stack)
  | .after, .object :: _, _ => .error .expectedObjectSeparator
  | .after, [], _ => .ok (.after, [])

/-- The fault of a text that ends within a value. -/
def endFault (manner : Manner) : Stage → List Frame → Fault
  | .value, _ | .listNext, _ => .endInValue
  | .listStart, _ | .after, .list :: _ => .endInList
  | .objectNext, _ => if manner.isStrict then .endInValue else .endInObject
  | .objectStart, _ | .colon, _ | .after, _ => .endInObject

end Skip

/-- Goes on skipping; the value has ended when nothing is open behind it. -/
def skip (manner : Manner) (stage : Stage) (stack : List Frame) (ts : List Token) :
    Except Fault (List Token) :=
  match stage, stack with
  | .after, [] => .ok ts
  | stage, stack =>
    match ts with
    | [] => .error (Skip.endFault manner stage stack)
    | t :: rest =>
      match Skip.step manner stage stack t with
      | .ok (stage, stack) => skip manner stage stack rest
      | .error fault => .error fault
termination_by structural ts

end Latchkey.Json
