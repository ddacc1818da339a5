/-
Records in JSON: objects whose known members are read by their fields, in any order, while unknown
members are passed over, or lists of the values of the fields in order.

A record that is read is the list of its known members. A member that may be left out is absent
from it and counts as the empty text or as none.
-/
import Latchkey.Json.Reader

namespace Latchkey.Json

/-- The value of a member of a record. -/
inductive Datum
  | text (value : String)
  | flag (value : Bool)
  | signed32 (value : Int32)
  | signed64 (value : Int64)
  | null
  | record (members : List (String × Datum))
  /-- A value that no field asked for, kept to be read later. -/
  | kept (tokens : List Token)

/-- Known members by key, in the order in which they were read. -/
abbrev Members := List (String × Datum)

namespace Members

def textAt (ms : Members) (key : String) : String :=
  match ms.lookup key with
  | some (.text value) => value
  | _ => ""

def textAt? (ms : Members) (key : String) : Option String :=
  match ms.lookup key with
  | some (.text value) => some value
  | _ => none

def flagAt (ms : Members) (key : String) : Bool :=
  match ms.lookup key with
  | some (.flag value) => value
  | _ => false

def signed32At (ms : Members) (key : String) : Int32 :=
  match ms.lookup key with
  | some (.signed32 value) => value
  | _ => 0

def signed64At (ms : Members) (key : String) : Int64 :=
  match ms.lookup key with
  | some (.signed64 value) => value
  | _ => 0

def recordAt? (ms : Members) (key : String) : Option Members :=
  match ms.lookup key with
  | some (.record members) => some members
  | _ => none

end Members

/-- Where a field may be left out. -/
inductive Presence
  | required
  /-- In an object, but not in a list. -/
  | omittable
  /-- In an object, and at the end of a list. -/
  | defaulted
deriving DecidableEq, Repr

structure RecordField where
  key : String
  presence : Presence
  read : Reader Datum

/-- Maps what a reader reads. -/
def Reader.map {α β : Type} (f : α → β) (read : Reader α) : Reader β := fun ts => do
  let (a, rest) ← read ts
  return (f a, rest)

namespace RecordField

def text (presence : Presence) (key : String) : RecordField :=
  ⟨key, presence, Reader.text.map .text⟩

/-- A text or `null`. -/
def nullableText (presence : Presence) (key : String) : RecordField :=
  ⟨key, presence, (Reader.nullable Reader.text).map fun s => (s.map Datum.text).getD .null⟩

def flag (key : String) : RecordField := ⟨key, .required, Reader.flag.map .flag⟩

def signed32 (key : String) : RecordField := ⟨key, .required, Reader.signed32.map .signed32⟩

def signed64 (key : String) : RecordField := ⟨key, .required, Reader.signed64.map .signed64⟩

end RecordField

namespace Reader

/-! ## Objects -/

/-- What to do with a member whose key is not the one of a field: the value may be kept, or just be
passed over. -/
abbrev Unknown := String → Reader (Option Datum)

def passOver : Unknown := fun _ => ignored.map fun _ => none

/-- Keeps values of members of an object that is one of `depth` open ones. -/
def keep (depth : Nat) : Unknown := fun _ => (kept depth).map fun tokens => some (.kept tokens)

/-- A value behind its key. -/
def memberValue {α : Type} (key : String) (read : Reader α) : Reader α
  | .colon :: rest => within (.key key) (read rest)
  | _ :: _ => fail .expectedColon
  | [] => fail .endInObject

/-- The member with a key: the known members with it, and the tokens behind it. A second member of
a field is refused as soon as its key is read. -/
def member (fields : List RecordField) (unknown : Unknown) (known : Members) (key : String) :
    Reader Members := fun ts =>
  match fields.find? (·.key == key) with
  | some field =>
    if (known.lookup key).isSome then fail (.duplicateField key)
    else do
      let (value, rest) ← memberValue key field.read ts
      return (known ++ [(key, value)], rest)
  | none => do
    let (value, rest) ← memberValue key (unknown key) ts
    return (known ++ (value.map (key, ·)).toList, rest)

/-- The key of the next member, `none` at the end of the object. -/
def nextKey (first : Bool) : Reader (Option String)
  | .closeObject :: rest => .ok (none, rest)
  | [] => fail .endInObject
  | t :: rest =>
    match first, t, rest with
    | true, .text key _, rest | false, .comma, .text key _ :: rest => do
      return (some (← ofExcept key), rest)
    | true, _, _ => fail .keyNotText
    | false, .comma, .closeObject :: _ => fail .trailingComma
    | false, .comma, _ :: _ => fail .keyNotText
    | false, .comma, [] => fail .endInValue
    | false, _, _ => fail .expectedObjectSeparator

/-- Reads members up to the end of the object; `fuel` bounds their number. -/
def members (fields : List RecordField) (unknown : Unknown) :
    (fuel : Nat) → (first : Bool) → Members → Reader Members
  | 0, _, _, _ => fail .endInObject
  | fuel + 1, first, known, ts => do
    match ← nextKey first ts with
    | (none, rest) => return (known, rest)
    | (some key, rest) => do
      let (known, rest) ← member fields unknown known key rest
      members fields unknown fuel false known rest

/-- The first field that is required and missing. -/
def missing? (fields : List RecordField) (known : Members) : Option String :=
  (fields.find? fun f => f.presence == .required && (known.lookup f.key).isNone).map (·.key)

/-- The members of an object, behind its opening brace. Every member takes more than one token, so
their number is a bound. -/
def object (fields : List RecordField) (unknown : Unknown) : Reader Members := fun ts => do
  let (known, rest) ← members fields unknown (ts.length + 1) true [] ts
  match missing? fields known with
  | some key => fail (.missingField key)
  | none => return (known, rest)

/-! ## Lists -/

/-- The tokens of the next element, `none` at the end of the list. -/
def nextElement (first : Bool) : List Token → Reading (Option (List Token))
  | [] => fail .endInList
  | .closeList :: _ => .ok none
  | t :: rest =>
    match first, t, rest with
    | true, t, rest => .ok (some (t :: rest))
    | false, .comma, .closeList :: _ => fail .trailingComma
    | false, .comma, [] => fail .endInValue
    | false, .comma, rest => .ok (some rest)
    | false, _, _ => fail .expectedListSeparator

/-- The values of the fields from number `i` on. -/
def elements (name : String) (size : Nat) :
    (i : Nat) → List RecordField → Members → Reader Members
  | _, [], known, ts => .ok (known, ts)
  | i, field :: fields, known, ts => do
    match ← nextElement (i == 0) ts with
    | some ts => do
      let (value, rest) ← within (.index i) (field.read ts)
      elements name size (i + 1) fields (known ++ [(field.key, value)]) rest
    | none =>
      if field.presence = .defaulted then elements name size (i + 1) fields known ts
      else fail (.wrongLength i name size)

/-- The end of a list whose fields have all been read. -/
def listEnd : List Token → Reading (List Token)
  | .closeList :: rest => .ok rest
  | .comma :: .closeList :: _ => fail .trailingComma
  | _ :: _ => fail .trailingCharacters
  | [] => fail .endInList

/-! ## Records -/

/-- A record with a name that messages give. -/
def record (name : String) (fields : List RecordField) : Reader Members
  | [] => fail .endInValue
  | .openObject :: rest => object fields passOver rest
  | .openList :: rest => do
    let (known, rest) ← elements name fields.length 0 fields [] rest
    return (known, ← listEnd rest)
  | t :: _ => mismatch (.record name) t

end Reader

/-- How values of a type are written as records: the name of the record, its fields, and the value
that its members make up. -/
structure Form (α : Type) where
  name : String
  fields : List RecordField
  make : Members → α

namespace Form

def read {α : Type} (form : Form α) : Reader α :=
  (Reader.record form.name form.fields).map form.make

/-- The value that a whole text spells. -/
def decode {α : Type} (form : Form α) (bs : Bytes) : Reading α := Json.decode form.read bs

end Form

end Latchkey.Json
