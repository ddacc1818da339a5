/-
Requests as they arrive. Only the path of the target counts, and of several headers with one name
the first.
-/
import Latchkey.Digest.Bytes

namespace Latchkey.Http

structure Request where
  method : String
  target : String
  /-- Names and values; case does not matter in names. -/
  headers : List (String × Bytes)
  body : Bytes
deriving DecidableEq, Repr

/-- What stands behind a scheme and an authority, such as `https://host:1`, if they are there. -/
def afterAuthority : List Char → List Char
  | [] => []
  | ':' :: '/' :: '/' :: rest =>
    let behind := rest.dropWhile fun c => c ≠ '/' ∧ c ≠ '?' ∧ c ≠ '#'
    if behind.head? = some '/' then behind else '/' :: behind
  | _ :: rest => afterAuthority rest

/-- The path of a target, without query and fragment. -/
def pathOf (target : String) : String :=
  let cs := target.toList
  let cs := if cs.head? = some '/' ∨ target = "*" then cs else afterAuthority cs
  String.ofList (cs.takeWhile fun c => c ≠ '?' ∧ c ≠ '#')

/-- The bytes that may stand in a header that is read as text: printable ASCII and tabs. -/
def isHeaderByte (b : UInt8) : Bool := (0x20 ≤ b && b < 0x7F) || b == 0x09

namespace Request

def path (r : Request) : String := pathOf r.target

/-- The first header with a name. -/
def header? (r : Request) (name : String) : Option Bytes :=
  (r.headers.find? fun h => h.1.map Char.toLower == name).map (·.2)

/-- The first header with a name, if it is text. -/
def headerText? (r : Request) (name : String) : Option String :=
  (r.header? name).bind fun value =>
    if value.all isHeaderByte then some (Bytes.toAscii value) else none

end Request

end Latchkey.Http
