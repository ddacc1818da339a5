/-
Keys inside the headers of access tokens. A key is an object: some members may be there for every
kind of key, at most once each, and others make up a key of one kind. What stands in a key is never
used, but a header with a malformed one is not accepted.
-/
import Latchkey.Json.Record

namespace Latchkey.AccessToken.WebKey

open Json

/-! ## Values -/

/-- Whether tokens are one value that `read` reads. -/
def reads {α : Type} (read : Reader α) (value : List Token) : Bool :=
  match read value with
  | .ok (_, []) => true
  | _ => false

/-- The name that a value is: a text, or the only key of an object with nothing in it: `null` or,
if `mayBeEmpty`, an empty object. -/
def name? (mayBeEmpty : Bool) : List Token → Option String
  | [.text (.ok name) _] => some name
  | [.openObject, .text (.ok name) _, .colon, .literal (.ok none), .closeObject] => some name
  | [.openObject, .text (.ok name) _, .colon, .openObject, .closeObject, .closeObject] =>
    if mayBeEmpty then some name else none
  | _ => none

/-- Whether a value is one of several names. -/
def isNamed (mayBeEmpty : Bool) (names : List String) (value : List Token) : Bool :=
  (name? mayBeEmpty value).any names.contains

/-- The values of the members with a key. -/
def valuesOf (key : String) (members : Members) : List (List Token) :=
  members.filterMap fun
    | (k, .kept value) => if k = key then some value else none
    | _ => none

/-! ## Members of every key -/

/-- The algorithms that a key may be for. -/
def algorithms : List String :=
  ["HS256", "HS384", "HS512", "ES256", "ES384", "RS256", "RS384", "RS512", "PS256", "PS384",
    "PS512", "EdDSA", "RSA1_5", "RSA-OAEP", "RSA-OAEP-256"]

/-- The members that any key may have, and which values they take; `null` is always one. -/
def commonMembers : List (String × (List Token → Bool)) :=
  [("use", reads Reader.text), ("key_ops", reads Reader.texts), ("alg", isNamed true algorithms),
    ("kid", reads Reader.text), ("x5u", reads Reader.text), ("x5c", reads Reader.texts),
    ("x5t", reads Reader.text), ("x5t#S256", reads Reader.text)]

def isNull : List Token → Bool
  | [.literal (.ok none)] => true
  | _ => false

/-- Whether a member is missing or there once with a value that fits. -/
def isOptional (fits : List Token → Bool) : List (List Token) → Bool
  | [] => true
  | [value] => isNull value || fits value
  | _ => false

/-! ## Kinds of keys -/

def curves : List String := ["P-256", "P-384", "P-521", "Ed25519"]

/-- A kind of key by its name, and the members that it must have once each. -/
structure Kind where
  name : String
  hasCurve : Bool
  texts : List String
deriving DecidableEq, Repr

def kinds : List Kind :=
  [⟨"EC", true, ["x", "y"]⟩, ⟨"RSA", false, ["n", "e"]⟩, ⟨"oct", false, ["k"]⟩,
    ⟨"OKP", true, ["x"]⟩]

/-- Whether a member is there once with a value that fits. -/
def isSingle (fits : List Token → Bool) : List (List Token) → Bool
  | [value] => fits value
  | _ => false

def Kind.fits (k : Kind) (members : Members) : Bool :=
  isSingle (isNamed false [k.name]) (valuesOf "kty" members)
    && (!k.hasCurve || isSingle (isNamed false curves) (valuesOf "crv" members))
    && k.texts.all fun key => isSingle (reads Reader.text) (valuesOf key members)

/-! ## Keys -/

/-- Whether the members of an object describe a key. -/
def describes (members : Members) : Bool :=
  commonMembers.all (fun (key, fits) => isOptional fits (valuesOf key members))
    && kinds.any (·.fits members)

/-- An object that describes a key; it stands in the object or list of the header. -/
def read : Reader Datum
  | .openObject :: rest => do
    let (members, rest) ← Reader.object [] (Reader.keep 2) rest
    if describes members then return (.record members, rest) else fail .expectedValue
  | _ => fail .expectedValue

end Latchkey.AccessToken.WebKey
