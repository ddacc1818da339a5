/-
The header of an access token. Tokens are written with one header; a header is accepted if its
algorithm is HS256 and its other known members have the right kind, whatever they say.
-/
import Latchkey.AccessToken.WebKey
import Latchkey.Json.Value

namespace Latchkey.AccessToken

open Json

/-- The only algorithm in use. -/
def algorithm : String := "HS256"

/-- The header of the tokens that are issued. -/
def headerJson : Value := .object [("typ", .text "JWT"), ("alg", .text algorithm)]

namespace Header

def refused : Fault := .expectedValue

/-- The algorithm, as a text or as the key of an object that holds `null`. -/
def readAlgorithm : Reader Datum
  | .text (.ok name) _ :: rest =>
    if name = algorithm then .ok (.text name, rest) else fail refused
  | .openObject :: .text (.ok name) _ :: .colon :: .literal (.ok none) :: .closeObject :: rest =>
    if name = algorithm then .ok (.text name, rest) else fail refused
  | _ => fail refused

/-! ## The fields -/

def nullableField (key : String) (read : Reader Datum) : RecordField :=
  ⟨key, .omittable, (Reader.nullable read).map (·.getD .null)⟩

def form : Form Unit where
  name := "Header"
  fields := [.nullableText .omittable "typ", ⟨"alg", .required, readAlgorithm⟩,
    .nullableText .omittable "cty", .nullableText .omittable "jku", nullableField "jwk" WebKey.read,
    .nullableText .omittable "kid", .nullableText .omittable "x5u",
    nullableField "x5c" (Reader.texts.map fun _ => .null),
    .nullableText .omittable "x5t", .nullableText .omittable "x5t#S256"]
  make _ := ()

end Header

/-- Whether the bytes of a header are those of a token that may be accepted. -/
def acceptsHeader (header : Bytes) : Bool := (Header.form.decode header).isOk

end Latchkey.AccessToken
