/-
The registered claims of a token: what its payload says beside the claims of this service. The
expiry must not lie before 1970 and there must be no audience. Issuer, subject and the earliest time
of use are not checked, but a value that is neither understood nor passed over leaves the payload
unreadable, and so does a claim that is made twice.
-/
import Latchkey.Json.Record

namespace Latchkey.AccessToken

open Json

namespace Registered

/-- Whether a token is read to its end, so that what is behind it can be read even if the token is
malformed. -/
def isReadWhole : Token → Bool
  | .text (.ok _) _ => true
  | .text (.error .invalidCodePoint) none => true
  | .text (.error (.unpairedSurrogate isLast)) none => isLast
  | .number (.ok numeral) => numeral.isReadWhole
  | .literal (.ok _) => true
  | _ => false

/-- Passes over a value that is only one token. -/
def scalar : Reader Datum
  | t :: rest => if isReadWhole t then .ok (.kept [t], rest) else mismatch .text t
  | [] => fail .endInValue

/-- The subject is one token. -/
def subject : RecordField := ⟨"sub", .omittable, scalar⟩

/-- The earliest time of use is one token, or an empty list or object. -/
def notBefore : RecordField where
  key := "nbf"
  presence := .omittable
  read
    | .openList :: .closeList :: rest => .ok (.null, rest)
    | .openObject :: .closeObject :: rest => .ok (.null, rest)
    | ts => scalar ts

/-- The tokens of a value in which the last token that closes nothing counts as `null`, if it is
one that is read to its end. -/
def mended (value : List Token) : List Token :=
  let isClosing : Token → Bool
    | .closeList | .closeObject => true
    | _ => false
  let closing := value.reverse.takeWhile isClosing
  match value.reverse.drop closing.length with
  | last :: before =>
    if isReadWhole last then before.reverse ++ .literal (.ok none) :: closing.reverse else value
  | [] => value

/-- A value of any kind. A malformed token in it counts for nothing if it is read to its end and
only closing brackets follow; the value is then passed over. -/
def anyValue : Reader Datum := fun ts =>
  match Reader.kept 1 ts with
  | .ok (value, rest) => .ok (.kept value, rest)
  | .error failure => do
    let rest ← ofExcept (skip .lenient .value [] ts)
    match Reader.kept 1 (mended (ts.take (ts.length - rest.length))) with
    | .ok _ => return (.null, rest)
    | .error _ => .error failure

def issuer : RecordField := ⟨"iss", .omittable, anyValue⟩

def audience : RecordField := ⟨"aud", .omittable, anyValue⟩

def expiry : RecordField := .signed64 "exp"

/-- Whether the members name an audience: a text or a list of texts. -/
def hasAudience (members : Members) : Bool :=
  match members.lookup "aud" with
  | some (.kept value) => (Reader.text value).isOk || (Reader.texts value).isOk
  | _ => false

/-- The members of a payload, which must be an object. -/
def read : Reader Members
  | .openObject :: rest =>
    Reader.object [expiry, notBefore, subject, issuer, audience] Reader.passOver rest
  | _ => fail .expectedValue

end Registered

/-- Whether the registered claims of a payload allow its use. -/
def acceptsRegistered (payload : Bytes) : Bool :=
  match decode Registered.read payload with
  | .ok members => 0 ≤ (members.signed64At "exp").toInt && !Registered.hasAudience members
  | .error _ => false

end Latchkey.AccessToken
