/-
What callers get and show: the claims inside an access token, the tokens of a login, and the
response that carries them.
-/
import Latchkey.Json.Record
import Latchkey.Json.Value

namespace Latchkey

open Json

/-! ## Claims -/

/-- What an access token says about its bearer; the instants are whole seconds since 1970. -/
structure Claims where
  id : String
  name : String
  expiresAt : Int64
  issuedAt : Int64
deriving DecidableEq, Repr

namespace Claims

def form : Form Claims where
  name := "TokenClaims"
  fields := [.text .required "id", .text .required "name", .signed64 "exp", .signed64 "iat"]
  make ms := ⟨ms.textAt "id", ms.textAt "name", ms.signed64At "exp", ms.signed64At "iat"⟩

def toJson (c : Claims) : Value :=
  .object [("id", .text c.id), ("name", .text c.name), ("exp", .integer c.expiresAt.toInt),
    ("iat", .integer c.issuedAt.toInt)]

end Claims

/-! ## Tokens -/

/-- The tokens of a login. Only a login on a device has a refresh token. -/
structure Tokens where
  access : String
  refresh : Option String
deriving DecidableEq, Repr

namespace Tokens

def form : Form Tokens where
  name := "AuthTokens"
  fields := [.text .required "access_token", .nullableText .defaulted "refresh_token"]
  make ms := ⟨ms.textAt "access_token", ms.textAt? "refresh_token"⟩

/-- A refresh token that is not there is not written. -/
def members (t : Tokens) : List (String × Value) :=
  ("access_token", .text t.access) :: t.refresh.toList.map fun raw => ("refresh_token", .text raw)

def toJson (t : Tokens) : Value := .object t.members

end Tokens

/-! ## Responses with tokens -/

/-- Tokens with the lifetime of the access token in seconds and its type. -/
structure TokenResponse where
  tokens : Tokens
  expiresIn : Int64
  tokenType : String
deriving DecidableEq, Repr

namespace TokenResponse

def toJson (r : TokenResponse) : Value :=
  .object (r.tokens.members ++
    [("expires_in", .integer r.expiresIn.toInt), ("token_type", .text r.tokenType)])

/-- The fields beside those of the tokens. -/
def ownFields : List RecordField := [.signed64 "expires_in", .text .required "token_type"]

/-- A value that was kept, as `read` reads it. -/
def valueOf {α : Type} (read : Reader α) (tokens : List Token) : Except Fault α :=
  match read tokens with
  | .ok (a, _) => .ok a
  | .error failure => .error failure.fault

/-- The tokens among the members that were kept, one after the other. -/
def tokensOf (access : Option String) (refresh : Option (Option String)) :
    Members → Except Fault Tokens
  | [] =>
    match access with
    | some access => .ok ⟨access, refresh.join⟩
    | none => .error (.missingField "access_token")
  | (key, .kept tokens) :: rest => do
    if key = "access_token" then
      if access.isSome then throw (.duplicateField key)
      tokensOf (some (← valueOf Reader.text tokens)) refresh rest
    else if key = "refresh_token" then
      if refresh.isSome then throw (.duplicateField key)
      tokensOf access (some (← valueOf (Reader.nullable Reader.text) tokens)) rest
    else tokensOf access refresh rest
  | _ :: rest => tokensOf access refresh rest

/-- Only an object will do: the tokens' members stand among the response's own, and are looked at
after the whole object has been read. -/
def read : Reader TokenResponse
  | [] => fail .endInValue
  | .openObject :: rest => do
    let (known, rest) ← Reader.object ownFields (Reader.keep 1) rest
    let tokens ← ofExcept (tokensOf none none known)
    return (⟨tokens, known.signed64At "expires_in", known.textAt "token_type"⟩, rest)
  | t :: _ => mismatch (.record "TokenResponse") t

def decode (bs : Bytes) : Reading TokenResponse := Json.decode read bs

end TokenResponse

end Latchkey
