/-
The bodies of requests, and of the responses that carry no tokens. A member that a request leaves
out is empty; only a device key that is optional may also be `null`.
-/
import Latchkey.Json.Record
import Latchkey.Json.Value

namespace Latchkey

open Json

/-! ## Requests -/

/-- A login or a registration with a password. -/
structure UsernameRequest where
  username : String
  password : String
  deviceKey : Option String
deriving DecidableEq, Repr

def UsernameRequest.form : Form UsernameRequest where
  name := "UsernameRequest"
  fields := [.text .defaulted "username", .text .defaulted "password",
    .nullableText .defaulted "device_key"]
  make ms := ⟨ms.textAt "username", ms.textAt "password", ms.textAt? "device_key"⟩

structure AnonymousLoginRequest where
  deviceKey : String
deriving DecidableEq, Repr

def AnonymousLoginRequest.form : Form AnonymousLoginRequest where
  name := "AnonymousLoginRequest"
  fields := [.text .defaulted "device_key"]
  make ms := ⟨ms.textAt "device_key"⟩

structure RefreshRequest where
  deviceKey : String
  refreshToken : String
deriving DecidableEq, Repr

def RefreshRequest.form : Form RefreshRequest where
  name := "RefreshRequest"
  fields := [.text .defaulted "device_key", .text .defaulted "refresh_token"]
  make ms := ⟨ms.textAt "device_key", ms.textAt "refresh_token"⟩

structure LogoutRequest where
  deviceKey : String
deriving DecidableEq, Repr

def LogoutRequest.form : Form LogoutRequest where
  name := "LogoutRequest"
  fields := [.text .defaulted "device_key"]
  make ms := ⟨ms.textAt "device_key"⟩

/-! ## Responses -/

/-- Why a request was refused: a fixed name for the cause, and a message. -/
structure ErrorResponse where
  error : String
  message : String
deriving DecidableEq, Repr

namespace ErrorResponse

def form : Form ErrorResponse where
  name := "ErrorResponse"
  fields := [.text .required "error", .text .required "message"]
  make ms := ⟨ms.textAt "error", ms.textAt "message"⟩

def toJson (r : ErrorResponse) : Value :=
  .object [("error", .text r.error), ("message", .text r.message)]

end ErrorResponse

structure LogoutResponse where
  success : Bool
deriving DecidableEq, Repr

namespace LogoutResponse

def form : Form LogoutResponse where
  name := "LogoutResponse"
  fields := [.flag "success"]
  make ms := ⟨ms.flagAt "success"⟩

def toJson (r : LogoutResponse) : Value := .object [("success", .flag r.success)]

end LogoutResponse

structure HealthResponse where
  status : String
  version : String
deriving DecidableEq, Repr

namespace HealthResponse

def form : Form HealthResponse where
  name := "HealthResponse"
  fields := [.text .required "status", .text .required "version"]
  make ms := ⟨ms.textAt "status", ms.textAt "version"⟩

def toJson (r : HealthResponse) : Value :=
  .object [("status", .text r.status), ("version", .text r.version)]

end HealthResponse

end Latchkey
