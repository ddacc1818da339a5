/-
What can be wrong with the address of a database. It is a URL, whose host, if it is the path of a
socket, user, password and path must be text once they are decoded. Some parameters in its query
have values of their own that are checked.
-/
import Latchkey.Text.Quoted
import Latchkey.Url

namespace Latchkey.CommandLine

inductive DatabaseUrlFault
  | url (fault : UrlFault)
  /-- A part is no text once it is decoded. -/
  | text (fault : Text.Utf8.Fault)
  /-- The value of a parameter is no address. -/
  | address
  /-- The value of a parameter is no integer. -/
  | integer (fault : Text.IntegerFault)
  /-- The value of the encryption mode is unknown. -/
  | unknownMode (value : String)
deriving DecidableEq, Repr

namespace DatabaseUrlFault

def urlFault : UrlFault → String
  | .relativeUrlWithoutBase => "RelativeUrlWithoutBase"
  | .emptyHost => "EmptyHost"
  | .invalidPort => "InvalidPort"
  | .invalidIpv4Address => "InvalidIpv4Address"
  | .invalidIpv6Address => "InvalidIpv6Address"
  | .invalidDomainCharacter => "InvalidDomainCharacter"
  | .idna => "IdnaError"

def integerKind : Text.IntegerFault → String
  | .empty => "Empty"
  | .invalidDigit => "InvalidDigit"
  | .tooLarge => "PosOverflow"
  | .tooSmall => "NegOverflow"

def brokenLength : Option Nat → String
  | some length => "Some(" ++ toString length ++ ")"
  | none => "None"

def describe : DatabaseUrlFault → String
  | url fault => urlFault fault
  | text fault =>
    "Utf8Error \x7b valid_up_to: " ++ toString fault.validLength ++ ", error_len: "
      ++ brokenLength fault.brokenLength ++ " \x7d"
  | address => "AddrParseError(Ip)"
  | integer fault => "ParseIntError \x7b kind: " ++ integerKind fault ++ " \x7d"
  | unknownMode value =>
    "Configuration("
      ++ Text.quoted ("unknown value " ++ Text.quoted value ++ " for `ssl_mode`") ++ ")"

end DatabaseUrlFault

namespace DatabaseUrl

/-! ## Parts -/

/-- Refuses a part that is no text once it is decoded. -/
def checkText (part : List Char) : Except DatabaseUrlFault Unit :=
  match Text.Utf8.fault? (Url.decode part) with
  | none => .ok ()
  | some fault => .error (.text fault)

/-- A host that begins with a slash is the path of a socket. -/
def isSocket (host : List Char) : Bool := (Url.decode host).head? == some 0x2F

/-! ## Parameters -/

/-- The text of a name or value: plus signs are spaces, and broken pieces are replaced. -/
def decodeText (cs : List Char) : String :=
  Text.Utf8.mend (Url.decode (cs.map fun c => if c = '+' then ' ' else c))

/-- Keys and values of the parameters in a query. -/
def parameters (query : List Char) : List (String × String) :=
  ((Text.splitAt '&' query).filter (!·.isEmpty)).map fun pair =>
    (decodeText (pair.takeWhile (· ≠ '=')), decodeText ((pair.dropWhile (· ≠ '=')).drop 1))

def modes : List String := ["disable", "allow", "prefer", "require", "verify-ca", "verify-full"]

def checkInteger (highest : Int) (value : String) : Except DatabaseUrlFault Unit :=
  match Text.readInteger 0 highest value.toList with
  | .ok _ => .ok ()
  | .error fault => .error (.integer fault)

def checkParameter (p : String × String) : Except DatabaseUrlFault Unit :=
  match p.1 with
  | "sslmode" | "ssl-mode" =>
    if modes.contains (p.2.map Char.toLower) then .ok () else .error (.unknownMode p.2)
  | "hostaddr" => if Address.isStrict p.2.toList then .ok () else .error .address
  | "port" => checkInteger 65535 p.2
  | "statement-cache-capacity" => checkInteger Text.maxUnsigned64 p.2
  | _ => .ok ()

/-! ## Addresses -/

/-- The first thing that is wrong with the address of a database. -/
def check (text : String) : Except DatabaseUrlFault Unit := do
  let url ← (Url.parse text).mapError .url
  (url.host.toList.filter isSocket).forM checkText
  checkText url.user
  url.password.toList.forM checkText
  checkText (url.path.dropWhile (· = '/'))
  (parameters url.query).forM checkParameter

end DatabaseUrl

end Latchkey.CommandLine
