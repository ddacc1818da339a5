/-
URLs: a scheme, two slashes, perhaps a user and a password, host and port, a path and a query. A few
schemes are special: they must name a host, which is the name of a domain or an address, and take
backslashes for slashes. In all other URLs the host is any text and may be left out, and what has no
slash behind the scheme is only a path.
-/
import Latchkey.Text.Utf8
import Latchkey.Url.Address
import Latchkey.Url.DomainName

namespace Latchkey

inductive UrlFault
  | relativeUrlWithoutBase
  | emptyHost
  | invalidPort
  | invalidIpv4Address
  | invalidIpv6Address
  | invalidDomainCharacter
  | idna
deriving DecidableEq, Repr

/-- What a URL is made of. All texts are as they were written, with percent signs in front of
encoded bytes; only steps up and down are taken out of the path. -/
structure Url where
  user : List Char
  password : Option (List Char)
  host : Option (List Char)
  path : List Char
  query : List Char
deriving DecidableEq, Repr

namespace Url

/-! ## Encoded bytes -/

def hexValue? (b : UInt8) : Option Nat := Text.hexDigit? (Char.ofNat b.toNat)

/-- Bytes in which a percent sign in front of two hexadecimal digits stands for a byte. -/
def decodePercent : Bytes → Bytes
  | 0x25 :: a :: b :: rest =>
    match hexValue? a, hexValue? b with
    | some x, some y => UInt8.ofNat (x * 16 + y) :: decodePercent rest
    | _, _ => 0x25 :: decodePercent (a :: b :: rest)
  | b :: rest => b :: decodePercent rest
  | [] => []

/-- The bytes of a text in a URL. -/
def decode (cs : List Char) : Bytes := decodePercent (Bytes.ofString (String.ofList cs))

/-! ## Schemes -/

inductive Kind
  | special
  | file
  | plain
deriving DecidableEq, Repr

def Kind.of (scheme : String) : Kind :=
  if ["http", "https", "ws", "wss", "ftp"].contains scheme then .special
  else if scheme = "file" then .file
  else .plain

def isSchemeChar (c : Char) : Bool := c.isAlphanum || c == '+' || c == '-' || c == '.'

/-- The scheme in lower case and what follows its colon. -/
def splitScheme (cs : List Char) : Option (String × List Char) :=
  let scheme := cs.takeWhile isSchemeChar
  match cs.drop scheme.length with
  | ':' :: rest =>
    if scheme.head?.any Char.isAlpha then some (String.ofList (scheme.map Char.toLower), rest)
    else none
  | _ => none

/-- What separates the parts of a path. -/
def Kind.isSlash (k : Kind) (c : Char) : Bool := c == '/' || (k != .plain && c == '\\')

/-- What ends a host. -/
def Kind.isEnd (k : Kind) (c : Char) : Bool := k.isSlash c || c == '?' || c == '#'

/-! ## Hosts -/

/-- The host behind the user, which ends at the port or the path. -/
def spanHost (k : Kind) (bracketed : Bool) : List Char → List Char × List Char
  | [] => ([], [])
  | c :: rest =>
    if (c = ':' ∧ ¬ bracketed) ∨ k.isEnd c then ([], c :: rest)
    else
      let bracketed := if c = '[' then true else if c = ']' then false else bracketed
      let (host, rest) := spanHost k bracketed rest
      (c :: host, rest)

/-- The name or address in lower case that encoded bytes spell. -/
def checkName (host : List Char) : Except UrlFault (List Char) := do
  let some text := Bytes.toText? (decode host) | throw .idna
  let some name := DomainName.normalize? text.toList | throw .idna
  if name.isEmpty then throw .emptyHost
  if Address.endsInNumber name ∧ ¬ Address.isLoose name then throw .invalidIpv4Address
  return name

/-- Characters that no host contains, whatever the scheme. -/
def isForbidden (c : Char) : Bool :=
  c.toNat == 0 || "\t\n\r #/:<>?@[\\]^|".toList.contains c

/-- The text of a host. -/
def checkHost (k : Kind) (host : List Char) : Except UrlFault (List Char) :=
  match host with
  | '[' :: address =>
    if address.getLast? = some ']' ∧ Address.isIpv6 address.dropLast then .ok host
    else .error .invalidIpv6Address
  | host =>
    if k = .plain then if host.any isForbidden then .error .invalidDomainCharacter else .ok host
    else checkName host

/-! ## Ports -/

/-- Reads on from the value of the digits so far, up to the path. -/
def checkPort (value : Nat) : List Char → Except UrlFault (List Char)
  | [] => .ok []
  | c :: rest =>
    match Text.digit? c with
    | some d =>
      if value * 10 + d ≤ 65535 then checkPort (value * 10 + d) rest else .error .invalidPort
    | none => if Kind.special.isEnd c then .ok (c :: rest) else .error .invalidPort

/-! ## Paths -/

/-- A letter and a colon or bar, which a step up does not take away. -/
def isDrive : List Char → Bool
  | [letter, mark] => letter.isAlpha && (mark == ':' || mark == '|')
  | _ => false

/-- A segment in which encoded full stops are decoded. -/
def decodeStops : List Char → List Char
  | '%' :: '2' :: 'e' :: rest | '%' :: '2' :: 'E' :: rest => '.' :: decodeStops rest
  | c :: rest => c :: decodeStops rest
  | [] => []

/-- Takes segments, of which the last one is always kept, perhaps as an empty one. The segments that
stay are kept last one first. -/
def takeSegments (stack : List (List Char)) : List (List Char) → List (List Char)
  | [] => stack
  | segment :: rest =>
    let stay (stack : List (List Char)) := if rest.isEmpty then [] :: stack else stack
    let stops := decodeStops segment
    if stops = ['.', '.'] then
      match stack with
      | top :: below => takeSegments (stay (if isDrive top then stack else below)) rest
      | [] => takeSegments (stay []) rest
    else if stops = ['.'] then takeSegments (stay stack) rest
    else takeSegments (segment :: stack) rest

/-- The path behind its first slash, without steps up and down. -/
def resolve (k : Kind) (cs : List Char) : List Char :=
  let cs := cs.map fun c => if k.isSlash c then '/' else c
  ['/'].intercalate (takeSegments [] (Text.splitAt '/' cs)).reverse

/-- What follows the host: a path, perhaps a question mark and a query, perhaps a number sign. -/
def splitQuery (cs : List Char) : List Char × List Char :=
  let shown := cs.takeWhile (· ≠ '#')
  (shown.takeWhile (· ≠ '?'), (shown.dropWhile (· ≠ '?')).drop 1)

/-! ## URLs -/

/-- A URL without user and port. -/
def ofPath (k : Kind) (host : Option (List Char)) (cs : List Char) : Url :=
  let (path, query) := splitQuery cs
  let path := if path.head?.any k.isSlash then path.drop 1 else path
  ⟨[], none, host, resolve k path, query⟩

/-- Splits a list behind the last at sign in front of the path. -/
def splitUser (k : Kind) (cs : List Char) : Option (List Char × List Char) :=
  let authority := cs.takeWhile fun c => !k.isEnd c
  let host := (authority.reverse.takeWhile (· ≠ '@')).reverse
  if host.length = authority.length then none
  else
    let user := authority.take (authority.length - host.length - 1)
    some (user, cs.drop (user.length + 1))

/-- A URL from the text behind its slashes. Who names a user names a host too; a colon alone names
nobody. -/
def ofAuthority (k : Kind) (cs : List Char) : Except UrlFault Url := do
  let (user, cs) := match splitUser k cs with
    | some (user, rest) => (some user, rest)
    | none => (none, cs)
  if user = some [] ∧ cs.head?.any k.isEnd then throw .emptyHost
  let (host, rest) := spanHost k false cs
  if k = .special ∧ host.isEmpty then throw .emptyHost
  let host ← checkHost k host
  if host.isEmpty ∧ rest.head? = some ':' then throw .emptyHost
  let rest ← match rest with
    | ':' :: port => checkPort 0 port
    | rest => pure rest
  let user := user.getD []
  if host.isEmpty ∧ user ≠ [] ∧ user ≠ [':'] then throw .emptyHost
  let password := (user.dropWhile (· ≠ ':')).drop 1
  return { ofPath k (if host.isEmpty then none else some host) rest with
    user := user.takeWhile (· ≠ ':')
    password := if password.isEmpty then none else some password }

/-- A URL of a file. Its host may be left out, and what looks like a drive is none. -/
def ofFile (cs : List Char) : Except UrlFault Url :=
  match cs with
  | a :: b :: rest =>
    if Kind.file.isSlash a ∧ Kind.file.isSlash b then do
      let host := rest.takeWhile fun c => !Kind.file.isEnd c
      if host.isEmpty ∨ isDrive host then return ofPath .file none rest
      let name ← checkHost .file host
      return ofPath .file (if name = "localhost".toList then none else some name)
        (rest.drop host.length)
    else .ok (ofPath .file none cs)
  | _ => .ok (ofPath .file none cs)

/-- White space and controls around a URL and line breaks within it do not count. -/
def clean (text : String) : List Char :=
  let isOuter (c : Char) := decide (c.toNat ≤ 0x20)
  let cs := ((text.toList.dropWhile isOuter).reverse.dropWhile isOuter).reverse
  cs.filter fun c => c ≠ '\t' ∧ c ≠ '\n' ∧ c ≠ '\r'

/-- The URL that a text spells, or the first thing that is wrong with it. -/
def parse (text : String) : Except UrlFault Url :=
  match splitScheme (clean text) with
  | none => .error .relativeUrlWithoutBase
  | some (scheme, rest) =>
    match Kind.of scheme with
    | .special => ofAuthority .special (rest.dropWhile Kind.special.isSlash)
    | .file => ofFile rest
    | .plain =>
      match rest with
      | '/' :: '/' :: rest => ofAuthority .plain rest
      | '/' :: _ => .ok (ofPath .plain none rest)
      | rest =>
        let (path, query) := splitQuery rest
        .ok ⟨[], none, none, path, query⟩

end Url

end Latchkey
