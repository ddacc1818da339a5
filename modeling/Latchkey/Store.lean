/-
The credential store as a value: accounts and refresh-token rows, both oldest first. Every change
appends a row or sets a mark; nothing is removed. `Store.apply` answers one request at one instant
and is the only way the service touches the store.
-/
import Latchkey.Account
import Latchkey.AuthError

namespace Latchkey

/-- One refresh token ever handed out, known by its keyed hash. -/
structure RefreshRow where
  id : String
  deviceKey : String
  userId : String
  tokenHash : String
  createdAt : Instant
  expiresAt : Instant
  revokedAt : Option Instant
deriving DecidableEq, Repr

namespace RefreshRow

/-- Neither revoked nor expired. -/
def validAt (r : RefreshRow) (now : Instant) : Bool :=
  r.revokedAt.isNone && decide (now < r.expiresAt)

def belongsTo (r : RefreshRow) (userId deviceKey : String) : Bool :=
  r.userId == userId && r.deviceKey == deviceKey

def revoke (r : RefreshRow) (now : Instant) : RefreshRow := { r with revokedAt := some now }

end RefreshRow

/-- What a rotation stores: the new row but for its creation time, which the store adds. With
`previousHash` the rotation is a renewal, and happens only while that token is valid. -/
structure Rotation where
  rowId : String
  deviceKey : String
  userId : String
  previousHash : Option String
  tokenHash : String
  expiresAt : Instant
deriving DecidableEq, Repr

/-- The requests a store answers. -/
inductive Request
  | accountByDeviceKey (deviceKey : String)
  | accountByUsername (username : String)
  | accountById (id : String)
  | insertAccount (account : Account)
  | rotate (rotation : Rotation)
  | validate (deviceKey tokenHash : String)
  | invalidate (userId deviceKey : String)
deriving DecidableEq, Repr

/-- The type of a successful answer: an account, whether a row was written, nothing, or the owner
of a token. -/
def Request.Reply : Request → Type
  | .accountByDeviceKey _ | .accountByUsername _ | .accountById _ => Option Account
  | .insertAccount _ => Bool
  | .rotate _ | .invalidate _ _ => Unit
  | .validate _ _ => Option String

/-- The answer to a request, or the reason there is none. -/
abbrev Request.Answer (r : Request) : Type := Except AuthError r.Reply

structure Store where
  accounts : List Account
  rows : List RefreshRow
deriving DecidableEq, Repr

namespace Store

def empty : Store := ⟨[], []⟩

/-! ## Accounts -/

def accountWith (s : Store) (method : AuthMethod) (authId : String) : Option Account :=
  s.accounts.find? fun a => a.live && a.authMethod == method.label && a.authId == authId

def accountById (s : Store) (id : String) : Option Account :=
  s.accounts.find? fun a => a.id == id && a.live

/-- Ids stay taken for ever, method and identity only while their account is live. -/
def conflicts (s : Store) (new : Account) : Bool :=
  s.accounts.any fun a =>
    a.id == new.id || (a.live && a.authMethod == new.authMethod && a.authId == new.authId)

/-- Adds an account; the answer tells whether it was written. -/
def insertAccount (s : Store) (new : Account) : Bool × Store :=
  if s.conflicts new then (false, s)
  else (true, { s with accounts := s.accounts ++ [new] })

/-- Marks the first account that `p` selects. -/
def markFirst (p : Account → Bool) (now : Instant) : List Account → List Account
  | [] => []
  | a :: rest => if p a then { a with deletedAt := some now } :: rest else a :: markFirst p now rest

/-- Marks the live account `id` as deleted; the answer tells whether there was one. Its refresh
rows stay. -/
def softDelete (s : Store) (id : String) (now : Instant) : Bool × Store :=
  if s.accounts.any (fun a => a.id == id && a.live) then
    (true, { s with accounts := markFirst (fun a => a.id == id && a.live) now s.accounts })
  else (false, s)

def liveCount (s : Store) : Nat := s.accounts.countP (·.live)

/-! ## Refresh rows -/

/-- Whether `hash` is the token of the session of `userId` on `deviceKey` and still valid. -/
def holds (s : Store) (userId deviceKey hash : String) (now : Instant) : Bool :=
  s.rows.any fun r => r.belongsTo userId deviceKey && r.tokenHash == hash && r.validAt now

/-- Revokes the rows of the session that `p` selects. -/
def revokeRows (s : Store) (userId deviceKey : String) (p : RefreshRow → Bool) (now : Instant) :
    List RefreshRow :=
  s.rows.map fun r => if r.belongsTo userId deviceKey && p r then r.revoke now else r

/-- Replaces the session by a fresh row. A renewal whose token is no longer valid writes
nothing. -/
def rotate (s : Store) (rot : Rotation) (now : Instant) : Except AuthError Unit × Store :=
  if rot.previousHash.all (fun hash => s.holds rot.userId rot.deviceKey hash now) then
    let kept := s.revokeRows rot.userId rot.deviceKey (·.revokedAt.isNone) now
    let row := ⟨rot.rowId, rot.deviceKey, rot.userId, rot.tokenHash, now, rot.expiresAt, none⟩
    (.ok (), { s with rows := kept ++ [row] })
  else (.error .badRefreshToken, s)

/-- The owner of a valid token on a device. -/
def ownerOf (s : Store) (deviceKey hash : String) (now : Instant) : Option String :=
  (s.rows.find? fun r => r.deviceKey == deviceKey && r.tokenHash == hash && r.validAt now).map
    (·.userId)

/-- Revokes the valid tokens of a session. -/
def invalidate (s : Store) (userId deviceKey : String) (now : Instant) : Store :=
  { s with rows := s.revokeRows userId deviceKey (·.validAt now) now }

/-! ## Answering requests -/

def apply (now : Instant) : (r : Request) → Store → r.Answer × Store
  | .accountByDeviceKey deviceKey, s => (.ok (s.accountWith .anonymous deviceKey), s)
  | .accountByUsername username, s => (.ok (s.accountWith .password username), s)
  | .accountById id, s => (.ok (s.accountById id), s)
  | .insertAccount account, s =>
    let (written, s') := s.insertAccount account
    (.ok written, s')
  | .rotate rotation, s => s.rotate rotation now
  | .validate deviceKey hash, s => (.ok (s.ownerOf deviceKey hash now), s)
  | .invalidate userId deviceKey, s => (.ok (), s.invalidate userId deviceKey now)

end Store

end Latchkey
