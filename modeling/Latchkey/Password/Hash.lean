/-
Stored passwords, `$2b$10$` followed by 22 symbols of salt and 31 of digest. Hashing writes such a
text and verifying reads it back, with every fault of a text that is none; the digest is made from
the first 72 bytes of the password and a zero byte.
-/
import Latchkey.Password.Blowfish
import Latchkey.Digest.Base64
import Latchkey.Text.Integer

namespace Latchkey.Password

/-- Why a stored text cannot be compared with a password. -/
inductive Fault
  | malformed (hash : String)
  | unknownVersion (version : String)
  | unreadableCost (cost : String)
  | base64 (fault : Base64.Fault)
  | costOutOfRange (cost : Nat)
deriving DecidableEq, Repr

def lowestCost : Nat := 4

def highestCost : Nat := 31

def Fault.message : Fault → String
  | malformed hash => "Invalid hash: " ++ hash
  | unknownVersion version => "Invalid Prefix: " ++ version
  | unreadableCost cost => "Invalid Cost: " ++ cost
  | base64 fault => "Base64 error: " ++ fault.message
  | costOutOfRange cost =>
    "Cost needs to be between " ++ toString lowestCost ++ " and " ++ toString highestCost ++
      ", got " ++ toString cost

/-! ## Digests -/

/-- What the digest depends on: the password's bytes and a zero byte, at most 72 in all. -/
def keyOf (password : String) : Bytes := (Bytes.ofString password ++ [0]).take 72

/-- The three blocks that are enciphered, `OrpheanBeholderScryDoubt`. -/
def plainBlocks : List (UInt32 × UInt32) :=
  [(0x4f727068, 0x65616e42), (0x65686f6c, 0x64657253), (0x63727944, 0x6f756274)]

/-- Twenty-three bytes: the last one that the blocks yield is left out. -/
def digest (cost : Nat) (salt key : Bytes) : Bytes :=
  let keys := Blowfish.Keys.expensive cost salt key
  (plainBlocks.flatMap fun block =>
    let (l, r) := keys.encrypt64 block
    Bytes.ofWord l ++ Bytes.ofWord r).take 23

@[simp] theorem length_digest (cost : Nat) (salt key : Bytes) :
    (digest cost salt key).length = 23 := by
  simp [digest, plainBlocks, Bytes.ofWord]

/-! ## Stored texts -/

/-- The cost of new hashes. -/
def cost : Nat := 10

/-- The stored text of a password, made with a salt of sixteen bytes. -/
def hash (password : String) (salt : Bytes) : String :=
  "$2b$" ++ toString cost ++ "$" ++ Bytes.toAscii (Base64.encode .bcrypt salt)
    ++ Bytes.toAscii (Base64.encode .bcrypt (digest cost salt (keyOf password)))

/-- The pieces between dollar signs, without the empty ones; `piece` holds what has been read of
the first one, last character first. -/
def pieces (piece : List Char) : List Char → List (List Char)
  | [] => if piece.isEmpty then [] else [piece.reverse]
  | c :: rest =>
    if c = '$' then
      if piece.isEmpty then pieces [] rest else piece.reverse :: pieces [] rest
    else pieces (c :: piece) rest

def versions : List String := ["2a", "2b", "2x", "2y"]

/-- Whether a byte continues a character in UTF-8. -/
def isContinuation (b : UInt8) : Bool := 0x80 ≤ b && b < 0xC0

/-- A stored text taken apart; salt and digest are still encoded. -/
structure Parts where
  cost : Nat
  salt : Bytes
  digest : Bytes
deriving DecidableEq, Repr

def parse (hash : String) : Except Fault Parts :=
  match pieces [] hash.toList with
  | [version, cost, rest] =>
    if ¬ versions.contains (String.ofList version) then
      .error (.unknownVersion (String.ofList version))
    else
      match Text.readInteger 0 Text.maxUnsigned32 cost with
      | .error _ => .error (.unreadableCost (String.ofList cost))
      | .ok cost =>
        let bytes := Bytes.ofString (String.ofList rest)
        if bytes.length = 53 ∧ ¬ isContinuation (bytes.getD 22 0) then
          .ok ⟨cost.toNat, bytes.take 22, bytes.drop 22⟩
        else .error (.malformed hash)
  | _ => .error (.malformed hash)

def decode (text : Bytes) : Except Fault Bytes := (Base64.decode .bcrypt text).mapError .base64

/-- Whether a password is the one of a stored text. -/
def verify (password hash : String) : Except Fault Bool := do
  let parts ← parse hash
  let salt ← decode parts.salt
  if parts.cost < lowestCost ∨ highestCost < parts.cost then throw (.costOutOfRange parts.cost)
  let stored ← decode parts.digest
  return stored == digest parts.cost salt (keyOf password)

end Latchkey.Password
