/-
Stored accounts and the profile that callers see of them. The profile is a view at an instant:
credits and subscription lapse with the clock, while the stored account stays as it is.
-/
import Latchkey.Clock

namespace Latchkey

/-- How an account proves who it is. -/
inductive AuthMethod
  | anonymous
  | password
  | google
  | apple
deriving DecidableEq, Repr

/-- The name under which a method is stored. -/
def AuthMethod.label : AuthMethod → String
  | anonymous => "anonymous"
  | password => "password"
  | google => "google"
  | apple => "apple"

def AuthMethod.all : List AuthMethod := [anonymous, password, google, apple]

/-- Credits of a new account. -/
def starterCredits : Int32 := 3

/-- The subscription status that counts. -/
def activeStatus : String := "active"

/-- A stored account. `authId` is the device key of an anonymous account and the username of a
password account; the method is kept as text, since other writers may know more methods. -/
structure Account where
  id : String
  name : String
  customerId : String
  authMethod : String
  authId : String
  passwordHash : Option String
  isNewUser : Bool
  credits : Int32
  creditsExpireAt : Option Instant
  plan : Option String
  planType : Option String
  period : Option String
  status : Option String
  subscriptionExpiresAt : Option Instant
  pushToken : Option String
  deletedAt : Option Instant
deriving DecidableEq, Repr

structure Subscription where
  plan : String
  planType : String
  period : String
  status : String
deriving DecidableEq, Repr

/-- What callers see of an account. -/
structure Profile where
  id : String
  name : String
  credits : Int32
  subscription : Option Subscription
  authMethod : String
  isNewUser : Bool
  customerId : String
deriving DecidableEq, Repr

/-- Whether a limit, if there is one, has been reached. -/
def lapsed (limit : Option Instant) (now : Instant) : Bool :=
  limit.any (· ≤ now)

namespace Account

def live (a : Account) : Bool := a.deletedAt.isNone

def creditsAt (a : Account) (now : Instant) : Int32 :=
  if lapsed a.creditsExpireAt now then 0 else a.credits

/-- The subscription, if it is active, has not lapsed and is completely described. -/
def subscriptionAt (a : Account) (now : Instant) : Option Subscription :=
  if a.status ≠ some activeStatus ∨ lapsed a.subscriptionExpiresAt now then none
  else do
    let plan ← a.plan
    let planType ← a.planType
    let period ← a.period
    let status ← a.status
    return ⟨plan, planType, period, status⟩

def profileAt (a : Account) (now : Instant) : Profile where
  id := a.id
  name := a.name
  credits := a.creditsAt now
  subscription := a.subscriptionAt now
  authMethod := a.authMethod
  isNewUser := a.isNewUser
  customerId := a.customerId

@[simp] theorem profileAt_id (a : Account) (now : Instant) : (a.profileAt now).id = a.id := rfl

@[simp] theorem profileAt_name (a : Account) (now : Instant) : (a.profileAt now).name = a.name :=
  rfl

/-- A new account, named after the second in which it is made. -/
def fresh (id customerId : String) (method : AuthMethod) (authId : String)
    (passwordHash : Option String) (now : Instant) : Account where
  id := id
  name := "User" ++ toString (Clock.seconds now)
  customerId := customerId
  authMethod := method.label
  authId := authId
  passwordHash := passwordHash
  isNewUser := true
  credits := starterCredits
  creditsExpireAt := none
  plan := none
  planType := none
  period := none
  status := none
  subscriptionExpiresAt := none
  pushToken := none
  deletedAt := none

end Account

end Latchkey
