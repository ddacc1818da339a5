/-
Who is calling: a device key stands for an anonymous account, which is made on first sight, and a
username with its password for an account that was registered. A username that is unknown and a
password that is wrong are not told apart.
-/
import Latchkey.Draws
import Latchkey.Password.Hash
import Latchkey.Program

namespace Latchkey.Identity

open Program

/-- Whether a password is the one of a stored text; a text that cannot be compared is the service's
own trouble. -/
def checkPassword (password hash : String) : Except AuthError Bool :=
  (Password.verify password hash).mapError fun fault =>
    .internal ("bcrypt verify: " ++ fault.message)

/-- Stores a new account. There is no profile if the store wrote none, because a live account has
the same identity. -/
def insertNew (draws : Draws) (method : AuthMethod) (authId : String)
    (passwordHash : Option String) : Program (Option Profile) := do
  let account := Account.fresh draws.accountId draws.customerId method authId passwordHash (← now)
  let written : Bool ← ask (.insertAccount account)
  if written then return some (account.profileAt (← now)) else return none

/-- The anonymous account of a device. -/
def resolveAnonymous (draws : Draws) (deviceKey : String) : Program Profile := do
  let known : Option Account ← ask (.accountByDeviceKey deviceKey)
  match known with
  | some account => return account.profileAt (← now)
  | none =>
    match ← insertNew draws .anonymous deviceKey none with
    | some profile => return profile
    | none => fail (.nothingWritten "no anonymous user added")

/-- The account with a username and a password. -/
def resolveByPassword (username password : String) : Program Profile := do
  let known : Option Account ← ask (.accountByUsername username)
  let account ← orFail known .badCredentials
  let hash ← orFail account.passwordHash .badCredentials
  if ← ofExcept (checkPassword password hash) then return account.profileAt (← now)
  else fail .badCredentials

/-- Makes an account with a username and a password. The name may have been taken between the
look-up and the insertion; then nothing is written. -/
def register (draws : Draws) (username password : String) : Program Profile := do
  if password.length < minPasswordLength then fail (.refused .shortPassword)
  else
    let known : Option Account ← ask (.accountByUsername username)
    match known with
    | some _ => fail (.refused .usernameTaken)
    | none =>
      let hash := Password.hash password draws.salt
      match ← insertNew draws .password username (some hash) with
      | some profile => return profile
      | none => fail (.refused .usernameTaken)

/-- The profile of the live account with an id. -/
def resolveById (id : String) : Program (Option Profile) := do
  let known : Option Account ← ask (.accountById id)
  match known with
  | some account => return some (account.profileAt (← now))
  | none => return none

end Latchkey.Identity
