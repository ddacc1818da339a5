/-
The options of the program. An argument wins over the environment, and the environment over the
default. Arguments are read from left to right; the value of an option that stands in an argument of
its own is only looked at when the next option or the end is reached.
-/
import Latchkey.AccessToken.Issuer
import Latchkey.CommandLine.Environment
import Latchkey.CommandLine.Terminal
import Latchkey.Text.Integer

namespace Latchkey.CommandLine

inductive OptionKey
  | bindAddress
  | databaseUrl
  | maxConnections
  | lifetimeMinutes
  | hashSecret
deriving DecidableEq, Repr

namespace OptionKey

def all : List OptionKey := [bindAddress, databaseUrl, maxConnections, lifetimeMinutes, hashSecret]

def label : OptionKey → String
  | bindAddress => "bind-addr"
  | databaseUrl => "database-url"
  | maxConnections => "max-connections"
  | lifetimeMinutes => "jwt-expiration-minutes"
  | hashSecret => "refresh-token-secret"

/-- What stands for the value in messages. -/
def placeholder (o : OptionKey) : String :=
  o.label.map fun c => if c = '-' then '_' else c.toUpper

/-- The option as messages name it. -/
def usage (o : OptionKey) : String := "--" ++ o.label ++ " <" ++ o.placeholder ++ ">"

def about : OptionKey → String
  | bindAddress => "Address to listen on"
  | databaseUrl => "PostgreSQL connection URL"
  | maxConnections => "Maximum number of database connections in the pool"
  | lifetimeMinutes => "Access token lifetime in minutes"
  | hashSecret => "Dedicated secret for refresh-token hashing (defaults to the JWT secret)"

/-- The environment variable of the same meaning. -/
def environmentName? : OptionKey → Option String
  | bindAddress => some "BIND_ADDR"
  | databaseUrl => some "DATABASE_URL"
  | maxConnections => none
  | lifetimeMinutes => some "JWT_EXPIRATION_MINUTES"
  | hashSecret => some "REFRESH_TOKEN_SECRET"

/-- The most connections unless told otherwise. -/
def defaultConnections : Nat := 10

def default? : OptionKey → Option String
  | bindAddress => some "0.0.0.0:8080"
  | databaseUrl => some "postgres://localhost:5432/nostalgix"
  | maxConnections => some (toString defaultConnections)
  | lifetimeMinutes => some (toString Issuer.defaultLifetimeMinutes)
  | hashSecret => none

end OptionKey

/-! ## Values -/

structure Options where
  bindAddress : String
  databaseUrl : String
  maxConnections : Nat
  lifetimeMinutes : Int64
  hashSecret : Option String
deriving DecidableEq, Repr

/-- Why a value is refused. -/
inductive ValueFault
  | integer (fault : Text.IntegerFault)
  | outOfRange (value : Int)
deriving DecidableEq, Repr

def ValueFault.message : ValueFault → String
  | integer fault => fault.message
  | outOfRange value =>
    toString value ++ " is not in 0..=" ++ toString Text.maxUnsigned32

/-- Options while they are read; those that are absent have not been given yet. -/
structure Given where
  bindAddress : Option String
  databaseUrl : Option String
  maxConnections : Option Nat
  lifetimeMinutes : Option Int64
  hashSecret : Option String
deriving DecidableEq, Repr

namespace Given

def none : Given := ⟨.none, .none, .none, .none, .none⟩

def has (g : Given) : OptionKey → Bool
  | .bindAddress => g.bindAddress.isSome
  | .databaseUrl => g.databaseUrl.isSome
  | .maxConnections => g.maxConnections.isSome
  | .lifetimeMinutes => g.lifetimeMinutes.isSome
  | .hashSecret => g.hashSecret.isSome

def readInteger (value : String) : Except ValueFault Int :=
  (Text.readInteger Text.minSigned64 Text.maxSigned64 value.toList).mapError .integer

/-- Adds the value of an option. -/
def add (g : Given) (o : OptionKey) (value : String) : Except ValueFault Given :=
  match o with
  | .bindAddress => .ok { g with bindAddress := some value }
  | .databaseUrl => .ok { g with databaseUrl := some value }
  | .hashSecret => .ok { g with hashSecret := some value }
  | .maxConnections => do
    let n ← readInteger value
    if 0 ≤ n ∧ n ≤ Text.maxUnsigned32 then return { g with maxConnections := some n.toNat }
    else throw (.outOfRange n)
  | .lifetimeMinutes => do
    return { g with lifetimeMinutes := some (Int64.ofInt (← readInteger value)) }

/-- The options, with defaults for those that were not given. -/
def finish (g : Given) : Options where
  bindAddress := g.bindAddress.getD (OptionKey.bindAddress.default?.getD "")
  databaseUrl := g.databaseUrl.getD (OptionKey.databaseUrl.default?.getD "")
  maxConnections := g.maxConnections.getD OptionKey.defaultConnections
  lifetimeMinutes := g.lifetimeMinutes.getD (Int64.ofInt Issuer.defaultLifetimeMinutes)
  hashSecret := g.hashSecret

end Given

/-! ## Arguments -/

/-- Why the program does not start. -/
inductive Halt
  | help
  | version
  | unexpected (argument : String)
  | unexpectedValue (value flag : String)
  | missingValue (option : OptionKey)
  | usedTwice (option : OptionKey)
  | invalidValue (value : String) (option : OptionKey) (fault : ValueFault)
deriving DecidableEq, Repr

/-- The message of a halt, with the visible part of what the user gave; whoever asks for something
gets no message. -/
def Halt.message : Halt → String
  | help | version => ""
  | unexpected argument =>
    "error: unexpected argument '" ++ Terminal.visible argument ++ "' found"
  | unexpectedValue value flag =>
    "error: unexpected value '" ++ Terminal.visible value ++ "' for '" ++ flag
      ++ "' found; no more were expected"
  | missingValue option =>
    "error: a value is required for '" ++ option.usage ++ "' but none was supplied"
  | usedTwice option => "error: the argument '" ++ option.usage ++ "' cannot be used multiple times"
  | invalidValue value option fault =>
    "error: invalid value '" ++ Terminal.visible value ++ "' for '" ++ option.usage ++ "': "
      ++ fault.message

/-- Arguments while they are read. -/
structure Reading where
  given : Given
  /-- The option that was named last, with its value if that has come. -/
  pending : Option (OptionKey × Option String)
  /-- Whether two hyphens have ended the options. -/
  isEnded : Bool

namespace Reading

/-- Takes the value of an option that is given in an argument. -/
def accept (r : Reading) (o : OptionKey) (value : String) : Except Halt Reading :=
  if r.given.has o then .error (.usedTwice o)
  else
    match r.given.add o value with
    | .ok given => .ok { r with given := given }
    | .error fault => .error (.invalidValue value o fault)

/-- Looks at the value of the option that was named last. -/
def settle (r : Reading) : Except Halt Reading :=
  match r.pending with
  | none => .ok r
  | some (o, none) => .error (.missingValue o)
  | some (o, some value) => { r with pending := none }.accept o value

/-- Whether the last option still waits for its value. -/
def isWaiting (r : Reading) : Bool :=
  match r.pending with
  | some (_, none) => !r.isEnded
  | _ => false

/-- Takes a long option: its name, and what stands behind an equals sign. -/
def long (r : Reading) (name : String) (value : Option String) : Except Halt Reading :=
  match OptionKey.all.find? (·.label == name), name, value with
  | some o, _, some value => do (← r.settle).accept o value
  | some o, _, none => do return { ← r.settle with pending := some (o, none) }
  | none, "help", none => do let _ ← r.settle; throw .help
  | none, "version", none => do let _ ← r.settle; throw .version
  | none, "help", some value | none, "version", some value =>
    .error (.unexpectedValue value ("--" ++ name))
  | none, _, _ => .error (.unexpected ("--" ++ name))

/-- Takes a short option, which is never alone unless it is unknown. -/
def short (r : Reading) (c : Char) : Except Halt Reading := do
  if c = 'h' then
    let _ ← r.settle
    throw .help
  else if c = 'V' then
    let _ ← r.settle
    throw .version
  else throw (.unexpected (String.ofList ['-', c]))

/-- Takes the next argument. -/
def next (r : Reading) (argument : String) : Except Halt Reading :=
  match r.isEnded, argument.toList with
  | false, ['-', '-'] => .ok { r with isEnded := true }
  | false, '-' :: '-' :: rest =>
    let name := rest.takeWhile (· ≠ '=')
    let value := if name.length = rest.length then none
      else some (String.ofList (rest.drop (name.length + 1)))
    r.long (String.ofList name) value
  | false, '-' :: c :: _ => r.short c
  | _, _ =>
    match r.pending with
    | some (o, none) =>
      if r.isWaiting then .ok { r with pending := some (o, some argument) }
      else .error (.unexpected argument)
    | _ => .error (.unexpected argument)

end Reading

/-- Takes the values of options that were not given from the environment. -/
def addVariables (env : Environment) (g : Given) : Except Halt Given :=
  OptionKey.all.foldlM (fun (g : Given) o =>
    match o.environmentName?.bind env.get? with
    | none => .ok g
    | some value =>
      if g.has o then .ok g
      else
        match g.add o value with
        | .ok g => .ok g
        | .error fault => .error (.invalidValue value o fault)) g

/-- The options in arguments and environment. -/
def Options.ofArguments (arguments : List String) (env : Environment) : Except Halt Options := do
  let read ← arguments.foldlM Reading.next ⟨Given.none, none, false⟩
  let read ← read.settle
  return (← addVariables env read.given).finish

end Latchkey.CommandLine
