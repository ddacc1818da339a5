/-
Running the service under difficulties: a store that gives arranged faults instead of answers, that
does not see accounts when it is asked for them, or that cannot be reached at all, and several calls
at once. A stage keeps a record of what the service asked and what it was told.
-/
import Latchkey.Program

namespace Latchkey

/-- The kinds of requests. -/
inductive Request.Kind
  | accountByDeviceKey
  | accountByUsername
  | accountById
  | insertAccount
  | rotate
  | validate
  | invalidate
deriving DecidableEq, Repr

def Request.kind : Request → Kind
  | .accountByDeviceKey _ => .accountByDeviceKey
  | .accountByUsername _ => .accountByUsername
  | .accountById _ => .accountById
  | .insertAccount _ => .insertAccount
  | .rotate _ => .rotate
  | .validate _ _ => .validate
  | .invalidate _ _ => .invalidate

namespace Rehearsal

/-- A request and what it was answered. -/
structure Exchange where
  request : Request
  answer : request.Answer

structure Stage where
  /-- The store behind the stage; `none` is one that cannot be reached. -/
  store : Option Store
  /-- Faults that are given instead of answers, each once. -/
  faults : List (Request.Kind × AuthError)
  /-- Whether look-ups by device key and by username find nobody. -/
  isBlind : Bool
  /-- What was asked, latest first. -/
  record : List Exchange

namespace Stage

/-- A stage without difficulties. -/
def calm (store : Option Store) : Stage := ⟨store, [], false, []⟩

/-- Why a store that cannot be reached does not answer. -/
def unreachable : AuthError := .database .poolClosed

/-- Asks the store itself. -/
def ask (now : Instant) (r : Request) (s : Stage) : r.Answer × Stage :=
  match s.store with
  | none => (.error unreachable, s)
  | some store =>
    let (answer, store') := Store.apply now r store
    (answer, { s with store := some store' })

/-- Takes the first fault that is arranged for a kind of request. -/
def takeFault (kind : Request.Kind) :
    List (Request.Kind × AuthError) → Option (AuthError × List (Request.Kind × AuthError))
  | [] => none
  | (k, e) :: rest =>
    if k = kind then some (e, rest)
    else (takeFault kind rest).map fun (found, rest) => (found, (k, e) :: rest)

/-- What is told about accounts when they are not seen. -/
def overlook : (r : Request) → Option r.Answer
  | .accountByDeviceKey _ => some (.ok (none : Option Account))
  | .accountByUsername _ => some (.ok (none : Option Account))
  | _ => none

/-- The answer on the stage: an arranged fault comes before everything else. -/
def respond (now : Instant) (r : Request) (s : Stage) : r.Answer × Stage :=
  match takeFault r.kind s.faults with
  | some (e, rest) => (.error e, { s with faults := rest })
  | none =>
    match if s.isBlind then overlook r else none with
    | some answer => (answer, s)
    | none => s.ask now r

/-- Answers and keeps a record of it. -/
def answer (now : Instant) (r : Request) (s : Stage) : r.Answer × Stage :=
  let (a, s') := s.respond now r
  (a, { s' with record := ⟨r, a⟩ :: s'.record })

/-- Runs a program on the stage. -/
def run {α : Type} (now : Instant) (p : Program α) (s : Stage) : Outcome α × Stage :=
  p.runWith (answer now) now s

/-! ## Several programs at once -/

/-- Takes every program past its first store call. -/
def stepAll {α : Type} (now : Instant) : List (Program α) → Stage → List (Program α) × Stage
  | [], s => ([], s)
  | p :: ps, s =>
    let (p', s) := p.step (answer now) now s
    let (ps', s) := stepAll now ps s
    (p' :: ps', s)

/-- Runs programs to their ends, one after the other. -/
def runAll {α : Type} (now : Instant) : List (Program α) → Stage → List (Outcome α) × Stage
  | [], s => ([], s)
  | p :: ps, s =>
    let (o, s) := s.run now p
    let (os, s) := runAll now ps s
    (o :: os, s)

/-- Programs that all make their first store call before any of them goes on. -/
def race {α : Type} (now : Instant) (ps : List (Program α)) (s : Stage) :
    List (Outcome α) × Stage :=
  let (ps, s) := stepAll now ps s
  runAll now ps s

end Stage

end Rehearsal

end Latchkey
