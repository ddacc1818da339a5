/-
The operations of the service as programs: what they read from the clock and ask of the store, in
order, and what they return. A program says nothing about who answers, so the same definition runs
against a store, against a store that fails, and step by step beside other programs.

`Program.run` answers all of a program's requests at one instant. `Program.toCall` and
`Program.step` split a run at its store calls.
-/
import Latchkey.Store

namespace Latchkey

inductive Program (α : Type) : Type
  | done (a : α)
  | fail (e : AuthError)
  /-- The clock has left the calendar; there is no answer. -/
  | overflow
  | clock (k : Instant → Program α)
  | call (r : Request) (k : r.Answer → Program α)

/-- How a run ends. -/
inductive Outcome (α : Type)
  | ok (a : α)
  | error (e : AuthError)
  | overflow
deriving DecidableEq, Repr

namespace Program

variable {α β : Type}

protected def bind : Program α → (α → Program β) → Program β
  | done a, f => f a
  | fail e, _ => fail e
  | overflow, _ => overflow
  | clock k, f => clock fun t => (k t).bind f
  | call r k, f => call r fun a => (k a).bind f

instance : Monad Program where
  pure := done
  bind := Program.bind

/-- The instant at which this step is taken. -/
def now : Program Instant := clock done

/-- The instant `d` after `t`. -/
def after (t : Instant) (d : Duration) : Program Instant :=
  match Clock.shift? t d with
  | some u => done u
  | none => overflow

def ofExcept : Except AuthError α → Program α
  | .ok a => done a
  | .error e => fail e

/-- Fails unless there is a value. -/
def orFail (a : Option α) (e : AuthError) : Program α :=
  match a with
  | some a => done a
  | none => fail e

/-- The store's answer; a store that does not answer fails the program. -/
def ask (r : Request) : Program r.Reply := call r ofExcept

/-- Hands a failure on as a value. -/
def result : Program α → Program (Except AuthError α)
  | done a => done (.ok a)
  | fail e => done (.error e)
  | overflow => overflow
  | clock k => clock fun t => (k t).result
  | call r k => call r fun a => (k a).result

/-! ## Running -/

variable {σ : Type}

/-- Runs a program to its end at one instant, with `answer` standing for the store. -/
def runWith (answer : (r : Request) → σ → r.Answer × σ) (now : Instant) :
    Program α → σ → Outcome α × σ
  | done a, s => (.ok a, s)
  | fail e, s => (.error e, s)
  | overflow, s => (.overflow, s)
  | clock k, s => (k now).runWith answer now s
  | call r k, s =>
    let (a, s') := answer r s
    (k a).runWith answer now s'

def run (now : Instant) (p : Program α) (s : Store) : Outcome α × Store :=
  p.runWith (Store.apply now) now s

/-- Reads the clock up to the first store call. -/
def toCall (now : Instant) : Program α → Program α
  | clock k => (k now).toCall now
  | p => p

/-- Reads the clock and makes the first store call, if there is one. -/
def step (answer : (r : Request) → σ → r.Answer × σ) (now : Instant) (p : Program α) (s : σ) :
    Program α × σ :=
  match p.toCall now with
  | call r k =>
    let (a, s') := answer r s
    (k a, s')
  | q => (q, s)

end Program

end Latchkey
