/-
What a program learns on its way: the last reading of the clock, and the account that the store
vouched for last. `Program.Gathers` bounds what a program asks and ties its result to what it has
learnt, whatever the answers are; there is one rule for each way of making a program.
-/
import Latchkey.Program

namespace Latchkey

/-! ## Knowledge -/

/-- The account that an answer vouches for: it was live, or was added, at that moment. -/
def Request.told : (r : Request) → r.Answer → Option String
  | .accountByDeviceKey _, .ok (some a) => some (Account.id a)
  | .accountByUsername _, .ok (some a) => some (Account.id a)
  | .accountById _, .ok (some a) => some (Account.id a)
  | .insertAccount a, .ok true => some a.id
  | _, _ => none

structure Knowledge where
  /-- The last reading of the clock. -/
  clock : Option Instant
  /-- The account that the store vouched for last. -/
  account : Option String

namespace Knowledge

/-- What is known at the beginning. -/
def nothing : Knowledge := ⟨none, none⟩

def read (m : Knowledge) (t : Instant) : Knowledge := { m with clock := some t }

def hear (m : Knowledge) (r : Request) (a : r.Answer) : Knowledge :=
  { m with account := (r.told a).or m.account }

/-- The account that is known after an answer was told with it, or was known before. -/
theorem account_of_hear {m : Knowledge} {r : Request} {a : r.Answer} {userId : String}
    (h : (m.hear r a).account = some userId) :
    r.told a = some userId ∨ m.account = some userId := by
  change (r.told a).or m.account = some userId at h
  cases htold : r.told a with
  | some v => exact Or.inl (by rw [htold] at h; exact h)
  | none => exact Or.inr (by rw [htold] at h; exact h)

end Knowledge

/-! ## Programs that gather -/

namespace Program

variable {α β : Type} {may : Request → Prop} {m : Knowledge}

/-- Every request of a program is one that `may` allows, and whenever it is done, what it has
learnt and its result are as `post` says. -/
def Gathers (may : Request → Prop) (post : Knowledge → α → Prop) : Knowledge → Program α → Prop
  | m, .done a => post m a
  | _, .fail _ => True
  | _, .overflow => True
  | m, .clock k => ∀ t, (k t).Gathers may post (m.read t)
  | m, .call r k => may r ∧ ∀ a, (k a).Gathers may post (m.hear r a)

theorem gathers_mono {post post' : Knowledge → α → Prop} {p : Program α}
    (hpost : ∀ m a, post m a → post' m a) (h : p.Gathers may post m) : p.Gathers may post' m := by
  induction p generalizing m with
  | done a => exact hpost m a h
  | fail e => trivial
  | overflow => trivial
  | clock k ih => exact fun t => ih t (h t)
  | call r k ih => exact ⟨h.1, fun a => ih a (h.2 a)⟩

theorem gathers_bind {post : Knowledge → β → Prop} {p : Program α} {f : α → Program β}
    (h : p.Gathers may (fun m a => (f a).Gathers may post m) m) :
    (p >>= f).Gathers may post m := by
  show (p.bind f).Gathers may post m
  induction p generalizing m with
  | done a => exact h
  | fail e => trivial
  | overflow => trivial
  | clock k ih => exact fun t => ih t (h t)
  | call r k ih => exact ⟨h.1, fun a => ih a (h.2 a)⟩

theorem gathers_now {post : Knowledge → Instant → Prop} (h : ∀ t, post (m.read t) t) :
    now.Gathers may post m := h

theorem gathers_ask {r : Request} {post : Knowledge → r.Reply → Prop} (hr : may r)
    (h : ∀ x, post (m.hear r (.ok x)) x) : (ask r).Gathers may post m := by
  refine ⟨hr, fun a => ?_⟩
  cases a with
  | error e => trivial
  | ok x => exact h x

theorem gathers_orFail {post : Knowledge → α → Prop} {a : Option α} {e : AuthError}
    (h : ∀ x, a = some x → post m x) : (orFail a e).Gathers may post m := by
  cases a with
  | none => trivial
  | some x => exact h x rfl

theorem gathers_ofExcept {post : Knowledge → α → Prop} {a : Except AuthError α}
    (h : ∀ x, a = .ok x → post m x) : (ofExcept a).Gathers may post m := by
  cases a with
  | error e => trivial
  | ok x => exact h x rfl

end Program

end Latchkey
