/-
Programs taken apart: how a run of one program after the other comes to an end, and programs that
are advanced one step at a time, so that those of several callers can take turns. A program that is
advanced to its end at one instant comes to what its run at that instant comes to
(`exists_advance_eq_run`).
-/
import Latchkey.Program

namespace Latchkey.Program

variable {α β : Type}

instance : LawfulMonad Program := by
  refine LawfulMonad.mk' Program (fun p => ?_) (fun _ _ => rfl) (fun p f g => ?_)
  · show p.bind (fun a => done a) = p
    induction p with
    | done | fail | overflow => rfl
    | clock k ih => exact congrArg clock (funext ih)
    | call r k ih => exact congrArg (call r) (funext ih)
  · show (p.bind f).bind g = p.bind fun a => (f a).bind g
    induction p with
    | done | fail | overflow => rfl
    | clock k ih => exact congrArg clock (funext ih)
    | call r k ih => exact congrArg (call r) (funext ih)

/-! ## Runs -/

@[simp] theorem run_done (now : Instant) (a : α) (s : Store) :
    (done a).run now s = (.ok a, s) := rfl

@[simp] theorem run_fail (now : Instant) (e : AuthError) (s : Store) :
    (fail e : Program α).run now s = (.error e, s) := rfl

@[simp] theorem run_overflow (now : Instant) (s : Store) :
    (overflow : Program α).run now s = (.overflow, s) := rfl

@[simp] theorem run_clock (now : Instant) (k : Instant → Program α) (s : Store) :
    (clock k).run now s = (k now).run now s := rfl

@[simp] theorem run_call (now : Instant) (r : Request) (k : r.Answer → Program α) (s : Store) :
    (call r k).run now s = (k (Store.apply now r s).1).run now (Store.apply now r s).2 := rfl

/-- A program goes on with the result of the one before it; other ends are ends. -/
theorem runWith_bind {σ : Type} (answer : (r : Request) → σ → r.Answer × σ) (now : Instant)
    (p : Program α) (f : α → Program β) (s : σ) :
    (p >>= f).runWith answer now s = match p.runWith answer now s with
      | (.ok a, s') => (f a).runWith answer now s'
      | (.error e, s') => (.error e, s')
      | (.overflow, s') => (.overflow, s') := by
  show (p.bind f).runWith answer now s = _
  induction p generalizing s with
  | done a => rfl
  | fail e => rfl
  | overflow => rfl
  | clock k ih => exact ih now s
  | call r k ih => exact ih _ _

theorem run_bind (now : Instant) (p : Program α) (f : α → Program β) (s : Store) :
    (p >>= f).run now s = match p.run now s with
      | (.ok a, s') => (f a).run now s'
      | (.error e, s') => (.error e, s')
      | (.overflow, s') => (.overflow, s') := by
  unfold run
  rw [runWith_bind]
  rcases p.runWith (Store.apply now) now s with ⟨_ | _ | _, s'⟩ <;> rfl

/-- A failure that is handed on as a value ends nothing. -/
theorem runWith_result {σ : Type} (answer : (r : Request) → σ → r.Answer × σ) (now : Instant)
    (p : Program α) (s : σ) :
    p.result.runWith answer now s = match p.runWith answer now s with
      | (.ok a, s') => (.ok (.ok a), s')
      | (.error e, s') => (.ok (.error e), s')
      | (.overflow, s') => (.overflow, s') := by
  induction p generalizing s with
  | done a => rfl
  | fail e => rfl
  | overflow => rfl
  | clock k ih => exact ih now s
  | call r k ih => exact ih _ _

/-! ## Results -/

/-- While the clock shows instants of `shown` only, a result is as `post` says, whatever the store
answers. -/
def Yields (shown : Instant → Prop) (post : α → Prop) : Program α → Prop
  | done a => post a
  | fail _ => True
  | overflow => True
  | clock k => ∀ t, shown t → (k t).Yields shown post
  | call _ k => ∀ a, (k a).Yields shown post

section

variable {shown : Instant → Prop} {post post' : α → Prop} {p : Program α}

theorem Yields.mono (h : p.Yields shown post) (himp : ∀ a, post a → post' a) :
    p.Yields shown post' := by
  induction p with
  | done a => exact himp a h
  | fail e => trivial
  | overflow => trivial
  | clock k ih => exact fun t ht => ih t (h t ht)
  | call r k ih => exact fun a => ih a (h a)

theorem yields_of_forall (h : ∀ a, post a) (p : Program α) : p.Yields shown post := by
  induction p with
  | done a => exact h a
  | fail e => trivial
  | overflow => trivial
  | clock k ih => exact fun t _ => ih t
  | call r k ih => exact ih

theorem yields_bind {post : β → Prop} {f : α → Program β} :
    (p >>= f).Yields shown post ↔ p.Yields shown fun a => (f a).Yields shown post := by
  show (p.bind f).Yields shown post ↔ _
  induction p with
  | done a => exact Iff.rfl
  | fail e => exact Iff.rfl
  | overflow => exact Iff.rfl
  | clock k ih => exact forall_congr' fun t => imp_congr_right fun _ => ih t
  | call r k ih => exact forall_congr' ih

theorem yields_bind_of_forall {post : β → Prop} {f : α → Program β}
    (h : ∀ a, (f a).Yields shown post) : (p >>= f).Yields shown post :=
  yields_bind.2 (yields_of_forall h p)

/-- A failure that is handed on as a value is a result like any other. -/
theorem yields_result {post : Except AuthError α → Prop}
    (hok : p.Yields shown fun a => post (.ok a)) (herror : ∀ e, post (.error e)) :
    p.result.Yields shown post := by
  induction p with
  | done a => exact hok
  | fail e => exact herror e
  | overflow => trivial
  | clock k ih => exact fun t ht => ih t (hok t ht)
  | call r k ih => exact fun a => ih a (hok a)

end

/-- While the clock shows `now`, a result is as `post` says, whatever the store answers. -/
def Ensures (now : Instant) (post : α → Prop) : Program α → Prop
  | done a => post a
  | fail _ => True
  | overflow => True
  | clock k => (k now).Ensures now post
  | call _ k => ∀ a, (k a).Ensures now post

theorem ensures_of_yields {now : Instant} {post : α → Prop} {p : Program α}
    (h : p.Yields (· = now) post) : p.Ensures now post := by
  induction p with
  | done a => exact h
  | fail e => trivial
  | overflow => trivial
  | clock k ih => exact ih now (h now rfl)
  | call r k ih => exact fun a => ih a (h a)

theorem of_run_ensures {now : Instant} {post : α → Prop} {p : Program α}
    (h : p.Ensures now post) {s : Store} {a : α} (hrun : (p.run now s).1 = .ok a) : post a := by
  induction p generalizing s with
  | done b =>
    cases hrun
    exact h
  | fail e => cases hrun
  | overflow => cases hrun
  | clock k ih => exact ih now h hrun
  | call r k ih => exact ih _ (h _) hrun

/-! ## One step at a time -/

/-- How a program has ended, if it has. -/
def outcome? : Program α → Option (Outcome α)
  | done a => some (.ok a)
  | fail e => some (.error e)
  | overflow => some .overflow
  | clock _ => none
  | call _ _ => none

/-- Reads the clock once or makes one store call; an end is an end. -/
def advance (now : Instant) : Program α → Store → Program α × Store
  | clock k, s => (k now, s)
  | call r k, s => (k (Store.apply now r s).1, (Store.apply now r s).2)
  | p, s => (p, s)

theorem advance_of_outcome? {p : Program α} {o : Outcome α} (h : p.outcome? = some o)
    (now : Instant) (s : Store) : p.advance now s = (p, s) := by
  cases p with
  | done | fail | overflow => rfl
  | clock | call => cases h

theorem advance_rotate_ok {now : Instant} {rot : Rotation} {s s' : Store}
    (h : s.rotate rot now = (.ok (), s')) (k : (Request.rotate rot).Answer → Program α) :
    (call (.rotate rot) k).advance now s = (k (.ok ()), s') := by
  show (k (s.rotate rot now).1, (s.rotate rot now).2) = _
  rw [h]
  rfl

theorem advance_rotate_error {now : Instant} {rot : Rotation} {s s' : Store} {e : AuthError}
    (h : s.rotate rot now = (.error e, s')) (k : (Request.rotate rot).Answer → Program α) :
    (call (.rotate rot) k).advance now s = (k (.error e), s') := by
  show (k (s.rotate rot now).1, (s.rotate rot now).2) = _
  rw [h]
  rfl

/-- A run goes on from where a step at its instant leads. -/
theorem run_advance (now : Instant) (p : Program α) (s : Store) :
    (p.advance now s).1.run now (p.advance now s).2 = p.run now s := by
  cases p <;> rfl

/-- Advances a program `n` times at one instant. -/
def advanceBy (now : Instant) : Nat → Program α → Store → Program α × Store
  | 0, p, s => (p, s)
  | n + 1, p, s => advanceBy now n (p.advance now s).1 (p.advance now s).2

/-- Advanced to its end at one instant, a program comes to what its run comes to. -/
theorem exists_advance_eq_run (now : Instant) (p : Program α) (s : Store) :
    ∃ n, (p.advanceBy now n s).1.outcome? = some (p.run now s).1 ∧
      (p.advanceBy now n s).2 = (p.run now s).2 := by
  induction p generalizing s with
  | done a => exact ⟨0, rfl, rfl⟩
  | fail e => exact ⟨0, rfl, rfl⟩
  | overflow => exact ⟨0, rfl, rfl⟩
  | clock k ih =>
    obtain ⟨n, h⟩ := ih now s
    exact ⟨n + 1, h⟩
  | call r k ih =>
    obtain ⟨n, h⟩ := ih _ _
    exact ⟨n + 1, h⟩

end Latchkey.Program
