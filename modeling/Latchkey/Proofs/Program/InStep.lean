/-
Two programs side by side. They go in step if they ask the same and come to the same kind of end,
whatever the clock shows and the store answers; what they return may differ, as a relation between
their results allows. `inStep_bind` is the rule for one program after the other, and
`InStep.advance` says what it is worth: one step of either does the same to the store, and they go
on in step.
-/
import Latchkey.Proofs.Program.Alone

namespace Latchkey

variable {α β γ δ : Type} {R : α → β → Prop} {S : γ → δ → Prop}

/-- Two runs end in the same way, with results that are related. -/
inductive Outcome.Alike (R : α → β → Prop) : Outcome α → Outcome β → Prop
  | ok {a b} (related : R a b) : Alike R (.ok a) (.ok b)
  | error {e} : Alike R (.error e) (.error e)
  | overflow : Alike R .overflow .overflow

namespace Program

/-- Two programs go in step, to results that `R` relates. -/
inductive InStep (R : α → β → Prop) : Program α → Program β → Prop
  | done {a b} (related : R a b) : InStep R (done a) (done b)
  | failed {e} : InStep R (fail e) (fail e)
  | overflowed : InStep R overflow overflow
  | reading {k k'} (next : ∀ t, InStep R (k t) (k' t)) : InStep R (clock k) (clock k')
  | asking {r k k'} (next : ∀ a, InStep R (k a) (k' a)) : InStep R (call r k) (call r k')

variable {p : Program α} {q : Program β} {f : α → Program γ} {g : β → Program δ}

/-- A program goes in step with itself. -/
theorem inStep_self {R : α → α → Prop} (h : ∀ a, R a a) (p : Program α) : p.InStep R p := by
  induction p with
  | done a => exact .done (h a)
  | fail e => exact .failed
  | overflow => exact .overflowed
  | clock k ih => exact .reading ih
  | call r k ih => exact .asking ih

theorem inStep_bind (h : p.InStep R q) (hf : ∀ a b, R a b → (f a).InStep S (g b)) :
    (p >>= f).InStep S (q >>= g) := by
  show (p.bind f).InStep S (q.bind g)
  induction h with
  | done related => exact hf _ _ related
  | failed => exact .failed
  | overflowed => exact .overflowed
  | reading _ ih => exact .reading ih
  | asking _ ih => exact .asking ih

/-- Programs that begin with the same one. -/
theorem inStep_bind_self {g : α → Program δ} (p : Program α) (hf : ∀ a, (f a).InStep S (g a)) :
    (p >>= f).InStep S (p >>= g) := by
  refine inStep_bind (inStep_self (R := Eq) (fun _ => rfl) p) fun a b h => ?_
  subst h
  exact hf a

namespace InStep

/-- After a step of both, the store is the same and the programs still go in step. -/
theorem advance (h : p.InStep R q) (now : Instant) (store : Store) :
    (q.advance now store).2 = (p.advance now store).2 ∧
      (p.advance now store).1.InStep R (q.advance now store).1 := by
  cases h with
  | done related => exact ⟨rfl, .done related⟩
  | failed => exact ⟨rfl, .failed⟩
  | overflowed => exact ⟨rfl, .overflowed⟩
  | reading next => exact ⟨rfl, next now⟩
  | asking next => exact ⟨rfl, next _⟩

/-- Where one of them has ended so has the other, and in the same way. -/
theorem outcome? (h : p.InStep R q) : Option.Rel (Outcome.Alike R) p.outcome? q.outcome? := by
  cases h with
  | done related => exact .some (.ok related)
  | failed => exact .some .error
  | overflowed => exact .some .overflow
  | reading | asking => exact .none

end InStep

/-- A step of a program that only asks leaves the store alone. -/
theorem reads_advance (h : p.Reads) (now : Instant) (store : Store) :
    (p.advance now store).2 = store ∧ (p.advance now store).1.Reads := by
  cases p with
  | done | fail | overflow => exact ⟨rfl, trivial⟩
  | clock k => exact ⟨rfl, h now⟩
  | call r k => exact ⟨Store.apply_of_reads h.1 now store, h.2 _⟩

end Program

end Latchkey
