/-
A program that is left to itself: nobody else changes the store between its steps, and each step
comes at an instant of its own. `Program.Ends` says how it can end and what it leaves behind,
however the clock goes on. The ends of a composition are made of those of its parts (`ends_bind`);
every end can be run to (`ends_iff_exists_runAlong`); and where the clock stands still there is one
end, that of the run (`ends_at_iff`).

A program that settles asks questions first and has at most one thing written, with its last
request. So it leaves the store as it was unless it succeeds (`ends_of_settles`).
-/
import Latchkey.Proofs.Program.Steps
import Latchkey.Proofs.Store.Rows

namespace Latchkey

/-! ## Ends -/

namespace Program

variable {α β : Type}

/-- `p.Ends shown s o s'`: left to itself over `s`, while the clock shows instants of `shown` only,
`p` can end as `o` and leave `s'`. -/
inductive Ends (shown : Instant → Prop) : Program α → Store → Outcome α → Store → Prop
  | done {a s} : Ends shown (done a) s (.ok a) s
  | fail {e s} : Ends shown (fail e) s (.error e) s
  | overflow {s} : Ends shown overflow s .overflow s
  | clock {k t s o s'} (shows : shown t) (next : Ends shown (k t) s o s') :
      Ends shown (clock k) s o s'
  | call {r k t s o s'} (shows : shown t)
      (next : Ends shown (k (Store.apply t r s).1) (Store.apply t r s).2 o s') :
      Ends shown (call r k) s o s'

variable {shown : Instant → Prop} {s s' : Store} {o : Outcome α}

/-- A program that has not ended goes on from where its next step leads. -/
theorem ends_advance {p : Program α} (hp : p.outcome? = none) (h : p.Ends shown s o s') :
    ∃ t, shown t ∧ (p.advance t s).1.Ends shown (p.advance t s).2 o s' := by
  cases h with
  | done => cases hp
  | fail => cases hp
  | overflow => cases hp
  | clock shows next => exact ⟨_, shows, next⟩
  | call shows next => exact ⟨_, shows, next⟩

theorem ends_clock_iff {k : Instant → Program α} :
    (clock k).Ends shown s o s' ↔ ∃ t, shown t ∧ (k t).Ends shown s o s' := by
  constructor
  · rintro (_ | _ | _ | ⟨shows, next⟩)
    exact ⟨_, shows, next⟩
  · rintro ⟨t, shows, next⟩
    exact .clock shows next

theorem ends_call_iff {r : Request} {k : r.Answer → Program α} :
    (call r k).Ends shown s o s' ↔
      ∃ t, shown t ∧ (k (Store.apply t r s).1).Ends shown (Store.apply t r s).2 o s' := by
  constructor
  · rintro (_ | _ | _ | _ | ⟨shows, next⟩)
    exact ⟨_, shows, next⟩
  · rintro ⟨t, shows, next⟩
    exact .call shows next

/-- From an end of the program before it, `f` goes on with the result; other ends are ends. -/
def GoesOn (shown : Instant → Prop) (f : α → Program β) (o : Outcome β) (s' : Store) :
    Outcome α → Store → Prop
  | .ok a, s => (f a).Ends shown s o s'
  | .error e, s => o = .error e ∧ s' = s
  | .overflow, s => o = .overflow ∧ s' = s

theorem ends_bind {p : Program α} {f : α → Program β} {o : Outcome β} :
    (p >>= f).Ends shown s o s' ↔
      ∃ ended s₁, p.Ends shown s ended s₁ ∧ GoesOn shown f o s' ended s₁ := by
  show (p.bind f).Ends shown s o s' ↔ _
  induction p generalizing s with
  | done a =>
    constructor
    · exact fun h => ⟨_, _, .done, h⟩
    · rintro ⟨_, _, ⟨⟩, h⟩
      exact h
  | fail e =>
    constructor
    · rintro ⟨⟩
      exact ⟨_, _, .fail, rfl, rfl⟩
    · rintro ⟨_, _, ⟨⟩, rfl, rfl⟩
      exact .fail
  | overflow =>
    constructor
    · rintro ⟨⟩
      exact ⟨_, _, .overflow, rfl, rfl⟩
    · rintro ⟨_, _, ⟨⟩, rfl, rfl⟩
      exact .overflow
  | clock k ih =>
    simp only [Program.bind, ends_clock_iff, ih]
    exact ⟨fun ⟨t, shows, ended, s₁, h, hf⟩ => ⟨ended, s₁, ⟨t, shows, h⟩, hf⟩,
      fun ⟨ended, s₁, ⟨t, shows, h⟩, hf⟩ => ⟨t, shows, ended, s₁, h, hf⟩⟩
  | call r k ih =>
    simp only [Program.bind, ends_call_iff, ih]
    exact ⟨fun ⟨t, shows, ended, s₁, h, hf⟩ => ⟨ended, s₁, ⟨t, shows, h⟩, hf⟩,
      fun ⟨ended, s₁, ⟨t, shows, h⟩, hf⟩ => ⟨t, shows, ended, s₁, h, hf⟩⟩

/-- A failure that is handed on as a value ends nothing. -/
theorem ends_result {p : Program α} {o : Outcome (Except AuthError α)} :
    p.result.Ends shown s o s' ↔ ∃ ended, p.Ends shown s ended s' ∧ o = match ended with
      | .ok a => .ok (.ok a)
      | .error e => .ok (.error e)
      | .overflow => .overflow := by
  induction p generalizing s with
  | done a =>
    constructor
    · rintro ⟨⟩
      exact ⟨_, .done, rfl⟩
    · rintro ⟨_, ⟨⟩, rfl⟩
      exact .done
  | fail e =>
    constructor
    · rintro ⟨⟩
      exact ⟨_, .fail, rfl⟩
    · rintro ⟨_, ⟨⟩, rfl⟩
      exact .done
  | overflow =>
    constructor
    · rintro ⟨⟩
      exact ⟨_, .overflow, rfl⟩
    · rintro ⟨_, ⟨⟩, rfl⟩
      exact .overflow
  | clock k ih =>
    simp only [result, ends_clock_iff, ih]
    exact ⟨fun ⟨t, shows, ended, h, ho⟩ => ⟨ended, ⟨t, shows, h⟩, ho⟩,
      fun ⟨ended, ⟨t, shows, h⟩, ho⟩ => ⟨t, shows, ended, h, ho⟩⟩
  | call r k ih =>
    simp only [result, ends_call_iff, ih]
    exact ⟨fun ⟨t, shows, ended, h, ho⟩ => ⟨ended, ⟨t, shows, h⟩, ho⟩,
      fun ⟨ended, ⟨t, shows, h⟩, ho⟩ => ⟨t, shows, ended, h, ho⟩⟩

/-- Runs a program that is left to itself, one step at each of the instants; there is no end if
they are too few. -/
def runAlong : List Instant → Program α → Store → Option (Outcome α × Store)
  | _, done a, s => some (.ok a, s)
  | _, fail e, s => some (.error e, s)
  | _, overflow, s => some (.overflow, s)
  | [], clock _, _ | [], call _ _, _ => none
  | t :: ts, clock k, s => runAlong ts (k t) s
  | t :: ts, call r k, s => runAlong ts (k (Store.apply t r s).1) (Store.apply t r s).2

/-- A program can end so if some instants that the clock shows take it to that end. -/
theorem ends_iff_exists_runAlong {p : Program α} :
    p.Ends shown s o s' ↔ ∃ ts, (∀ t ∈ ts, shown t) ∧ p.runAlong ts s = some (o, s') := by
  constructor
  · intro h
    induction h with
    | done | fail | overflow => exact ⟨[], List.forall_mem_nil _, rfl⟩
    | clock shows _ ih | call shows _ ih =>
      obtain ⟨ts, hts, hrun⟩ := ih
      exact ⟨_ :: ts, List.forall_mem_cons.2 ⟨shows, hts⟩, hrun⟩
  · rintro ⟨ts, hts, hrun⟩
    fun_induction runAlong ts p s with
    | case1 | case2 | case3 =>
      cases hrun
      constructor
    | case4 | case5 => cases hrun
    | case6 t ts k s ih =>
      obtain ⟨shows, hts⟩ := List.forall_mem_cons.1 hts
      exact .clock shows (ih hts hrun)
    | case7 t ts r k s ih =>
      obtain ⟨shows, hts⟩ := List.forall_mem_cons.1 hts
      exact .call shows (ih hts hrun)

/-- While the clock stands still, a program ends as its run does. -/
theorem ends_at_iff {now : Instant} {p : Program α} :
    p.Ends (· = now) s o s' ↔ p.run now s = (o, s') := by
  constructor
  · intro h
    induction h with
    | done | fail | overflow => rfl
    | clock shows _ ih => exact shows ▸ ih
    | call shows _ ih => exact shows ▸ ih
  · intro h
    induction p generalizing s with
    | done a => cases h; exact .done
    | fail e => cases h; exact .fail
    | overflow => cases h; exact .overflow
    | clock k ih => exact .clock rfl (ih now h)
    | call r k ih => exact .call rfl (ih _ h)

theorem ends_run (now : Instant) (p : Program α) (s : Store) :
    p.Ends (· = now) s (p.run now s).1 (p.run now s).2 := ends_at_iff.2 rfl

/-- A run only makes store calls. -/
theorem store_run (now : Instant) (p : Program α) (store : Store) :
    ∃ events, (p.run now store).2 = store.replay events := by
  induction p generalizing store with
  | done | fail | overflow => exact ⟨[], rfl⟩
  | clock k ih => exact ih now store
  | call r k ih =>
    obtain ⟨events, h⟩ := ih (Store.apply now r store).1 (store.after now (.request r))
    exact ⟨(now, .request r) :: events, h⟩

end Program

/-! ## Questions -/

/-- A request that only asks. -/
def Request.Reads : Request → Prop
  | .accountByDeviceKey _ | .accountByUsername _ | .accountById _ | .validate _ _ => True
  | .insertAccount _ | .rotate _ | .invalidate _ _ => False

theorem Store.apply_of_reads {r : Request} (h : r.Reads) (now : Instant) (s : Store) :
    (Store.apply now r s).2 = s := by
  cases r with
  | accountByDeviceKey | accountByUsername | accountById | validate => rfl
  | insertAccount | rotate | invalidate => exact absurd h id

/-- A request that is refused changes nothing. -/
theorem Store.apply_of_error {r : Request} {now : Instant} {s : Store} {e : AuthError}
    (h : (Store.apply now r s).1 = .error e) : (Store.apply now r s).2 = s := by
  cases r with
  | accountByDeviceKey | accountByUsername | accountById | validate => rfl
  | insertAccount | invalidate => cases h
  | rotate rot =>
    change (s.rotate rot now).1 = .error e at h
    show (s.rotate rot now).2 = s
    rcases rotate_cases s rot now with ⟨hr, -⟩ | ⟨hr, -⟩
    · rw [hr] at h
      cases h
    · rw [hr]

namespace Program

variable {α β : Type} {p : Program α} {f : α → Program β} {post : β → Prop}

/-- All that a program does is ask. -/
def Reads : Program α → Prop
  | done _ | fail _ | overflow => True
  | clock k => ∀ t, (k t).Reads
  | call r k => r.Reads ∧ ∀ a, (k a).Reads

theorem reads_bind (hp : p.Reads) (hf : ∀ a, (f a).Reads) : (p >>= f).Reads := by
  show (p.bind f).Reads
  induction p with
  | done a => exact hf a
  | fail | overflow => trivial
  | clock k ih => exact fun t => ih t (hp t)
  | call r k ih => exact ⟨hp.1, fun a => ih a (hp.2 a)⟩

theorem reads_now : now.Reads := fun _ => trivial

theorem reads_ofExcept (a : Except AuthError α) : (ofExcept a).Reads := by
  cases a <;> trivial

theorem reads_orFail (a : Option α) (e : AuthError) : (orFail a e).Reads := by
  cases a <;> trivial

theorem reads_after (t : Instant) (d : Duration) : (after t d).Reads := by
  unfold after
  split <;> trivial

theorem reads_ask {r : Request} (h : r.Reads) : (ask r).Reads := ⟨h, reads_ofExcept⟩

/-! ## Programs that write last -/

/-- A program asks, and what it does with its last request is all that it writes: if that is
carried out, the program is done, with a result as `post` says, and else it fails. -/
def Settles (post : α → Prop) : Program α → Prop
  | done a => post a
  | fail _ | overflow => True
  | clock k => ∀ t, (k t).Settles post
  | call r k => (r.Reads ∧ ∀ a, (k a).Settles post) ∨
      (∀ x, ∃ a, k (.ok x) = done a ∧ post a) ∧ ∀ e, ∃ e', k (.error e) = fail e'

theorem settles_bind (hp : p.Reads) (hf : ∀ a, (f a).Settles post) : (p >>= f).Settles post := by
  show (p.bind f).Settles post
  induction p with
  | done a => exact hf a
  | fail | overflow => trivial
  | clock k ih => exact fun t => ih t (hp t)
  | call r k ih => exact Or.inl ⟨hp.1, fun a => ih a (hp.2 a)⟩

/-- To return something else in the end changes nothing about what is written. -/
theorem settles_map {pre : α → Prop} {g : α → β} (hp : p.Settles pre)
    (hg : ∀ a, pre a → post (g a)) : (p >>= fun a => pure (g a)).Settles post := by
  show (p.bind fun a => done (g a)).Settles post
  induction p with
  | done a => exact hg a hp
  | fail | overflow => trivial
  | clock k ih => exact fun t => ih t (hp t)
  | call r k ih =>
    rcases hp with ⟨hr, hk⟩ | ⟨hok, herror⟩
    · exact Or.inl ⟨hr, fun a => ih a (hk a)⟩
    · refine Or.inr ⟨fun x => ?_, fun e => ?_⟩
      · obtain ⟨a, ha, hpre⟩ := hok x
        exact ⟨g a, congrArg (Program.bind · _) ha, hg a hpre⟩
      · obtain ⟨e', he⟩ := herror e
        exact ⟨e', congrArg (Program.bind · _) he⟩

theorem settles_ask {r : Request} {g : r.Reply → β} (h : ∀ x, post (g x)) :
    (do return g (← ask r)).Settles post :=
  Or.inr ⟨fun x => ⟨g x, rfl, h x⟩, fun e => ⟨e, rfl⟩⟩

/-- A program that settles leaves the store as it was, or it succeeds. -/
theorem ends_of_settles {shown : Instant → Prop} {p : Program α} {post : α → Prop} {s s' : Store}
    {o : Outcome α} (h : p.Settles post) (he : p.Ends shown s o s') :
    s' = s ∨ ∃ a, o = .ok a ∧ post a := by
  induction he with
  | done => exact Or.inl rfl
  | fail => exact Or.inl rfl
  | overflow => exact Or.inl rfl
  | clock _ _ ih => exact ih (h _)
  | @call r k t s o s' _ next ih =>
    rcases h with ⟨hr, hk⟩ | ⟨hok, herror⟩
    · rw [Store.apply_of_reads hr] at ih
      exact ih (hk _)
    · -- the last request: it is carried out and the program succeeds, or nothing was written
      cases ha : (Store.apply t r s).1 with
      | ok x =>
        obtain ⟨a, hx, hpost⟩ := hok x
        rw [ha, hx] at next
        cases next
        exact Or.inr ⟨a, rfl, hpost⟩
      | error e =>
        obtain ⟨e', he⟩ := herror e
        rw [ha, he, Store.apply_of_error ha] at next
        cases next
        exact Or.inl rfl

end Program

end Latchkey
