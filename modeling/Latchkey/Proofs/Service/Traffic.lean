/-
Calls in flight over one store. They take turns in any order: at a step one of them reads the clock
or makes one store call, a new call begins, or somebody else changes the store. Calls do not get
lost (`call_stays`), and the store only sees one event after the other (`store_run`).
-/
import Latchkey.Proofs.Service.Operation
import Latchkey.Proofs.Store.Accounts

namespace Latchkey

/-- A call: its operation and what is left of its program. -/
structure Call where
  operation : Operation
  rest : Program Operation.Result

namespace Call

/-- The call when it begins. -/
def start (s : Service) (op : Operation) : Call := ⟨op, s.perform op⟩

/-- The call after its next step. -/
def advance (now : Instant) (store : Store) (c : Call) : Call :=
  { c with rest := (c.rest.advance now store).1 }

end Call

structure Traffic where
  store : Store
  calls : List Call

namespace Traffic

/-- What happens next. -/
inductive Event
  | start (op : Operation)
  | advance (i : Nat)
  | other (e : Store.Event)
deriving DecidableEq, Repr

/-- Nothing has happened yet. -/
def idle : Traffic := ⟨.empty, []⟩

/-- The traffic after an event; there is nothing to advance where no call is. -/
def after (s : Service) (w : Traffic) (now : Instant) : Event → Traffic
  | .start op => { w with calls := w.calls ++ [.start s op] }
  | .advance i =>
    match w.calls[i]? with
    | some c => ⟨(c.rest.advance now w.store).2, w.calls.set i (c.advance now w.store)⟩
    | none => w
  | .other e => { w with store := w.store.after now e }

/-- The traffic after events, each at its instant. -/
def run (s : Service) (w : Traffic) (events : List (Instant × Event)) : Traffic :=
  events.foldl (fun w e => w.after s e.1 e.2) w

variable {s : Service} {w : Traffic}

theorem run_nil (s : Service) (w : Traffic) : w.run s [] = w := rfl

theorem run_append (events later : List (Instant × Event)) :
    w.run s (events ++ later) = (w.run s events).run s later := List.foldl_append

theorem after_advance {now : Instant} {i : Nat} {c : Call} (h : w.calls[i]? = some c) :
    w.after s now (.advance i) =
      ⟨(c.rest.advance now w.store).2, w.calls.set i (c.advance now w.store)⟩ := by
  unfold after
  simp only [h]

theorem after_advance_none {now : Instant} {i : Nat} (h : w.calls[i]? = none) :
    w.after s now (.advance i) = w := by
  unfold after
  simp only [h]

/-- A turn of a call that has ended changes nothing. -/
theorem after_advance_ended {now : Instant} {i : Nat}
    (h : ∀ c, w.calls[i]? = some c → c.rest.outcome? ≠ none) : w.after s now (.advance i) = w := by
  cases hi : w.calls[i]? with
  | none => exact after_advance_none hi
  | some c =>
    obtain ⟨o, ho⟩ := Option.ne_none_iff_exists'.1 (h c hi)
    obtain ⟨hlt, hget⟩ := List.getElem?_eq_some_iff.1 hi
    rw [after_advance hi, Call.advance, Program.advance_of_outcome? ho]
    show (⟨w.store, w.calls.set i c⟩ : Traffic) = w
    rw [← hget, List.set_getElem_self]

/-! ## The calls -/

theorem getElem?_set_cases {calls : List Call} {i j : Nat} {c c' : Call}
    (h : (calls.set i c)[j]? = some c') : (j = i ∧ c' = c) ∨ (j ≠ i ∧ calls[j]? = some c') := by
  by_cases hij : j = i
  · subst hij
    obtain ⟨hlt, -⟩ := List.getElem?_eq_some_iff.1 h
    rw [List.getElem?_set_self (by simpa using hlt)] at h
    cases h
    exact Or.inl ⟨rfl, rfl⟩
  · rw [List.getElem?_set_ne (fun h => hij h.symm)] at h
    exact Or.inr ⟨hij, h⟩

/-- A call is as it was, or it was its turn, or it has just begun. -/
theorem call_after {now : Instant} {e : Event} {j : Nat} {c' : Call}
    (h : (w.after s now e).calls[j]? = some c') :
    (w.calls[j]? = some c' ∧ e ≠ .advance j) ∨
    (e = .advance j ∧ ∃ c, w.calls[j]? = some c ∧ c' = c.advance now w.store) ∨
    (∃ op, e = .start op ∧ j = w.calls.length ∧ c' = .start s op) := by
  cases e with
  | other e => exact Or.inl ⟨h, fun h => by cases h⟩
  | start op =>
    change (w.calls ++ [Call.start s op])[j]? = some c' at h
    rcases Nat.lt_or_ge j w.calls.length with hj | hj
    · rw [List.getElem?_append_left hj] at h
      exact Or.inl ⟨h, fun h => by cases h⟩
    · rw [List.getElem?_append_right hj, List.getElem?_singleton] at h
      split at h
      · cases h; exact Or.inr (Or.inr ⟨op, rfl, by omega, rfl⟩)
      · cases h
  | advance i =>
    cases hi : w.calls[i]? with
    | none =>
      rw [after_advance_none hi] at h
      refine Or.inl ⟨h, fun he => ?_⟩
      cases he
      rw [hi] at h; cases h
    | some c =>
      rw [after_advance hi] at h
      rcases getElem?_set_cases h with ⟨rfl, rfl⟩ | ⟨hne, hj⟩
      · exact Or.inr (Or.inl ⟨rfl, c, hi, rfl⟩)
      · exact Or.inl ⟨hj, fun he => hne (by cases he; rfl)⟩

/-- Calls do not get lost. -/
theorem call_stays (now : Instant) (e : Event) {j : Nat} {c : Call} (h : w.calls[j]? = some c) :
    (e ≠ .advance j ∧ (w.after s now e).calls[j]? = some c) ∨
    (e = .advance j ∧ (w.after s now e).calls[j]? = some (c.advance now w.store)) := by
  obtain ⟨hlt, -⟩ := List.getElem?_eq_some_iff.1 h
  cases e with
  | other e => exact Or.inl ⟨fun he => (by cases he), h⟩
  | start op =>
    refine Or.inl ⟨fun he => (by cases he), ?_⟩
    show (w.calls ++ [Call.start s op])[j]? = some c
    rw [List.getElem?_append_left hlt, h]
  | advance i =>
    by_cases hij : i = j
    · subst hij
      refine Or.inr ⟨rfl, ?_⟩
      rw [after_advance h]
      exact List.getElem?_set_self hlt
    · refine Or.inl ⟨fun he => hij (by cases he; rfl), ?_⟩
      cases hi : w.calls[i]? with
      | none => rw [after_advance_none hi]; exact h
      | some d => rw [after_advance hi, List.getElem?_set_ne hij, h]

/-- What holds of every call when it begins, and is kept by its turns, holds of all calls. -/
theorem calls_run {P : Call → Prop} (hstart : ∀ op, P (.start s op))
    (hadvance : ∀ c now store, P c → P (c.advance now store))
    (h : ∀ (j : Nat) (c : Call), w.calls[j]? = some c → P c) (events : List (Instant × Event))
    (j : Nat) (c : Call) (hc : (w.run s events).calls[j]? = some c) : P c := by
  induction events generalizing w with
  | nil => exact h j c hc
  | cons e rest ih =>
    refine ih (fun k d hd => ?_) hc
    rcases call_after hd with ⟨hd, -⟩ | ⟨-, d', hd', rfl⟩ | ⟨op, -, -, rfl⟩
    · exact h k d hd
    · exact hadvance d' _ _ (h k d' hd')
    · exact hstart op

/-- The operations of the calls, in the order in which they began. -/
def operations (w : Traffic) : List Operation := w.calls.map (·.operation)

theorem operations_after (w : Traffic) (now : Instant) (e : Event) :
    w.operations <+: (w.after s now e).operations := by
  cases e with
  | other e => exact List.prefix_refl _
  | start op =>
    show w.operations <+: (w.calls ++ [Call.start s op]).map (·.operation)
    rw [List.map_append]
    exact List.prefix_append _ _
  | advance i =>
    cases hi : w.calls[i]? with
    | none => exact ⟨[], by rw [after_advance_none hi, List.append_nil]⟩
    | some c =>
      obtain ⟨hlt, -⟩ := List.getElem?_eq_some_iff.1 hi
      rw [after_advance hi]
      have hsame : (w.calls.set i (c.advance now w.store)).map (·.operation) = w.operations := by
        refine List.ext_getElem? fun j => ?_
        rw [operations, List.getElem?_map, List.getElem?_map]
        by_cases hij : i = j
        · subst hij
          rw [List.getElem?_set_self hlt, hi]
          rfl
        · rw [List.getElem?_set_ne hij]
      exact ⟨[], by rw [List.append_nil]; exact hsame.symm⟩

/-- A turn of a call that is there begins none. -/
theorem length_calls_advance (w : Traffic) (now : Instant) (i : Nat) :
    (w.after s now (.advance i)).calls.length = w.calls.length := by
  cases hi : w.calls[i]? with
  | none => rw [after_advance_none hi]
  | some c => rw [after_advance hi]; exact List.length_set

theorem operations_advance (w : Traffic) (now : Instant) (i : Nat) :
    (w.after s now (.advance i)).operations = w.operations := by
  refine ((operations_after w now (.advance i)).eq_of_length ?_).symm
  rw [operations, operations, List.length_map, List.length_map, length_calls_advance]

theorem operations_run (w : Traffic) (events : List (Instant × Event)) :
    w.operations <+: (w.run s events).operations := by
  induction events generalizing w with
  | nil => exact List.prefix_refl _
  | cons e rest ih => exact (operations_after w e.1 e.2).trans (ih _)

/-! ## The store -/

/-- A step of a program makes one store call at most. -/
theorem advance_store (now : Instant) (p : Program Operation.Result) (store : Store) :
    (p.advance now store).2 = store ∨
      ∃ r, (p.advance now store).2 = store.after now (.request r) := by
  cases p with
  | done | fail | overflow | clock => exact Or.inl rfl
  | call r k => exact Or.inr ⟨r, rfl⟩

theorem store_after (w : Traffic) (now : Instant) (e : Event) :
    (w.after s now e).store = w.store ∨
      ∃ e', (w.after s now e).store = w.store.after now e' := by
  cases e with
  | start op => exact Or.inl rfl
  | other e => exact Or.inr ⟨e, rfl⟩
  | advance i =>
    cases hi : w.calls[i]? with
    | none => exact Or.inl (by rw [after_advance_none hi])
    | some c =>
      rw [after_advance hi]
      rcases advance_store now c.rest w.store with h | ⟨r, h⟩
      · exact Or.inl h
      · exact Or.inr ⟨_, h⟩

/-- What every event of the store keeps is kept amid calls. -/
theorem of_store_after {P : Store → Prop} (h : P w.store) (now : Instant)
    (hkept : ∀ e', P (w.store.after now e')) (e : Event) : P (w.after s now e).store := by
  rcases store_after (s := s) w now e with hs | ⟨e', hs⟩ <;> rw [hs]
  · exact h
  · exact hkept e'

/-- In whatever order the calls take turns, the store only sees one event after the other. -/
theorem store_run (w : Traffic) (events : List (Instant × Event)) :
    ∃ events', (w.run s events).store = w.store.replay events' := by
  induction events generalizing w with
  | nil => exact ⟨[], rfl⟩
  | cons e rest ih =>
    obtain ⟨later, h⟩ := ih (w.after s e.1 e.2)
    rcases store_after w e.1 e.2 with he | ⟨e', he⟩
    · exact ⟨later, by rw [← he]; exact h⟩
    · refine ⟨(e.1, e') :: later, ?_⟩
      show _ = (w.store.after e.1 e').replay later
      rw [← he]
      exact h

theorem gone_after {userId : String} (h : w.store.Gone userId) (now : Instant) (e : Event) :
    (w.after s now e).store.Gone userId :=
  of_store_after (P := (·.Gone userId)) h now (Store.gone_after h now) e

theorem gone_run {userId : String} (h : w.store.Gone userId) (events : List (Instant × Event)) :
    (w.run s events).store.Gone userId := by
  obtain ⟨events', hstore⟩ := store_run (s := s) w events
  rw [hstore]
  exact Store.gone_replay h events'

end Traffic

end Latchkey
