/-
What can happen to the accounts of a store: one is added, whose id is new, or one is marked as
deleted. So ids are never shared, a live account stays as it is until it is deleted, and an account
that is gone does not come back.
-/
import Latchkey.Proofs.Store.Rows
import Mathlib.Data.List.Nodup

namespace Latchkey.Store

/-! ## Looking accounts up -/

theorem accountById_some {s : Store} {id : String} {a : Account} (h : s.accountById id = some a) :
    a ∈ s.accounts ∧ a.id = id ∧ a.live = true := by
  have hp := List.find?_some h
  simp only [Bool.and_eq_true, beq_iff_eq] at hp
  exact ⟨List.mem_of_find?_eq_some h, hp.1, hp.2⟩

theorem accountWith_some {s : Store} {method : AuthMethod} {authId : String} {a : Account}
    (h : s.accountWith method authId = some a) : a ∈ s.accounts ∧ a.live = true := by
  have hp := List.find?_some h
  simp only [Bool.and_eq_true, beq_iff_eq] at hp
  exact ⟨List.mem_of_find?_eq_some h, hp.1.1⟩

theorem accountById_isSome_iff {s : Store} {id : String} :
    (s.accountById id).isSome ↔ ∃ a ∈ s.accounts, a.id = id ∧ a.live = true := by
  simp [accountById, List.find?_isSome]

theorem accountById_eq_none_iff {s : Store} {id : String} :
    s.accountById id = none ↔ ∀ a ∈ s.accounts, a.id = id → a.live = false := by
  simp [accountById, List.find?_eq_none]

/-! ## Marking one account -/

theorem map_id_markFirst (p : Account → Bool) (now : Instant) :
    ∀ l : List Account, (markFirst p now l).map (·.id) = l.map (·.id)
  | [] => rfl
  | a :: rest => by
    unfold markFirst
    split
    · rfl
    · rw [List.map_cons, List.map_cons, map_id_markFirst p now rest]

/-- An account that is not selected stays. -/
theorem mem_markFirst {p : Account → Bool} {now : Instant} {a : Account} (hp : p a = false) :
    ∀ {l : List Account}, a ∈ l → a ∈ markFirst p now l
  | b :: rest, h => by
    unfold markFirst
    rcases List.mem_cons.1 h with rfl | h
    · rw [hp]; exact List.mem_cons_self
    · split
      · exact List.mem_cons_of_mem _ h
      · exact List.mem_cons_of_mem _ (mem_markFirst hp h)

/-- A live account behind the mark was there before. -/
theorem live_of_mem_markFirst {p : Account → Bool} {now : Instant} {a : Account}
    (hl : a.live = true) : ∀ {l : List Account}, a ∈ markFirst p now l → a ∈ l
  | b :: rest, h => by
    unfold markFirst at h
    split at h
    · rcases List.mem_cons.1 h with rfl | h
      · cases hl
      · exact List.mem_cons_of_mem _ h
    · rcases List.mem_cons.1 h with rfl | h
      · exact List.mem_cons_self
      · exact List.mem_cons_of_mem _ (live_of_mem_markFirst hl h)

/-- Where ids are not shared, the mark leaves no live account with the id. -/
theorem not_live_of_markFirst {id : String} {now : Instant} :
    ∀ {l : List Account}, (l.map (·.id)).Nodup →
      ∀ a ∈ markFirst (fun a => a.id == id && a.live) now l, a.id = id → a.live = false
  | [], _, _, h, _ => by cases h
  | b :: rest, hnd, a, h, ha => by
    rw [List.map_cons, List.nodup_cons] at hnd
    unfold markFirst at h
    split at h
    · rename_i hb
      simp only [Bool.and_eq_true, beq_iff_eq] at hb
      rcases List.mem_cons.1 h with rfl | h
      · rfl
      · exact absurd (List.mem_map.2 ⟨a, h, ha.trans hb.1.symm⟩) hnd.1
    · rename_i hb
      simp only [Bool.and_eq_true, beq_iff_eq, not_and, Bool.not_eq_true] at hb
      rcases List.mem_cons.1 h with rfl | h
      · exact hb ha
      · exact not_live_of_markFirst hnd.2 a h ha

/-! ## What an event does to the accounts -/

theorem id_ne_of_conflicts {s : Store} {a : Account} (h : s.conflicts a = false) :
    ∀ b ∈ s.accounts, b.id ≠ a.id := by
  intro b hb he
  have := List.any_eq_false.1 h b hb
  simp [he] at this

/-- An insertion adds an account that conflicts with none, or does nothing. -/
theorem insertAccount_cases (s : Store) (a : Account) :
    (s.insertAccount a = (true, { s with accounts := s.accounts ++ [a] }) ∧
      s.conflicts a = false) ∨
    (s.insertAccount a = (false, s) ∧ s.conflicts a = true) := by
  unfold insertAccount
  cases h : s.conflicts a with
  | true => exact Or.inr ⟨rfl, rfl⟩
  | false => exact Or.inl ⟨rfl, rfl⟩

/-- A deletion marks a live account with the id, or there is none and it does nothing. -/
theorem softDelete_cases (s : Store) (id : String) (now : Instant) :
    (s.softDelete id now = (true, { s with
        accounts := markFirst (fun a => a.id == id && a.live) now s.accounts }) ∧
      (s.accountById id).isSome) ∨
    (s.softDelete id now = (false, s) ∧ s.accountById id = none) := by
  unfold softDelete
  cases h : s.accounts.any (fun a => a.id == id && a.live) with
  | true =>
    refine Or.inl ⟨rfl, accountById_isSome_iff.2 ?_⟩
    simpa using h
  | false =>
    refine Or.inr ⟨rfl, accountById_eq_none_iff.2 ?_⟩
    simpa using h

theorem accounts_rotate (s : Store) (rot : Rotation) (now : Instant) :
    (s.rotate rot now).2.accounts = s.accounts := by
  rcases rotate_cases s rot now with ⟨h, -⟩ | ⟨h, -⟩ <;> rw [h]
  rfl

/-- An event adds an account that conflicts with none, marks one as deleted, or leaves the accounts
alone. -/
theorem accounts_after (s : Store) (now : Instant) (e : Event) :
    (s.after now e).accounts = s.accounts ∨
    (∃ a, e = .request (.insertAccount a) ∧ s.conflicts a = false ∧
      (s.after now e).accounts = s.accounts ++ [a]) ∨
    (∃ id, e = .softDelete id ∧ (s.accountById id).isSome ∧
      (s.after now e).accounts = markFirst (fun a => a.id == id && a.live) now s.accounts) := by
  cases e with
  | softDelete id =>
    show (s.softDelete id now).2.accounts = s.accounts ∨ _
    rcases softDelete_cases s id now with ⟨h, hl⟩ | ⟨h, -⟩
    · refine Or.inr (Or.inr ⟨id, rfl, hl, ?_⟩)
      show (s.softDelete id now).2.accounts = _
      rw [h]
    · exact Or.inl (by rw [h])
  | request r =>
    cases r with
    | accountByDeviceKey | accountByUsername | accountById | validate | invalidate =>
      exact Or.inl rfl
    | rotate rot => exact Or.inl (accounts_rotate s rot now)
    | insertAccount a =>
      show (s.insertAccount a).2.accounts = s.accounts ∨ _
      rcases insertAccount_cases s a with ⟨h, hfree⟩ | ⟨h, -⟩
      · refine Or.inr (Or.inl ⟨a, rfl, hfree, ?_⟩)
        show (s.insertAccount a).2.accounts = _
        rw [h]
      · exact Or.inl (by rw [h])

/-! ## Ids -/

/-- No two accounts share an id. -/
def DistinctIds (s : Store) : Prop := (s.accounts.map (·.id)).Nodup

theorem distinctIds_after {s : Store} (h : s.DistinctIds) (now : Instant) (e : Event) :
    (s.after now e).DistinctIds := by
  unfold DistinctIds
  rcases accounts_after s now e with ha | ⟨a, -, hfree, ha⟩ | ⟨id, -, -, ha⟩
  · rw [ha]; exact h
  · rw [ha, List.map_append, List.nodup_append]
    refine ⟨h, List.nodup_singleton _, ?_⟩
    intro x hx y hy
    obtain ⟨b, hb, rfl⟩ := List.mem_map.1 hx
    rw [List.map_singleton, List.mem_singleton] at hy
    rw [hy]
    exact id_ne_of_conflicts hfree b hb
  · rw [ha, map_id_markFirst]; exact h

/-- An id that is taken stays taken. -/
theorem idTaken_after {s : Store} {id : String} (h : id ∈ s.accounts.map (·.id)) (now : Instant)
    (e : Event) : id ∈ (s.after now e).accounts.map (·.id) := by
  rcases accounts_after s now e with ha | ⟨a, -, -, ha⟩ | ⟨id', -, -, ha⟩
  · rw [ha]; exact h
  · rw [ha, List.map_append]; exact List.mem_append_left _ h
  · rw [ha, map_id_markFirst]; exact h

theorem distinctIds_replay {s : Store} (h : s.DistinctIds) (events : List (Instant × Event)) :
    (s.replay events).DistinctIds := by
  induction events generalizing s with
  | nil => exact h
  | cons e rest ih => exact ih (distinctIds_after h e.1 e.2)

theorem idTaken_replay {s : Store} {id : String} (h : id ∈ s.accounts.map (·.id))
    (events : List (Instant × Event)) : id ∈ (s.replay events).accounts.map (·.id) := by
  induction events generalizing s with
  | nil => exact h
  | cons e rest ih => exact ih (idTaken_after h e.1 e.2)

/-- Where ids are not shared, an id tells the account. -/
theorem DistinctIds.eq {s : Store} (h : s.DistinctIds) {a b : Account} (ha : a ∈ s.accounts)
    (hb : b ∈ s.accounts) (hid : b.id = a.id) : b = a := List.inj_on_of_nodup_map h hb ha hid

/-- An account is found under its id exactly if it is live. -/
theorem accountById_of_mem {s : Store} (h : s.DistinctIds) {a : Account} (ha : a ∈ s.accounts) :
    s.accountById a.id = if a.live then some a else none := by
  split
  · rename_i hlive
    obtain ⟨b, hb⟩ := Option.isSome_iff_exists.1 (accountById_isSome_iff.2 ⟨a, ha, rfl, hlive⟩)
    obtain ⟨hmem, hid, -⟩ := accountById_some hb
    rw [hb, h.eq ha hmem hid]
  · rename_i hlive
    refine accountById_eq_none_iff.2 fun b hb hid => ?_
    rw [h.eq ha hb hid]
    exact Bool.not_eq_true _ ▸ hlive

/-! ## Live accounts and accounts that are gone -/

/-- A live account stays as it is until it is deleted. -/
theorem mem_accounts_after {s : Store} {a : Account} (h : a ∈ s.accounts) (now : Instant)
    {e : Event} (he : e ≠ .softDelete a.id) : a ∈ (s.after now e).accounts := by
  rcases accounts_after s now e with ha | ⟨b, -, -, ha⟩ | ⟨id, rfl, -, ha⟩
  · rw [ha]; exact h
  · rw [ha]; exact List.mem_append_left _ h
  · rw [ha]
    refine mem_markFirst ?_ h
    have hne : a.id ≠ id := fun h' => he (by rw [h'])
    simp [hne]

theorem accountById_isSome_after {s : Store} {id : String} (h : (s.accountById id).isSome)
    (now : Instant) {e : Event} (he : e ≠ .softDelete id) :
    ((s.after now e).accountById id).isSome := by
  obtain ⟨a, ha, rfl, hl⟩ := accountById_isSome_iff.1 h
  exact accountById_isSome_iff.2 ⟨a, mem_accounts_after ha now he, rfl, hl⟩

/-- An account that was made and of which nothing is live any more. -/
def Gone (s : Store) (id : String) : Prop :=
  id ∈ s.accounts.map (·.id) ∧ s.accountById id = none

/-- An account that is gone does not come back: its id stays taken. -/
theorem gone_after {s : Store} {id : String} (h : s.Gone id) (now : Instant) (e : Event) :
    (s.after now e).Gone id := by
  refine ⟨idTaken_after h.1 now e, accountById_eq_none_iff.2 ?_⟩
  have hdead := accountById_eq_none_iff.1 h.2
  rcases accounts_after s now e with ha | ⟨a, -, hfree, ha⟩ | ⟨id', -, -, ha⟩
  · rw [ha]; exact hdead
  · rw [ha]
    intro b hb hbid
    rcases List.mem_append.1 hb with hb | hb
    · exact hdead b hb hbid
    · -- an account with the id would have been refused
      rw [List.mem_singleton] at hb
      subst hb
      obtain ⟨c, hc, hcid⟩ := List.mem_map.1 h.1
      exact absurd (hcid.trans hbid.symm) (id_ne_of_conflicts hfree c hc)
  · rw [ha]
    intro b hb hbid
    cases hl : b.live with
    | false => rfl
    | true => rw [← hdead b (live_of_mem_markFirst hl hb) hbid, hl]

theorem gone_replay {s : Store} {id : String} (h : s.Gone id) (events : List (Instant × Event)) :
    (s.replay events).Gone id := by
  induction events generalizing s with
  | nil => exact h
  | cons e rest ih => exact ih (gone_after h e.1 e.2)

theorem softDelete_of_isSome {s : Store} {id : String} (h : (s.accountById id).isSome)
    (now : Instant) : (s.softDelete id now).1 = true := by
  rcases softDelete_cases s id now with ⟨hd, -⟩ | ⟨-, hnone⟩
  · rw [hd]
  · rw [hnone] at h
    cases h

/-- A deletion that finds its account leaves it gone. -/
theorem gone_softDelete {s : Store} (hs : s.DistinctIds) {id : String} {now : Instant}
    (h : (s.softDelete id now).1 = true) : (s.softDelete id now).2.Gone id := by
  rcases softDelete_cases s id now with ⟨hd, hl⟩ | ⟨hd, -⟩
  · obtain ⟨a, ha, hid, -⟩ := accountById_isSome_iff.1 hl
    rw [hd]
    refine ⟨?_, accountById_eq_none_iff.2 (not_live_of_markFirst hs)⟩
    show id ∈ (markFirst _ _ _).map _
    rw [map_id_markFirst]
    exact List.mem_map.2 ⟨a, ha, hid⟩
  · rw [hd] at h; cases h

end Latchkey.Store
