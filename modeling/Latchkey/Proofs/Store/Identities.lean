/-
Identities: how an account proves who it is, and under which name. Live accounts never share one,
and no two accounts ever share an id, whatever has happened to the store. So a look-up has one
answer at most and that is a live account, although it stops at the first that it meets.
-/
import Latchkey.Proofs.Store.Accounts

namespace Latchkey

/-- The method of an account and its name under that method. -/
def Account.identity (a : Account) : String × String := (a.authMethod, a.authId)

namespace Store

/-- No two live accounts share an identity. -/
def DistinctIdentities (s : Store) : Prop := ((s.accounts.filter (·.live)).map (·.identity)).Nodup

/-! ## What an event does to identities -/

theorem identity_ne_of_conflicts {s : Store} {a : Account} (h : s.conflicts a = false) :
    ∀ b ∈ s.accounts, b.live = true → b.identity ≠ a.identity := by
  intro b hb hl he
  obtain ⟨hm, hn⟩ := Prod.mk.inj he
  have := List.any_eq_false.1 h b hb
  simp [hl, hm, hn] at this

/-- The mark leaves no account live that was not. -/
theorem live_markFirst_sublist (p : Account → Bool) (now : Instant) :
    ∀ l : List Account, ((markFirst p now l).filter (·.live)).Sublist (l.filter (·.live))
  | [] => List.Sublist.refl _
  | a :: rest => by
    unfold markFirst
    split
    · rw [List.filter_cons_of_neg (by exact Bool.false_ne_true)]
      exact (List.sublist_cons_self a rest).filter _
    · rw [← List.singleton_append, ← List.singleton_append (l := rest), List.filter_append,
        List.filter_append]
      exact (List.Sublist.refl _).append (live_markFirst_sublist p now rest)

theorem distinctIdentities_after {s : Store} (h : s.DistinctIdentities) (now : Instant)
    (e : Event) : (s.after now e).DistinctIdentities := by
  unfold DistinctIdentities
  rcases accounts_after s now e with ha | ⟨a, -, hfree, ha⟩ | ⟨id, -, -, ha⟩
  · rw [ha]; exact h
  · rw [ha, List.filter_append, List.map_append, List.nodup_append]
    refine ⟨h, ?_, ?_⟩
    · exact (List.nodup_singleton _).sublist (List.filter_sublist.map _)
    · -- a live account with the identity would have been a conflict
      intro x hx y hy
      obtain ⟨b, hb, rfl⟩ := List.mem_map.1 hx
      obtain ⟨c, hc, rfl⟩ := List.mem_map.1 hy
      rw [List.mem_filter] at hb hc
      rw [List.mem_singleton.1 hc.1]
      exact identity_ne_of_conflicts hfree b hb.1 hb.2
  · rw [ha]
    exact h.sublist ((live_markFirst_sublist _ now s.accounts).map _)

theorem distinctIdentities_replay {s : Store} (h : s.DistinctIdentities)
    (events : List (Instant × Event)) : (s.replay events).DistinctIdentities := by
  induction events generalizing s with
  | nil => exact h
  | cons e rest ih => exact ih (distinctIdentities_after h e.1 e.2)

/-! ## Look-ups -/

/-- Where a key tells the accounts among those that `q` selects, one that `p` selects by its key is
the only one. -/
theorem filter_eq_toList_find? {κ : Type} {l : List Account} {q p : Account → Bool}
    (key : Account → κ) (h : ((l.filter q).map key).Nodup) (k : κ)
    (hp : ∀ a, p a = true → q a = true ∧ key a = k) : l.filter p = (l.find? p).toList := by
  have hone : (l.filter p).length ≤ 1 := by
    have hnodup : ((l.filter p).map key).Nodup :=
      h.sublist ((List.monotone_filter_right l fun a ha => (hp a ha).1).map key)
    have hsame : (l.filter p).map key = List.replicate (l.filter p).length k := by
      refine List.eq_replicate_iff.2 ⟨List.length_map _, fun x hx => ?_⟩
      obtain ⟨a, ha, rfl⟩ := List.mem_map.1 hx
      exact (hp a (List.mem_filter.1 ha).2).2
    rw [hsame] at hnodup
    exact List.nodup_replicate.1 hnodup
  rw [← List.head?_filter]
  generalize l.filter p = found at hone
  rcases found with _ | ⟨a, _ | ⟨b, rest⟩⟩
  · rfl
  · rfl
  · exact absurd hone (by simp)

/-- The account that is found under an identity is the only live one with it. -/
theorem filter_accountWith {s : Store} (h : s.DistinctIdentities) (method : AuthMethod)
    (authId : String) :
    s.accounts.filter (fun a => a.live && a.authMethod == method.label && a.authId == authId) =
      (s.accountWith method authId).toList := by
  refine filter_eq_toList_find? (·.identity) h (method.label, authId) fun a ha => ?_
  simp only [Bool.and_eq_true, beq_iff_eq] at ha
  obtain ⟨⟨hl, hm⟩, hn⟩ := ha
  exact ⟨hl, by rw [Account.identity, hm, hn]⟩

/-- The account that is found under an id is the only live one with it. -/
theorem filter_accountById {s : Store} (h : s.DistinctIds) (id : String) :
    s.accounts.filter (fun a => a.id == id && a.live) = (s.accountById id).toList := by
  refine filter_eq_toList_find? (q := fun _ => true) (·.id) ?_ id fun a ha => ?_
  · rw [List.filter_true]
    exact h
  · simp only [Bool.and_eq_true, beq_iff_eq] at ha
    exact ⟨rfl, ha.1⟩

theorem identity_of_accountWith {s : Store} {method : AuthMethod} {authId : String} {a : Account}
    (h : s.accountWith method authId = some a) : a.identity = (method.label, authId) := by
  have hp := List.find?_some h
  simp only [Bool.and_eq_true, beq_iff_eq] at hp
  obtain ⟨⟨-, hm⟩, hn⟩ := hp
  rw [Account.identity, hm, hn]

/-- A live account is found under its identity. -/
theorem accountWith_of_mem {s : Store} (h : s.DistinctIdentities) {a : Account}
    (ha : a ∈ s.accounts) (hl : a.live = true) {method : AuthMethod} {authId : String}
    (hid : a.identity = (method.label, authId)) : s.accountWith method authId = some a := by
  obtain ⟨hm, hn⟩ := Prod.mk.inj hid
  have hmem : a ∈ s.accounts.filter
      fun a => a.live && a.authMethod == method.label && a.authId == authId :=
    List.mem_filter.2 ⟨ha, by simp [hl, hm, hn]⟩
  rw [filter_accountWith h, Option.mem_toList] at hmem
  exact hmem

/-- Whoever has an identity is in conflict with all that would share it. -/
theorem conflicts_of_accountWith {s : Store} {method : AuthMethod} {authId : String} {a b : Account}
    (h : s.accountWith method authId = some a) (hb : b.identity = (method.label, authId)) :
    s.conflicts b = true := by
  obtain ⟨hmem, hl⟩ := accountWith_some h
  obtain ⟨hm, hn⟩ := Prod.mk.inj ((identity_of_accountWith h).trans hb.symm)
  exact List.any_eq_true.2 ⟨a, hmem, by simp [hl, hm, hn]⟩

/-- With an id that is new, nothing but an account of the same identity is a conflict. -/
theorem accountWith_of_conflicts {s : Store} {method : AuthMethod} {authId : String} {b : Account}
    (h : s.conflicts b = true) (hb : b.identity = (method.label, authId))
    (hfresh : ∀ a ∈ s.accounts, a.id ≠ b.id) : s.accountWith method authId ≠ none := by
  obtain ⟨hm, hn⟩ := Prod.mk.inj hb
  obtain ⟨a, ha, hconflict⟩ := List.any_eq_true.1 h
  simp only [Bool.or_eq_true, Bool.and_eq_true, beq_iff_eq] at hconflict
  rcases hconflict with hid | ⟨⟨hl, hm'⟩, hn'⟩
  · exact absurd hid (hfresh a ha)
  · intro hnone
    refine List.find?_eq_none.1 hnone a ha ?_
    simp only [Bool.and_eq_true, beq_iff_eq]
    exact ⟨⟨hl, hm'.trans hm⟩, hn'.trans hn⟩

theorem accountWith_of_accounts {s s' : Store} (h : s'.accounts = s.accounts) (method : AuthMethod)
    (authId : String) : s'.accountWith method authId = s.accountWith method authId := by
  unfold accountWith
  rw [h]

/-- A new live account is found under its identity if nobody had it. -/
theorem accountWith_append {s s' : Store} {method : AuthMethod} {authId : String} {a : Account}
    (hnone : s.accountWith method authId = none) (h : s'.accounts = s.accounts ++ [a])
    (hl : a.live = true) (hid : a.identity = (method.label, authId)) :
    s'.accountWith method authId = some a := by
  obtain ⟨hm, hn⟩ := Prod.mk.inj hid
  unfold accountWith at hnone ⊢
  rw [h, List.find?_append, hnone, Option.none_or]
  exact List.find?_cons_of_pos (by simp [hl, hm, hn])

/-- Whoever has an identity keeps it until the account is deleted. -/
theorem accountWith_after {s : Store} (h : s.DistinctIdentities) {method : AuthMethod}
    {authId : String} {a : Account} (ha : s.accountWith method authId = some a) (now : Instant)
    {e : Event} (he : e ≠ .softDelete a.id) :
    (s.after now e).accountWith method authId = some a := by
  obtain ⟨hmem, hl⟩ := accountWith_some ha
  exact accountWith_of_mem (distinctIdentities_after h now e) (mem_accounts_after hmem now he) hl
    (identity_of_accountWith ha)

/-! ## Insertions and deletions -/

/-- An insertion says that it wrote exactly if the account has been added, and that it did not
exactly if nothing has changed. -/
theorem insertAccount_iff (s : Store) (a : Account) :
    ((s.insertAccount a).1 = true ↔
      (s.insertAccount a).2 = { s with accounts := s.accounts ++ [a] }) ∧
    ((s.insertAccount a).1 = false ↔ (s.insertAccount a).2 = s) := by
  have hne : s ≠ { s with accounts := s.accounts ++ [a] } := fun h => by
    have hlen := congrArg (fun s => s.accounts.length) h
    simp at hlen
  rcases insertAccount_cases s a with ⟨h, -⟩ | ⟨h, -⟩ <;> rw [h]
  · exact ⟨⟨fun _ => rfl, fun _ => rfl⟩, ⟨fun h => (by cases h), fun h => absurd h.symm hne⟩⟩
  · exact ⟨⟨fun h => (by cases h), fun h => absurd h hne⟩, ⟨fun _ => rfl, fun _ => rfl⟩⟩

/-- The mark stands at one account, the first that is selected. -/
theorem markFirst_split {p : Account → Bool} (now : Instant) {l : List Account}
    (h : ∃ a ∈ l, p a = true) : ∃ before a behind, l = before ++ a :: behind ∧ p a = true ∧
      markFirst p now l = before ++ { a with deletedAt := some now } :: behind := by
  induction l with
  | nil =>
    obtain ⟨a, ha, -⟩ := h
    cases ha
  | cons b rest ih =>
    unfold markFirst
    by_cases hb : p b = true
    · rw [if_pos hb]
      exact ⟨[], b, rest, rfl, hb, rfl⟩
    · rw [if_neg hb]
      obtain ⟨a, ha, hp⟩ := h
      rcases List.mem_cons.1 ha with rfl | ha
      · exact absurd hp hb
      · obtain ⟨before, c, behind, hl, hc, hmark⟩ := ih ⟨a, ha, hp⟩
        exact ⟨b :: before, c, behind, by rw [hl]; rfl, hc, by rw [hmark]; rfl⟩

/-- A deletion marks one live account with the id, or there is none and nothing changes. -/
theorem softDelete_split (s : Store) (id : String) (now : Instant) :
    (∃ before a behind, s.accounts = before ++ a :: behind ∧ a.id = id ∧ a.live = true ∧
      s.softDelete id now = (true,
        { s with accounts := before ++ { a with deletedAt := some now } :: behind })) ∨
    (s.accountById id = none ∧ s.softDelete id now = (false, s)) := by
  rcases softDelete_cases s id now with ⟨h, hl⟩ | ⟨h, hnone⟩
  · obtain ⟨a, ha, hid, hlive⟩ := accountById_isSome_iff.1 hl
    obtain ⟨before, b, behind, hsplit, hb, hmark⟩ :=
      markFirst_split (p := fun a => a.id == id && a.live) now ⟨a, ha, by simp [hid, hlive]⟩
    simp only [Bool.and_eq_true, beq_iff_eq] at hb
    exact Or.inl ⟨before, b, behind, hsplit, hb.1, hb.2, by rw [h, hmark]⟩
  · exact Or.inr ⟨hnone, h⟩

/-! ## Accounts are told apart -/

/-- Ids and identities are not shared. A look-up answers with the one live account that it is about,
under a username never with an anonymous one and under a device key never with one that has a
password; a deletion marks the one live account with the id, and an insertion says what it did. -/
structure TellsApart (s : Store) : Prop where
  ids : s.DistinctIds
  identities : s.DistinctIdentities
  byId : ∀ now id, ∃ found, apply now (.accountById id) s = (.ok found, s) ∧
    s.accounts.filter (fun a => a.id == id && a.live) = found.toList
  byDeviceKey : ∀ now deviceKey, ∃ found,
    apply now (.accountByDeviceKey deviceKey) s = (.ok found, s) ∧
    s.accounts.filter (fun a =>
      a.live && a.authMethod == AuthMethod.anonymous.label && a.authId == deviceKey) =
        found.toList ∧
    ∀ a, found = some a → a.authMethod ≠ AuthMethod.password.label
  byUsername : ∀ now username, ∃ found,
    apply now (.accountByUsername username) s = (.ok found, s) ∧
    s.accounts.filter (fun a =>
      a.live && a.authMethod == AuthMethod.password.label && a.authId == username) =
        found.toList ∧
    ∀ a, found = some a → a.authMethod ≠ AuthMethod.anonymous.label
  deletes : ∀ now id,
    (∃ before a behind, s.accounts = before ++ a :: behind ∧ a.id = id ∧ a.live = true ∧
      s.softDelete id now = (true,
        { s with accounts := before ++ { a with deletedAt := some now } :: behind })) ∨
    (s.accountById id = none ∧ s.softDelete id now = (false, s))
  inserts : ∀ now a,
    ((apply now (.insertAccount a) s).1 = .ok true ↔
      (apply now (.insertAccount a) s).2 = { s with accounts := s.accounts ++ [a] }) ∧
    ((apply now (.insertAccount a) s).1 = .ok false ↔ (apply now (.insertAccount a) s).2 = s)

theorem tellsApart {s : Store} (hids : s.DistinctIds) (h : s.DistinctIdentities) :
    s.TellsApart where
  ids := hids
  identities := h
  byId now id := ⟨s.accountById id, rfl, filter_accountById hids id⟩
  byDeviceKey now deviceKey :=
    ⟨s.accountWith .anonymous deviceKey, rfl, filter_accountWith h _ _, fun a ha => by
      rw [(Prod.mk.inj (identity_of_accountWith ha)).1]
      decide⟩
  byUsername now username :=
    ⟨s.accountWith .password username, rfl, filter_accountWith h _ _, fun a ha => by
      rw [(Prod.mk.inj (identity_of_accountWith ha)).1]
      decide⟩
  deletes now id := softDelete_split s id now
  inserts now a := by
    have hreply : (apply now (.insertAccount a) s).1 = .ok (s.insertAccount a).1 := rfl
    obtain ⟨hwritten, hrefused⟩ := insertAccount_iff s a
    rw [hreply]
    exact ⟨Iff.trans ⟨fun h => Except.ok.inj h, congrArg Except.ok⟩ hwritten,
      Iff.trans ⟨fun h => Except.ok.inj h, congrArg Except.ok⟩ hrefused⟩

end Store

end Latchkey
