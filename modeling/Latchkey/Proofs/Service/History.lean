/-
Lives of a service: calls that take place one after the other, each of them at one instant, while
accounts are inserted and deleted between them. A life leaves a history, which says what was done
and what came of it; who is logged in where can be read off it (`Current`).
-/
import Latchkey.Proofs.Service.Operation

namespace Latchkey

open Operation (Result)

/-! ## Lives -/

/-- What can be done next. -/
inductive Deed
  | call (op : Operation)
  | insertAccount (account : Account)
  | softDelete (id : String)
deriving DecidableEq, Repr

/-- The token that is drawn for a deed. -/
def Deed.token? : Deed → Option String
  | call op => op.draws?.map (·.token)
  | insertAccount _ | softDelete _ => none

/-- What was done, and what came of it. -/
inductive Entry
  | call (t : Instant) (op : Operation) (outcome : Outcome Result)
  | insertion (account : Account) (written : Bool)
  | deletion (id : String) (found : Bool)
deriving DecidableEq, Repr

/-- The history, latest entry first, and what it has made of the store. -/
structure Life where
  history : List Entry
  store : Store

namespace Life

/-- Nothing has been done yet. -/
def new : Life := ⟨[], .empty⟩

def after (s : Service) (l : Life) (t : Instant) : Deed → Life
  | .call op =>
    ⟨.call t op ((s.perform op).run t l.store).1 :: l.history, ((s.perform op).run t l.store).2⟩
  | .insertAccount account =>
    ⟨.insertion account (l.store.insertAccount account).1 :: l.history,
      (l.store.insertAccount account).2⟩
  | .softDelete id =>
    ⟨.deletion id (l.store.softDelete id t).1 :: l.history, (l.store.softDelete id t).2⟩

/-- The life after deeds, each at its instant. -/
def run (s : Service) (l : Life) (deeds : List (Instant × Deed)) : Life :=
  deeds.foldl (fun l deed => l.after s deed.1 deed.2) l

/-- The tokens that are drawn for deeds. -/
def drawn (deeds : List (Instant × Deed)) : List String := deeds.filterMap (·.2.token?)

theorem run_concat (s : Service) (l : Life) (deeds : List (Instant × Deed)) (t : Instant)
    (deed : Deed) : l.run s (deeds ++ [(t, deed)]) = (l.run s deeds).after s t deed := by
  unfold run
  rw [List.foldl_append]
  rfl

theorem drawn_concat (deeds : List (Instant × Deed)) (t : Instant) (deed : Deed) :
    drawn (deeds ++ [(t, deed)]) = drawn deeds ++ deed.token?.toList := by
  unfold drawn
  rw [List.filterMap_append]
  cases h : deed.token? <;> simp [h]

end Life

/-! ## Entries -/

namespace Entry

/-- A call at `t` on the device has brought the account the token. -/
def Delivers (issuer : Issuer) (userId deviceKey raw : String) (t : Instant) (e : Entry) : Prop :=
  ∃ op access, e = .call t op (.ok (.tokens ⟨access, some raw⟩)) ∧
    op.deviceKey? = some deviceKey ∧ issuer.Names access userId

/-- Somebody has logged the account out on the device. -/
def LogsOut (userId deviceKey : String) (e : Entry) : Prop :=
  ∃ t outcome, e = .call t (.logout userId deviceKey) outcome

/-- The account has been deleted. -/
def Deletes (userId : String) (e : Entry) : Prop := e = .deletion userId true

theorem not_deletes_call {t : Instant} {op : Operation} {outcome : Outcome Result}
    (userId : String) : ¬ (call t op outcome).Deletes userId := fun h => by cases h

/-- Whom a delivery is for, and what it brings, is in the entry. -/
theorem delivers_call_iff {issuer : Issuer} {t : Instant} {op : Operation} {access raw : String}
    {userId deviceKey : String} (hk : op.deviceKey? = some deviceKey)
    (hn : issuer.Names access userId) {u d raw' : String} {t' : Instant} :
    (call t op (.ok (.tokens ⟨access, some raw⟩))).Delivers issuer u d raw' t' ↔
      u = userId ∧ d = deviceKey ∧ raw' = raw ∧ t' = t := by
  constructor
  · rintro ⟨op', access', he, hk', hn'⟩
    cases he
    rw [hk] at hk'
    cases hk'
    exact ⟨Issuer.names_unique hn' hn, rfl, rfl, rfl⟩
  · rintro ⟨rfl, rfl, rfl, rfl⟩
    exact ⟨op, access, rfl, hk, hn⟩

end Entry

/-! ## Sessions in a history -/

/-- The token was brought to the account on the device at `t`, and since then no other was, nobody
has logged the account out there, and the account has not been deleted. -/
def Current (issuer : Issuer) (history : List Entry) (userId deviceKey raw : String)
    (t : Instant) : Prop :=
  (∃ later e earlier, history = later ++ e :: earlier ∧
    e.Delivers issuer userId deviceKey raw t ∧
    ∀ x ∈ later, (∀ raw' t', ¬ x.Delivers issuer userId deviceKey raw' t') ∧
      ¬ x.LogsOut userId deviceKey) ∧
  ∀ x ∈ history, ¬ x.Deletes userId

theorem not_current_nil {issuer : Issuer} {userId deviceKey raw : String} {t : Instant} :
    ¬ Current issuer [] userId deviceKey raw t := by
  rintro ⟨⟨later, e, earlier, h, -⟩, -⟩
  cases later <;> cases h

/-- The latest entry has brought the token, or it was current before and the entry has not ended
that. -/
theorem current_cons_iff {issuer : Issuer} {e : Entry} {history : List Entry}
    {userId deviceKey raw : String} {t : Instant} :
    Current issuer (e :: history) userId deviceKey raw t ↔ ¬ e.Deletes userId ∧
      ((e.Delivers issuer userId deviceKey raw t ∧ ∀ x ∈ history, ¬ x.Deletes userId) ∨
      (Current issuer history userId deviceKey raw t ∧
        (∀ raw' t', ¬ e.Delivers issuer userId deviceKey raw' t') ∧
        ¬ e.LogsOut userId deviceKey)) := by
  constructor
  · rintro ⟨⟨later, x, earlier, h, hx, hlater⟩, hdel⟩
    have hold : ∀ y ∈ history, ¬ y.Deletes userId :=
      fun y hy => hdel y (List.mem_cons_of_mem e hy)
    refine ⟨hdel e List.mem_cons_self, ?_⟩
    -- without entries behind it, the delivery is the latest one
    cases later with
    | nil =>
      cases h
      exact Or.inl ⟨hx, hold⟩
    | cons first later =>
      cases h
      obtain ⟨hfirst, hlogout⟩ := hlater e List.mem_cons_self
      exact Or.inr ⟨⟨⟨later, x, earlier, rfl, hx,
        fun y hy => hlater y (List.mem_cons_of_mem e hy)⟩, hold⟩, hfirst, hlogout⟩
  · rintro ⟨he, ⟨hx, hold⟩ | ⟨⟨⟨later, x, earlier, rfl, hx, hlater⟩, hold⟩, hdeliver, hlogout⟩⟩
    · refine ⟨⟨[], e, history, rfl, hx, fun y hy => by cases hy⟩, fun y hy => ?_⟩
      rcases List.mem_cons.1 hy with rfl | hy
      · exact he
      · exact hold y hy
    · refine ⟨⟨e :: later, x, earlier, rfl, hx, fun y hy => ?_⟩, fun y hy => ?_⟩
      · rcases List.mem_cons.1 hy with rfl | hy
        · exact ⟨hdeliver, hlogout⟩
        · exact hlater y hy
      · rcases List.mem_cons.1 hy with rfl | hy
        · exact he
        · exact hold y hy

/-- A call that brings a token takes the place of what was current in that session, and leaves the
others alone. -/
theorem current_delivered_iff {issuer : Issuer} {t : Instant} {op : Operation}
    {access raw userId deviceKey : String} (hd : op.draws?.isSome)
    (hk : op.deviceKey? = some deviceKey) (hn : issuer.Names access userId)
    {history : List Entry} {u d raw' : String} {t' : Instant} :
    Current issuer (.call t op (.ok (.tokens ⟨access, some raw⟩)) :: history) u d raw' t' ↔
      (((u = userId ∧ d = deviceKey) ∧ raw' = raw ∧ t' = t) ∧ ∀ x ∈ history, ¬ x.Deletes userId) ∨
      (¬ (u = userId ∧ d = deviceKey) ∧ Current issuer history u d raw' t') := by
  rw [current_cons_iff, Entry.delivers_call_iff hk hn]
  constructor
  · rintro ⟨-, ⟨⟨rfl, rfl, rfl, rfl⟩, hold⟩ | ⟨hc, hdeliver, -⟩⟩
    · exact Or.inl ⟨⟨⟨rfl, rfl⟩, rfl, rfl⟩, hold⟩
    · refine Or.inr ⟨fun h => ?_, hc⟩
      exact hdeliver raw t ((Entry.delivers_call_iff hk hn).2 ⟨h.1, h.2, rfl, rfl⟩)
  · rintro (⟨⟨⟨rfl, rfl⟩, rfl, rfl⟩, hold⟩ | ⟨hne, hc⟩)
    · exact ⟨Entry.not_deletes_call u, Or.inl ⟨⟨rfl, rfl, rfl, rfl⟩, hold⟩⟩
    · refine ⟨Entry.not_deletes_call u, Or.inr ⟨hc, fun raw' t' h => ?_, ?_⟩⟩
      · obtain ⟨hu, hd', -⟩ := (Entry.delivers_call_iff hk hn).1 h
        exact hne ⟨hu, hd'⟩
      · rintro ⟨t₁, o, he⟩
        cases he
        cases hd

end Latchkey
