/-
The store as a log of its own past. Whatever happens, accounts and refresh rows keep their places:
an account gets its deletion mark and a row its revocation mark, each once and with the instant of
the event that sets it, and what is new stands behind all that was there (`extends_replay`).

If the clock does not go back, the times in which the rows of a session are open do not overlap, and
the log tells for every past instant which rows were valid then (`replay_is_audit_trail`).
-/
import Latchkey.Proofs.Store.Identities
import Mathlib.Data.List.Induction

namespace Latchkey

/-! ## Lists that grow -/

/-- Whatever is in the list `old` is in `new`, in the same place and with a change that `change`
allows; whatever is new stands behind it and is as `fresh` says. -/
structure Grows {α : Type} (change : α → α → Prop) (fresh : α → Prop) (old new : List α) :
    Prop where
  kept : ∀ (i : Nat) (x : α), old[i]? = some x → ∃ y, new[i]? = some y ∧ change x y
  added : ∀ (i : Nat) (y : α), old.length ≤ i → new[i]? = some y → fresh y

namespace Grows

variable {α : Type} {change : α → α → Prop} {fresh : α → Prop} {l l' l'' : List α}

theorem refl (hrefl : ∀ x, change x x) (l : List α) : Grows change fresh l l where
  kept := fun _ x hx => ⟨x, hx, hrefl x⟩
  added := fun i y hi hy => by
    rw [List.getElem?_eq_none hi] at hy
    cases hy

theorem trans (htrans : ∀ x y z, change x y → change y z → change x z)
    (hfresh : ∀ x y, change x y → fresh x → fresh y) (h : Grows change fresh l l')
    (h' : Grows change fresh l' l'') : Grows change fresh l l'' := by
  constructor
  · intro i x hx
    obtain ⟨y, hy, hxy⟩ := h.kept i x hx
    obtain ⟨z, hz, hyz⟩ := h'.kept i y hy
    exact ⟨z, hz, htrans x y z hxy hyz⟩
  · intro i z hi hz
    -- what stands behind the first list is in the second one or stands behind that too
    rcases Nat.lt_or_ge i l'.length with hlt | hge
    · have hy : l'[i]? = some l'[i] := List.getElem?_eq_getElem hlt
      obtain ⟨z', hz', hyz⟩ := h'.kept i _ hy
      obtain rfl := Option.some.inj (hz.symm.trans hz')
      exact hfresh _ _ hyz (h.added i _ hi hy)
    · exact h'.added i z hge hz

theorem mono {change' : α → α → Prop} {fresh' : α → Prop}
    (hchange : ∀ x y, change x y → change' x y) (hfresh : ∀ x, fresh x → fresh' x)
    (h : Grows change fresh l l') : Grows change' fresh' l l' where
  kept := fun i x hx => by
    obtain ⟨y, hy, hxy⟩ := h.kept i x hx
    exact ⟨y, hy, hchange x y hxy⟩
  added := fun i y hi hy => hfresh y (h.added i y hi hy)

/-- Each element is changed in its place. -/
theorem map {f : α → α} (hf : ∀ x, change x (f x)) (l : List α) :
    Grows change fresh l (l.map f) where
  kept := fun i x hx => ⟨f x, by rw [List.getElem?_map, hx]; rfl, hf x⟩
  added := fun i y hi hy => by
    rw [List.getElem?_eq_none (by rw [List.length_map]; exact hi)] at hy
    cases hy

theorem cons {x y : α} (hxy : change x y) (h : Grows change fresh l l') :
    Grows change fresh (x :: l) (y :: l') := by
  constructor
  · rintro (_ | i) z hz
    · obtain rfl := Option.some.inj hz
      exact ⟨y, rfl, hxy⟩
    · exact h.kept i z hz
  · rintro (_ | i) z hi hz
    · cases hi
    · exact h.added i z (Nat.le_of_succ_le_succ hi) hz

/-- What is put behind the list is fresh. -/
theorem concat (h : Grows change fresh l l') {x : α} (hx : fresh x) :
    Grows change fresh l (l' ++ [x]) := by
  constructor
  · intro i y hy
    obtain ⟨z, hz, hyz⟩ := h.kept i y hy
    obtain ⟨hlt, -⟩ := List.getElem?_eq_some_iff.1 hz
    exact ⟨z, by rw [List.getElem?_append_left hlt, hz], hyz⟩
  · intro i y hi hy
    rcases Nat.lt_or_ge i l'.length with hlt | hge
    · rw [List.getElem?_append_left hlt] at hy
      exact h.added i y hi hy
    · have hmem : y ∈ [x] := by
        rw [List.getElem?_append_right hge] at hy
        exact List.mem_of_getElem? hy
      rw [List.mem_singleton.1 hmem]
      exact hx

end Grows

/-! ## Marks -/

/-- What becomes of something that can be marked: it stays as it is, or its mark is set, if it bore
none, to an instant that was shown. -/
inductive Marked {α : Type} (mark : α → Option Instant) (set : α → Instant → α)
    (shown : Instant → Prop) (x : α) : α → Prop
  | kept : Marked mark set shown x x
  | set {t} (unmarked : mark x = none) (shows : shown t) : Marked mark set shown x (set x t)

namespace Marked

variable {α : Type} {mark : α → Option Instant} {set : α → Instant → α} {shown : Instant → Prop}

theorem trans (hset : ∀ x t, (mark (set x t)).isSome) {x y z : α} (h : Marked mark set shown x y)
    (h' : Marked mark set shown y z) : Marked mark set shown x z := by
  cases h with
  | kept => exact h'
  | @set t hx ht =>
    cases h' with
    | kept => exact .set hx ht
    | set hy _ =>
      have hmarked := hset x t
      rw [hy] at hmarked
      cases hmarked

theorem mono {shown' : Instant → Prop} (hshown : ∀ t, shown t → shown' t) {x y : α}
    (h : Marked mark set shown x y) : Marked mark set shown' x y := by
  cases h with
  | kept => exact .kept
  | set hx ht => exact .set hx (hshown _ ht)

end Marked

/-- A row is revoked, or stays as it is. -/
abbrev RefreshRow.Marked : (Instant → Prop) → RefreshRow → RefreshRow → Prop :=
  Latchkey.Marked (·.revokedAt) (·.revoke)

/-- An account is deleted, or stays as it is. -/
abbrev Account.Marked : (Instant → Prop) → Account → Account → Prop :=
  Latchkey.Marked (·.deletedAt) fun a t => { a with deletedAt := some t }

namespace Store

open RefreshRow (belongsTo_iff validAt_iff)

/-! ## What an event does to the log -/

/-- Rows that an event puts behind the others: that of a rotation. -/
def Event.AddsRow (now : Instant) (e : Event) (r : RefreshRow) : Prop :=
  ∃ rot, e = .request (.rotate rot) ∧ r = rot.row now

/-- Accounts that an event puts behind the others: that of an insertion. -/
def Event.AddsAccount (_now : Instant) (e : Event) (a : Account) : Prop :=
  e = .request (.insertAccount a)

/-- What one of the events has added, and what has become of it since. -/
def Added {α : Type} (adds : Instant → Event → α → Prop)
    (change : (Instant → Prop) → α → α → Prop) (events : List (Instant × Event)) (x : α) : Prop :=
  ∃ e ∈ events, ∃ x₀, adds e.1 e.2 x₀ ∧ change (· ∈ events.map (·.1)) x₀ x

/-- The second store is the first one, in which accounts and rows may have been marked at instants
that were shown, with more of them behind, which are as `row` and `account` say. -/
structure Extends (shown : Instant → Prop) (row : RefreshRow → Prop) (account : Account → Prop)
    (s s' : Store) : Prop where
  rows : Grows (RefreshRow.Marked shown) row s.rows s'.rows
  accounts : Grows (Account.Marked shown) account s.accounts s'.accounts

theorem marked_revokedRow {p : RefreshRow → Bool} (hp : SelectsUnrevoked p)
    (userId deviceKey : String) (now : Instant) (r : RefreshRow) :
    RefreshRow.Marked (· = now) r (revokedRow userId deviceKey p now r) := by
  unfold revokedRow
  split
  · rename_i h
    have hselected := (Bool.and_eq_true_iff.1 h).2
    exact .set (hp r hselected) rfl
  · exact .kept

theorem grows_revokeRows {fresh : RefreshRow → Prop} (s : Store) (userId deviceKey : String)
    {p : RefreshRow → Bool} (hp : SelectsUnrevoked p) (now : Instant) :
    Grows (RefreshRow.Marked (· = now)) fresh s.rows (s.revokeRows userId deviceKey p now) := by
  rw [revokeRows_eq_map]
  exact .map (marked_revokedRow hp userId deviceKey now) s.rows

theorem grows_markFirst {fresh : Account → Prop} {p : Account → Bool}
    (hp : ∀ a, p a = true → a.live = true) (now : Instant) : ∀ l : List Account,
      Grows (Account.Marked (· = now)) fresh l (markFirst p now l)
  | [] => .refl (fun _ => .kept) []
  | a :: rest => by
    have hrest : Grows (Account.Marked (· = now)) fresh rest (markFirst p now rest) :=
      grows_markFirst hp now rest
    unfold markFirst
    by_cases ha : p a = true
    · -- the mark is set here, what follows stays
      have hundeleted : a.deletedAt = none := Option.isNone_iff_eq_none.1 (hp a ha)
      rw [if_pos ha]
      exact .cons (.set hundeleted rfl) (.refl (fun _ => .kept) rest)
    · rw [if_neg ha]
      exact .cons .kept hrest

/-- An event marks what it marks with its own instant. -/
theorem extends_after (s : Store) (now : Instant) (e : Event) :
    s.Extends (· = now) (e.AddsRow now) (e.AddsAccount now) (s.after now e) := by
  constructor
  · rcases rows_after s now e with h | ⟨userId, deviceKey, -, h⟩ | ⟨rot, he, h⟩ <;> rw [h]
    · exact .refl (fun _ => .kept) _
    · exact grows_revokeRows s userId deviceKey (selectsUnrevoked_validAt now) now
    · exact (grows_revokeRows s rot.userId rot.deviceKey selectsUnrevoked_isNone now).concat
        ⟨rot, he, rfl⟩
  · rcases accounts_after s now e with h | ⟨a, he, -, h⟩ | ⟨id, -, -, h⟩ <;> rw [h]
    · exact .refl (fun _ => .kept) _
    · exact (Grows.refl (fun _ => .kept) s.accounts).concat he
    · exact grows_markFirst (fun a ha => (Bool.and_eq_true_iff.1 ha).2) now s.accounts

/-- What every event leaves in its place with at most a mark stays so over all of them. -/
theorem grows_replay {α : Type} {mark : α → Option Instant} {set : α → Instant → α}
    (hset : ∀ x t, (mark (set x t)).isSome) {adds : Instant → Event → α → Prop}
    {list : Store → List α}
    (hstep : ∀ s now e,
      Grows (Marked mark set (· = now)) (adds now e) (list s) (list (s.after now e)))
    (s : Store) (events : List (Instant × Event)) :
    Grows (Marked mark set (· ∈ events.map (·.1))) (Added adds (Marked mark set) events) (list s)
      (list (s.replay events)) := by
  induction events generalizing s with
  | nil => exact .refl (fun _ => .kept) _
  | cons e rest ih =>
    have hnow : ∀ t, t = e.1 → t ∈ (e :: rest).map (·.1) := fun t ht => ht ▸ List.mem_cons_self
    have hlater : ∀ t, t ∈ rest.map (·.1) → t ∈ (e :: rest).map (·.1) :=
      fun t => List.mem_cons_of_mem e.1
    have hfirst : Grows (Marked mark set (· ∈ (e :: rest).map (·.1)))
        (Added adds (Marked mark set) (e :: rest)) (list s) (list (s.after e.1 e.2)) :=
      (hstep s e.1 e.2).mono (fun _ _ => .mono hnow) fun x hx =>
        ⟨e, List.mem_cons_self, x, hx, .kept⟩
    have hrest : Grows (Marked mark set (· ∈ (e :: rest).map (·.1)))
        (Added adds (Marked mark set) (e :: rest)) (list (s.after e.1 e.2))
        (list ((s.after e.1 e.2).replay rest)) :=
      (ih (s.after e.1 e.2)).mono (fun _ _ => .mono hlater) fun x ⟨e', he', x₀, hx₀, hx⟩ =>
        ⟨e', List.mem_cons_of_mem e he', x₀, hx₀, hx.mono hlater⟩
    refine hfirst.trans (fun _ _ _ => .trans hset) (fun x y hxy hx => ?_) hrest
    obtain ⟨e', he', x₀, hx₀, hmarked⟩ := hx
    exact ⟨e', he', x₀, hx₀, hmarked.trans hset hxy⟩

/-- Whatever happens, the store goes on from what it was. -/
theorem extends_replay (s : Store) (events : List (Instant × Event)) :
    s.Extends (· ∈ events.map (·.1)) (Added Event.AddsRow RefreshRow.Marked events)
      (Added Event.AddsAccount Account.Marked events) (s.replay events) where
  rows := grows_replay (fun _ _ => rfl) (fun s now e => (extends_after s now e).rows) s events
  accounts :=
    grows_replay (fun _ _ => rfl) (fun s now e => (extends_after s now e).accounts) s events

/-! ## Succession -/

/-- The instants in a row of the log of an empty store were shown. -/
theorem shown_of_mem_replay {events : List (Instant × Event)} {r : RefreshRow}
    (hr : r ∈ (empty.replay events).rows) :
    r.createdAt ∈ events.map (·.1) ∧ ∀ t, r.revokedAt = some t → t ∈ events.map (·.1) := by
  obtain ⟨i, hi⟩ := List.getElem?_of_mem hr
  obtain ⟨e, he, r₀, ⟨rot, -, rfl⟩, hmarked⟩ :=
    (extends_replay empty events).rows.added i r (Nat.zero_le i) hi
  have hcreated : e.1 ∈ events.map (·.1) := List.mem_map_of_mem he
  cases hmarked with
  | kept => exact ⟨hcreated, fun t ht => by cases ht⟩
  | set _ hshown =>
    refine ⟨hcreated, fun t ht => ?_⟩
    obtain rfl := Option.some.inj ht
    exact hshown

/-- Behind a row there is one of the same session only if the first was revoked when the second was
created, or before. -/
def Succession (rows : List RefreshRow) : Prop :=
  rows.Pairwise fun a b => a.userId = b.userId → a.deviceKey = b.deviceKey →
    ∃ t, a.revokedAt = some t ∧ t ≤ b.createdAt

theorem succession_revokeRows {s : Store} (h : Succession s.rows) (userId deviceKey : String)
    {p : RefreshRow → Bool} (hp : SelectsUnrevoked p) (now : Instant) :
    Succession (s.revokeRows userId deviceKey p now) := by
  rw [revokeRows_eq_map, Succession, List.pairwise_map]
  refine h.imp fun {a b} hab hu hd => ?_
  have ha := marked_revokedRow hp userId deviceKey now a
  have hb := marked_revokedRow hp userId deviceKey now b
  generalize revokedRow userId deviceKey p now a = a' at ha hu hd
  generalize revokedRow userId deviceKey p now b = b' at hb hu hd
  have hcreated : b'.createdAt = b.createdAt := by cases hb <;> rfl
  have hsession : a.userId = b.userId ∧ a.deviceKey = b.deviceKey := by
    cases ha <;> cases hb <;> exact ⟨hu, hd⟩
  obtain ⟨t, ht, hle⟩ := hab hsession.1 hsession.2
  refine ⟨t, ?_, hcreated ▸ hle⟩
  cases ha with
  | kept => exact ht
  | set hn _ =>
    rw [hn] at ht
    cases ht

/-- A rotation revokes whatever of its session is not revoked yet, expired or not, at the instant at
which it creates its row. -/
theorem succession_rotated {s : Store} (h : Succession s.rows) {rot : Rotation} {now : Instant}
    (hpast : ∀ r ∈ s.rows, ∀ t, r.revokedAt = some t → t ≤ now) :
    Succession (s.rotated rot now).rows := by
  have hkept := succession_revokeRows h rot.userId rot.deviceKey selectsUnrevoked_isNone now
  refine List.pairwise_append.2 ⟨hkept, List.pairwise_singleton _ _, fun a ha b hb hu hd => ?_⟩
  rw [List.mem_singleton] at hb
  subst hb
  rw [revokeRows_eq_map, List.mem_map] at ha
  obtain ⟨r, hr, rfl⟩ := ha
  have hmarked := marked_revokedRow selectsUnrevoked_isNone rot.userId rot.deviceKey now r
  have hsession : r.belongsTo rot.userId rot.deviceKey = true := by
    rw [belongsTo_iff]
    generalize revokedRow rot.userId rot.deviceKey _ now r = r' at hmarked hu hd
    cases hmarked <;> exact ⟨hu, hd⟩
  have hrevoked := revokedAt_revokedRow_isNone hsession now
  generalize revokedRow rot.userId rot.deviceKey _ now r = r' at hmarked hrevoked
  cases hmarked with
  | kept =>
    obtain ⟨t, ht⟩ := Option.isSome_iff_exists.1 hrevoked
    exact ⟨t, ht, hpast r hr t ht⟩
  | set _ hnow => exact ⟨now, by rw [hnow]; rfl, Int.le_refl now⟩

theorem succession_after {s : Store} (h : Succession s.rows) {now : Instant}
    (hpast : ∀ r ∈ s.rows, ∀ t, r.revokedAt = some t → t ≤ now) (e : Event) :
    Succession (s.after now e).rows := by
  rcases rows_after s now e with hr | ⟨userId, deviceKey, -, hr⟩ | ⟨rot, -, hr⟩ <;> rw [hr]
  · exact h
  · exact succession_revokeRows h userId deviceKey (selectsUnrevoked_validAt now) now
  · exact succession_rotated h hpast

/-- While the clock does not go back, the rows of a session succeed one another. -/
theorem succession_replay {events : List (Instant × Event)}
    (hclock : events.Pairwise fun a b => a.1 ≤ b.1) :
    Succession (empty.replay events).rows := by
  induction events using List.reverseRecOn with
  | nil => exact List.Pairwise.nil
  | append_singleton events e ih =>
    obtain ⟨hbefore, -, hlast⟩ := List.pairwise_append.1 hclock
    have hpast : ∀ r ∈ (empty.replay events).rows, ∀ t, r.revokedAt = some t → t ≤ e.1 := by
      intro r hr t ht
      obtain ⟨e', he', rfl⟩ := List.mem_map.1 ((shown_of_mem_replay hr).2 t ht)
      exact hlast e' he' e (List.mem_singleton_self e)
    have hstep : empty.replay (events ++ [e]) = (empty.replay events).after e.1 e.2 := by
      unfold replay
      rw [List.foldl_append]
      rfl
    rw [hstep]
    exact succession_after (ih hbefore) hpast e.2

end Store

/-! ## When rows are open -/

namespace RefreshRow

/-- The instant at which the row has expired or has been revoked. -/
def closesAt (r : RefreshRow) : Instant :=
  match r.revokedAt with
  | some t => min t r.expiresAt
  | none => r.expiresAt

/-- The row had been created and was neither revoked nor expired, as far as is known today. -/
def openAt (r : RefreshRow) (t : Instant) : Bool :=
  decide (r.createdAt ≤ t) && decide (t < r.closesAt)

theorem openAt_iff {r : RefreshRow} {t : Instant} :
    r.openAt t = true ↔
      r.createdAt ≤ t ∧ t < r.expiresAt ∧ ∀ u, r.revokedAt = some u → t < u := by
  unfold openAt closesAt
  cases r.revokedAt with
  | none => simp
  | some u =>
    have hmin : t < min u r.expiresAt ↔ t < u ∧ t < r.expiresAt := Int.lt_min
    simp only [Bool.and_eq_true, decide_eq_true_eq, Option.some.injEq, forall_eq', hmin, and_comm]

end RefreshRow

namespace Store

open RefreshRow (belongsTo_iff validAt_iff openAt_iff)

theorem not_open_together {a b : RefreshRow} {u : Instant} (hu : a.revokedAt = some u)
    (hle : u ≤ b.createdAt) (t : Instant) : ¬ (a.openAt t = true ∧ b.openAt t = true) := by
  rintro ⟨ha, hb⟩
  have hbefore : t < u := (openAt_iff.1 ha).2.2 u hu
  have hafter : b.createdAt ≤ t := (openAt_iff.1 hb).1
  exact Int.not_le.2 hbefore (Int.le_trans hle hafter)

/-- What is open at `t` in the log is what was valid at `t`, when nothing later had happened. -/
theorem openAt_iff_validAt {before later : List (Instant × Event)} {t : Instant}
    (hbefore : ∀ e ∈ before, e.1 ≤ t) (hlater : ∀ e ∈ later, t < e.1) {i : Nat} {r : RefreshRow}
    (hr : (empty.replay (before ++ later)).rows[i]? = some r) :
    r.openAt t = true ↔
      ∃ past, (empty.replay before).rows[i]? = some past ∧ past.validAt t = true := by
  have hsplit : empty.replay (before ++ later) = (empty.replay before).replay later :=
    List.foldl_append
  have hlog := (extends_replay (empty.replay before) later).rows
  rw [hsplit] at hr
  have hahead : ∀ u, u ∈ later.map (·.1) → t < u := by
    intro u hu
    obtain ⟨e, he, rfl⟩ := List.mem_map.1 hu
    exact hlater e he
  rcases Nat.lt_or_ge i (empty.replay before).rows.length with hlt | hge
  · have hpast := List.getElem?_eq_getElem hlt
    have hdated := shown_of_mem_replay (List.getElem_mem hlt)
    generalize (empty.replay before).rows[i] = past at hpast hdated
    have hseen : ∀ u, u ∈ before.map (·.1) → u ≤ t := by
      intro u hu
      obtain ⟨e, he, rfl⟩ := List.mem_map.1 hu
      exact hbefore e he
    obtain ⟨r', hr', hmarked⟩ := hlog.kept i past hpast
    obtain rfl := Option.some.inj (hr.symm.trans hr')
    have hcreated : past.createdAt ≤ t := hseen _ hdated.1
    have hvalid : (∃ x, (empty.replay before).rows[i]? = some x ∧ x.validAt t = true) ↔
        past.revokedAt = none ∧ t < past.expiresAt := by
      rw [hpast, ← validAt_iff]
      simp
    rw [hvalid, openAt_iff]
    cases hmarked with
    | kept =>
      -- a mark that the row bore at `t` had been set by then
      constructor
      · rintro ⟨-, hexpires, hrevoked⟩
        refine ⟨Option.eq_none_iff_forall_ne_some.2 fun u hu => ?_, hexpires⟩
        have hmark : u ≤ t := hseen u (hdated.2 u hu)
        have hopen : t < u := hrevoked u hu
        exact Int.not_le.2 hopen hmark
      · rintro ⟨hnone, hexpires⟩
        exact ⟨hcreated, hexpires, fun u hu => by rw [hnone] at hu; cases hu⟩
    | @set u hnone hshown =>
      have hmark : t < u := hahead u hshown
      constructor
      · rintro ⟨-, hexpires, -⟩
        exact ⟨hnone, hexpires⟩
      · rintro ⟨-, hexpires⟩
        refine ⟨hcreated, hexpires, fun v hv => ?_⟩
        obtain rfl := Option.some.inj hv
        exact hmark
  · have hcreated : t < r.createdAt := by
      obtain ⟨e, he, r₀, ⟨rot, -, rfl⟩, hmarked⟩ := hlog.added i r hge hr
      have hadded : t < e.1 := hlater e he
      cases hmarked <;> exact hadded
    constructor
    · intro hopen
      exact absurd (openAt_iff.1 hopen).1 (Int.not_le.2 hcreated)
    · rintro ⟨past, hpast, -⟩
      rw [List.getElem?_eq_none hge] at hpast
      cases hpast

/-! ## The log -/

/-- The store is a log: each event and all of them together leave accounts and rows in their places,
set marks with their own instants where there were none, and put what is new behind. If the clock
does not go back, no two rows of a session are open at the same instant, and those that are open in
the log at an instant of the past are those that were valid then. -/
theorem replay_is_audit_trail (s : Store) (events : List (Instant × Event)) :
    (∀ now e, s.Extends (· = now) (e.AddsRow now) (e.AddsAccount now) (s.after now e)) ∧
    s.Extends (· ∈ events.map (·.1)) (Added Event.AddsRow RefreshRow.Marked events)
      (Added Event.AddsAccount Account.Marked events) (s.replay events) ∧
    ((events.Pairwise fun a b => a.1 ≤ b.1) →
      (∀ userId deviceKey, ((empty.replay events).session userId deviceKey).Pairwise
        fun a b => ∀ t, ¬ (a.openAt t = true ∧ b.openAt t = true)) ∧
      (∀ userId deviceKey t,
        ((empty.replay events).session userId deviceKey).countP (·.openAt t) ≤ 1) ∧
      ∀ before later t, events = before ++ later → (∀ e ∈ before, e.1 ≤ t) →
        (∀ e ∈ later, t < e.1) →
        ∀ (i : Nat) (r : RefreshRow), (empty.replay events).rows[i]? = some r →
          (r.openAt t = true ↔
            ∃ past, (empty.replay before).rows[i]? = some past ∧ past.validAt t = true)) := by
  refine ⟨extends_after s, extends_replay s events, fun hclock => ?_⟩
  have hapart : ∀ userId deviceKey, ((empty.replay events).session userId deviceKey).Pairwise
      fun a b => ∀ t, ¬ (a.openAt t = true ∧ b.openAt t = true) := by
    intro userId deviceKey
    have hsuccession := (succession_replay hclock).sublist
      (List.filter_sublist (p := (·.belongsTo userId deviceKey)))
    refine hsuccession.imp_of_mem fun {a b} ha hb hab => ?_
    obtain ⟨hua, hda⟩ := belongsTo_iff.1 (List.mem_filter.1 ha).2
    obtain ⟨hub, hdb⟩ := belongsTo_iff.1 (List.mem_filter.1 hb).2
    obtain ⟨u, hu, hle⟩ := hab (hua.trans hub.symm) (hda.trans hdb.symm)
    exact not_open_together hu hle
  refine ⟨hapart, fun userId deviceKey t => ?_, ?_⟩
  · -- of two rows that are open at `t` one would stand before the other
    rw [List.countP_eq_length_filter]
    have hopen := (hapart userId deviceKey).filter fun r => r.openAt t
    have hall : ∀ r ∈ ((empty.replay events).session userId deviceKey).filter (·.openAt t),
        r.openAt t = true :=
      fun r hr => (List.mem_filter.1 hr).2
    generalize ((empty.replay events).session userId deviceKey).filter (·.openAt t) = found
      at hopen hall
    rcases found with _ | ⟨a, _ | ⟨b, rest⟩⟩
    · exact Nat.zero_le 1
    · exact Nat.le_refl 1
    · have hab := (List.pairwise_cons.1 hopen).1 b List.mem_cons_self t
      have ha := hall a List.mem_cons_self
      have hb := hall b (List.mem_cons_of_mem a List.mem_cons_self)
      exact absurd ⟨ha, hb⟩ hab
  · rintro before later t rfl hbefore hlater i r hr
    exact openAt_iff_validAt hbefore hlater hr

/-- A session whose first row expires before anybody revokes it; the next rotation marks it all the
same. -/
def renewedLate : List (Instant × Event) :=
  [(0, .request (.rotate ⟨"row 1", "phone", "ada", none, "first", 5⟩)),
    (9, .request (.rotate ⟨"row 2", "phone", "ada", none, "second", 14⟩)),
    (12, .request (.invalidate "ada" "phone"))]

theorem renewedLate_is_audit_trail :
    let log := empty.replay renewedLate
    log.rows.map (fun r => (r.createdAt, r.revokedAt, r.closesAt)) =
      [(0, some 9, 5), (9, some 12, 12)] ∧
    (∀ t, (log.session "ada" "phone").countP (·.openAt t) ≤ 1) ∧
    ∃ r past, log.rows[0]? = some r ∧ r.openAt 4 = true ∧
      (empty.replay (renewedLate.take 1)).rows[0]? = some past ∧ past.validAt 4 = true := by
  intro log
  have hclock : renewedLate.Pairwise fun a b => a.1 ≤ b.1 := by decide
  obtain ⟨-, hone, hpast⟩ := (replay_is_audit_trail empty renewedLate).2.2 hclock
  have hrow : log.rows[0]? = some ⟨"row 1", "phone", "ada", "first", 0, 5, some 9⟩ := rfl
  obtain ⟨past, hthen, hvalid⟩ := (hpast (renewedLate.take 1) (renewedLate.drop 1) 4 rfl
    (by decide) (by decide) 0 _ hrow).1 (by decide)
  exact ⟨by decide, fun t => hone "ada" "phone" t, _, past, hrow, by decide, hthen, hvalid⟩

end Store

end Latchkey
