/-
The refresh rows as a ledger of the tokens that calls have handed out. In whatever order calls take
turns, the rows are those of the calls that delivered a refresh token, one for each, in the order of
their rotations (`rows_are_deliveries`).

The invariant is `Traffic.Balanced`: the calls that have rotated are done and own the rows, and
every other call remembers what it has read from the clock and knows of no account but a stored one.
-/
import Latchkey.Proofs.Service.Bookkeeping
import Latchkey.Proofs.Service.Redemption

namespace Latchkey

open Operation (Result)

/-! ## Rows that stay and rows that are added -/

namespace Store

theorem becomes_revokeRows (s : Store) (userId deviceKey : String) {p : RefreshRow → Bool}
    (hp : SelectsUnrevoked p) (now : Instant) :
    List.Forall₂ RefreshRow.Becomes s.rows (s.revokeRows userId deviceKey p now) := by
  rw [revokeRows_eq_map, List.forall₂_map_right_iff]
  exact List.forall₂_same.2 fun r _ => becomes_revokedRow hp userId deviceKey now r

/-- Without a rotation no row is added. -/
theorem becomes_after (s : Store) (now : Instant) {e : Event}
    (he : ∀ rot, e ≠ .request (.rotate rot)) :
    List.Forall₂ RefreshRow.Becomes s.rows (s.after now e).rows := by
  rcases rows_after s now e with h | ⟨userId, deviceKey, -, h⟩ | ⟨rot, hrot, -⟩
  · rw [h]
    exact List.forall₂_same.2 fun r _ => .refl r
  · rw [h]
    exact becomes_revokeRows s userId deviceKey (selectsUnrevoked_validAt now) now
  · exact absurd hrot (he rot)

end Store

/-! ## The turns of a call -/

namespace Call

/-- With its next step the call carries out its rotation. -/
def rotates (c : Call) (store : Store) (now : Instant) : Bool :=
  match c.rest with
  | .call (.rotate rot) _ => (store.rotate rot now).1.isOk
  | _ => false

/-- What the call reads from the clock with its next step. -/
def reading? (c : Call) (now : Instant) : Option Instant :=
  match c.rest with
  | .clock _ => some now
  | _ => none

/-- The call has stored no row so far. It knows what it has `read` from the clock last, and no
account but one that the store has, live or deleted. -/
def Pending (s : Service) (c : Call) (read : Option Instant) (store : Store) : Prop :=
  ∃ m, s.Underway c.operation m c.rest ∧ m.clock = read ∧
    ∀ id, m.account = some id → id ∈ store.accounts.map (·.id)

end Call

/-- The row is that of a call which is done and has `read` the clock: it stands for the refresh
token that the call returned, on the device that it was called for and for the account that the
access token names. -/
def RefreshRow.StandsFor (s : Service) (c : Call) (read : Option Instant) (row : RefreshRow) :
    Prop :=
  ∃ access raw t, c.rest = .done (.tokens ⟨access, some raw⟩) ∧
    c.operation.deviceKey? = some row.deviceKey ∧ s.issuer.Names access row.userId ∧
    row.tokenHash = s.issuer.hashToken raw ∧ read = some t ∧
    row.expiresAt = t + s.refreshLifetime

variable {s : Service} {c : Call} {read : Option Instant} {store store' : Store} {now : Instant}

theorem RefreshRow.StandsFor.becomes {row row' : RefreshRow} (h : row.StandsFor s c read)
    (hrow : row.Becomes row') : row'.StandsFor s c read := by
  obtain ⟨access, raw, t, hrest, hdevice, hnames, hhash, hread, hexpires⟩ := h
  refine ⟨access, raw, t, hrest, ?_, ?_, ?_, hread, ?_⟩
  · rw [hdevice, hrow.deviceKey]
  · rw [hrow.userId]
    exact hnames
  · rw [hrow.tokenHash, hhash]
  · rw [hrow.expiresAt, hexpires]

namespace Call

theorem pending_start (s : Service) (op : Operation) (store : Store) :
    (Call.start s op).Pending s none store :=
  ⟨.nothing, Service.underway_perform s op, rfl, fun id h => by cases h⟩

theorem Pending.mono (h : c.Pending s read store)
    (hids : ∀ id ∈ store.accounts.map (·.id), id ∈ store'.accounts.map (·.id)) :
    c.Pending s read store' := by
  obtain ⟨m, hm, hread, hknown⟩ := h
  exact ⟨m, hm, hread, fun id hid => hids id (hknown id hid)⟩

/-- What a turn of a call that has stored no row can be: it stores none with this step either, or
it hands out a refresh token, and the row of that token is the one it adds. -/
inductive Turn (s : Service) (c : Call) (read : Option Instant) (now : Instant) (store : Store) :
    Prop
  | quiet (rotates : c.rotates store now = false)
      (pending : (c.advance now store).Pending s ((c.reading? now).or read)
        (c.rest.advance now store).2)
      (rows : List.Forall₂ RefreshRow.Becomes store.rows (c.rest.advance now store).2.rows)
  | delivers {kept row} (rotates : c.rotates store now = true) (reads : c.reading? now = none)
      (rows : (c.rest.advance now store).2.rows = kept ++ [row])
      (kept : List.Forall₂ RefreshRow.Becomes store.rows kept)
      (stands : row.StandsFor s (c.advance now store) read)
      (owner : row.userId ∈ store.accounts.map (·.id))

theorem turn_of_pending (h : c.Pending s read store) (now : Instant) : c.Turn s read now store := by
  obtain ⟨op, p⟩ := c
  obtain ⟨m, (hm : s.Underway op m p), rfl, hknown⟩ := h
  have hsame : List.Forall₂ RefreshRow.Becomes store.rows store.rows :=
    List.forall₂_same.2 fun r _ => .refl r
  cases hm with
  | answered stateless fresh known =>
    exact .quiet rfl ⟨m, .answered stateless fresh known, rfl, hknown⟩ hsame
  | failed => exact .quiet rfl ⟨m, .failed, rfl, hknown⟩ hsame
  | overflowed => exact .quiet rfl ⟨m, .overflowed, rfl, hknown⟩ hsame
  | reading next => exact .quiet rfl ⟨_, next now, rfl, hknown⟩ hsame
  | @asking m r k may next =>
    have hnot : ∀ rot, r ≠ .rotate rot := by
      rintro rot rfl
      exact may
    have hrotates : Call.rotates ⟨op, .call r k⟩ store now = false := by
      cases r <;> first | rfl | exact absurd rfl (hnot _)
    have hrows : List.Forall₂ RefreshRow.Becomes store.rows
        (store.after now (.request r)).rows := by
      refine Store.becomes_after store now fun rot hrot => ?_
      cases hrot
      exact hnot rot rfl
    refine .quiet hrotates ⟨m.hear r (Store.apply now r store).1, next _, rfl, fun id hid => ?_⟩
      hrows
    · show id ∈ (store.after now (.request r)).accounts.map (·.id)
      -- an account that the answer told of is stored, like those that were known before
      rcases Knowledge.account_of_hear hid with htold | hbefore
      · obtain ⟨a, ha, rfl, -⟩ := Store.accountById_isSome_iff.1 (accountById_of_told may htold)
        exact List.mem_map_of_mem ha
      · exact Store.idTaken_after (hknown id hbefore) now (.request r)
  | @storing m draws userId deviceKey t expiresAt access k draws_eq device_eq _ known clock expiry
      names refused stored =>
    rcases Service.rotate_rotationOf s op draws userId deviceKey expiresAt now store with
      ⟨hok, -⟩ | ⟨hrefused, -⟩
    · have hadvance := Program.advance_rotate_ok (k := k) hok
      have hrest : k (.ok ()) = .done (.tokens ⟨access, some draws.token⟩) := stored
      have hrows : (Program.advance now (.call (.rotate (s.rotationOf op draws userId deviceKey
          expiresAt)) k) store).2.rows =
          store.revokeRows userId deviceKey (·.revokedAt.isNone) now ++
            [(s.rotationOf op draws userId deviceKey expiresAt).row now] := by
        rw [hadvance]
        rfl
      refine .delivers ?_ rfl hrows
        (Store.becomes_revokeRows store userId deviceKey Store.selectsUnrevoked_isNone now) ?_
        (hknown userId known)
      · simp only [Call.rotates, hok]
        rfl
      · refine ⟨access, draws.token, t, ?_, device_eq, names, rfl, clock, ?_⟩
        · show (Program.advance now _ store).1 = _
          rw [hadvance, hrest]
        · exact (Clock.shift?_eq_some_iff.1 expiry).1
    · have hadvance := Program.advance_rotate_error (k := k) hrefused
      have hrest : k (.error .badRefreshToken) = .fail .badRefreshToken := refused _
      refine .quiet ?_ ⟨m, ?_, rfl, ?_⟩ ?_
      · simp only [Call.rotates, hrefused]
        rfl
      · show s.Underway op m (Program.advance now _ store).1
        rw [hadvance, hrest]
        exact .failed
      · rw [hadvance]
        exact hknown
      · rw [hadvance]
        exact hsame

end Call

namespace Traffic

variable {w w' : Traffic} {order : List Nat} {read read' : Nat → Option Instant}

/-! ## Watching a run -/

/-- What `see` notices in the events of a run, in their order. -/
def observed {α : Type} (s : Service) (see : Traffic → Instant → Event → Option α) :
    Traffic → List (Instant × Event) → List α
  | _, [] => []
  | w, e :: rest => (see w e.1 e.2).toList ++ observed s see (w.after s e.1 e.2) rest

/-- The call that carries out its rotation. -/
def rotating? (w : Traffic) (now : Instant) : Event → Option Nat
  | .advance i => if w.calls[i]?.any (·.rotates w.store now) then some i else none
  | .start _ | .other _ => none

/-- What call `i` reads from the clock. -/
def reading? (i : Nat) (w : Traffic) (now : Instant) : Event → Option Instant
  | .advance j => if j = i then w.calls[i]?.bind (·.reading? now) else none
  | .start _ | .other _ => none

/-- The calls that have carried out their rotations in a run, in the order of these. -/
def rotations (s : Service) (events : List (Instant × Event)) : List Nat :=
  idle.observed s rotating? events

/-- What call `i` has read from the clock last in a run. -/
def lastReading (s : Service) (events : List (Instant × Event)) (i : Nat) : Option Instant :=
  (idle.observed s (reading? i) events).getLast?

/-! ## The balance -/

/-- The calls in `order` are done and the rows are theirs, in that order; the other calls have
stored no row. `read` tells what each call has read from the clock last. -/
structure Balanced (s : Service) (w : Traffic) (order : List Nat) (read : Nat → Option Instant) :
    Prop where
  nodup : order.Nodup
  rows : List.Forall₂
    (fun i row => ∃ c, w.calls[i]? = some c ∧ RefreshRow.StandsFor s c (read i) row)
    order w.store.rows
  pending : ∀ i c, w.calls[i]? = some c → i ∉ order → c.Pending s (read i) w.store
  unread : ∀ i, w.calls[i]? = none → read i = none
  owners : ∀ row ∈ w.store.rows, row.userId ∈ w.store.accounts.map (·.id)

theorem balanced_idle (s : Service) : idle.Balanced s [] fun _ => none where
  nodup := List.nodup_nil
  rows := .nil
  pending := fun _ _ h => by cases h
  unread := fun _ _ => rfl
  owners := fun _ h => by cases h

/-- A call in the order is done. -/
theorem Balanced.delivered (h : w.Balanced s order read) {i : Nat} (hi : i ∈ order) :
    ∃ c access raw, w.calls[i]? = some c ∧ c.rest = .done (.tokens ⟨access, some raw⟩) := by
  obtain ⟨k, hk, rfl⟩ := List.getElem_of_mem hi
  have hlen := h.rows.length_eq
  obtain ⟨c, hc, access, raw, t, hrest, -⟩ := h.rows.get hk (hlen ▸ hk)
  exact ⟨c, access, raw, hc, hrest⟩

/-- A call that has handed out a refresh token is in the order. -/
theorem Balanced.mem_order (h : w.Balanced s order read) {i : Nat} {c : Call} {access raw : String}
    (hc : w.calls[i]? = some c) (hrest : c.rest = .done (.tokens ⟨access, some raw⟩)) :
    i ∈ order := by
  by_contra hi
  obtain ⟨m, hm, -⟩ := h.pending i c hc hi
  rw [hrest] at hm
  cases hm with
  | answered stateless _ _ => cases stateless

/-- Rows that have at most been marked stand for what they stood for. -/
theorem Balanced.rows_become (h : w.Balanced s order read) {kept : List RefreshRow}
    (hrows : List.Forall₂ RefreshRow.Becomes w.store.rows kept)
    (hdone : ∀ i ∈ order, w'.calls[i]? = w.calls[i]? ∧ read' i = read i) :
    List.Forall₂
      (fun i row => ∃ c, w'.calls[i]? = some c ∧ RefreshRow.StandsFor s c (read' i) row) order
      kept := by
  refine List.forall₂_iff_get.2 ⟨h.rows.length_eq.trans hrows.length_eq, fun k hk hk' => ?_⟩
  have hrow : k < w.store.rows.length := h.rows.length_eq ▸ hk
  obtain ⟨c, hc, hstands⟩ := h.rows.get hk hrow
  obtain ⟨hcall, hread⟩ := hdone _ (List.get_mem order ⟨k, hk⟩)
  refine ⟨c, hcall.trans hc, ?_⟩
  rw [hread]
  exact hstands.becomes (hrows.get hrow hk')

theorem Balanced.owners_become (h : w.Balanced s order read) {kept : List RefreshRow}
    (hrows : List.Forall₂ RefreshRow.Becomes w.store.rows kept) :
    ∀ row ∈ kept, row.userId ∈ w.store.accounts.map (·.id) := by
  intro row' hrow'
  obtain ⟨k, hk, rfl⟩ := List.getElem_of_mem hrow'
  have hrow : k < w.store.rows.length := hrows.length_eq ▸ hk
  have hbecomes : (w.store.rows[k]).Becomes kept[k] := hrows.get hrow hk
  rw [hbecomes.userId]
  exact h.owners _ (List.getElem_mem hrow)

/-- Nobody rotates: the rows stay, but for marks, and so do the calls that are done. -/
theorem Balanced.of_quiet (h : w.Balanced s order read)
    (hrows : List.Forall₂ RefreshRow.Becomes w.store.rows w'.store.rows)
    (hids : ∀ id ∈ w.store.accounts.map (·.id), id ∈ w'.store.accounts.map (·.id))
    (hdone : ∀ i ∈ order, w'.calls[i]? = w.calls[i]? ∧ read' i = read i)
    (hpending : ∀ i c, w'.calls[i]? = some c → i ∉ order → c.Pending s (read' i) w'.store)
    (hunread : ∀ i, w'.calls[i]? = none → read' i = none) : w'.Balanced s order read' where
  nodup := h.nodup
  rows := h.rows_become hrows hdone
  pending := hpending
  unread := hunread
  owners := fun row hrow => hids _ (h.owners_become hrows row hrow)

/-- Call `i` has rotated: its row stands last, as the call does in the order. -/
theorem Balanced.of_delivery (h : w.Balanced s order read) {i : Nat} {c : Call}
    {kept : List RefreshRow} {row : RefreshRow} (hi : i ∉ order) (hc : w'.calls[i]? = some c)
    (hrows : w'.store.rows = kept ++ [row])
    (hkept : List.Forall₂ RefreshRow.Becomes w.store.rows kept)
    (hstands : row.StandsFor s c (read' i)) (howner : row.userId ∈ w.store.accounts.map (·.id))
    (hids : ∀ id ∈ w.store.accounts.map (·.id), id ∈ w'.store.accounts.map (·.id))
    (hdone : ∀ j ∈ order, w'.calls[j]? = w.calls[j]? ∧ read' j = read j)
    (hpending : ∀ j d, j ≠ i → w'.calls[j]? = some d → j ∉ order →
      d.Pending s (read' j) w'.store)
    (hunread : ∀ j, w'.calls[j]? = none → read' j = none) : w'.Balanced s (order ++ [i]) read' := by
  constructor
  · refine List.nodup_append.2 ⟨h.nodup, List.nodup_singleton i, fun j hj k hk he => ?_⟩
    rw [he, List.mem_singleton.1 hk] at hj
    exact hi hj
  · rw [hrows]
    exact List.rel_append (h.rows_become hkept hdone) (.cons ⟨c, hc, hstands⟩ .nil)
  · intro j d hd hj
    have hne : j ≠ i := by
      rintro rfl
      exact hj (List.mem_append_right _ (List.mem_singleton_self j))
    exact hpending j d hne hd fun hmem => hj (List.mem_append_left _ hmem)
  · exact hunread
  · intro row' hrow'
    rw [hrows] at hrow'
    refine hids _ ?_
    rcases List.mem_append.1 hrow' with hold | hnew
    · exact h.owners_become hkept row' hold
    · rw [List.mem_singleton.1 hnew]
      exact howner

/-- Nothing happens. -/
theorem Balanced.of_idle (h : w.Balanced s order read) {now : Instant} {e : Event}
    (hrotates : w.rotating? now e = none) (hreads : ∀ i, reading? i w now e = none) :
    w.Balanced s (order ++ (w.rotating? now e).toList)
      fun i => (reading? i w now e).or (read i) := by
  have hread : (fun i => (reading? i w now e).or (read i)) = read := by
    funext i
    rw [hreads i]
    rfl
  rw [hrotates, hread, Option.toList_none, List.append_nil]
  exact h

/-! ## What an event does to the balance -/

theorem reading?_advance_self {i : Nat} {c : Call} (hc : w.calls[i]? = some c) (now : Instant) :
    reading? i w now (.advance i) = c.reading? now := by
  simp [reading?, hc]

theorem reading?_advance_ne {i j : Nat} (h : j ≠ i) (now : Instant) :
    reading? j w now (.advance i) = none := if_neg h.symm

theorem rotating?_advance {i : Nat} {c : Call} (hc : w.calls[i]? = some c) (now : Instant) :
    w.rotating? now (.advance i) = if c.rotates w.store now then some i else none := by
  simp [rotating?, hc]

theorem after_advance_done {i : Nat} {c : Call} {result : Result} (hc : w.calls[i]? = some c)
    (hrest : c.rest = .done result) (now : Instant) : w.after s now (.advance i) = w := by
  obtain ⟨op, p⟩ := c
  cases hrest
  have hcalls : w.calls.set i ⟨op, .done result⟩ = w.calls := by
    obtain ⟨hlt, hget⟩ := List.getElem?_eq_some_iff.1 hc
    rw [← hget]
    exact List.set_getElem_self hlt
  rw [after_advance hc]
  show (⟨w.store, w.calls.set i ⟨op, .done result⟩⟩ : Traffic) = w
  rw [hcalls]

/-- The turn of call `i`, which has not rotated yet. -/
theorem Balanced.advance_pending (h : w.Balanced s order read) (now : Instant) {i : Nat} {c : Call}
    (hc : w.calls[i]? = some c) (hi : i ∉ order) :
    (w.after s now (.advance i)).Balanced s (order ++ (w.rotating? now (.advance i)).toList)
      fun j => (reading? j w now (.advance i)).or (read j) := by
  have hself : (w.calls.set i (c.advance now w.store))[i]? = some (c.advance now w.store) :=
    List.getElem?_set_self (List.getElem?_eq_some_iff.1 hc).1
  have hother : ∀ j, j ≠ i → (w.calls.set i (c.advance now w.store))[j]? = w.calls[j]? ∧
      (reading? j w now (.advance i)).or (read j) = read j := fun j hj =>
    ⟨List.getElem?_set_ne hj.symm, by rw [reading?_advance_ne hj]; rfl⟩
  have hdone : ∀ j ∈ order, (w.calls.set i (c.advance now w.store))[j]? = w.calls[j]? ∧
      (reading? j w now (.advance i)).or (read j) = read j :=
    fun j hj => hother j fun he => hi (he ▸ hj)
  have hunread : ∀ j, (w.calls.set i (c.advance now w.store))[j]? = none →
      (reading? j w now (.advance i)).or (read j) = none := by
    intro j hj
    have hne : j ≠ i := fun he => by rw [he, hself] at hj; cases hj
    rw [(hother j hne).2]
    exact h.unread j ((hother j hne).1 ▸ hj)
  have hids : ∀ id ∈ w.store.accounts.map (·.id),
      id ∈ (c.rest.advance now w.store).2.accounts.map (·.id) := by
    intro id hid
    rcases advance_store now c.rest w.store with he | ⟨r, he⟩ <;> rw [he]
    · exact hid
    · exact Store.idTaken_after hid now (.request r)
  have hpending : ∀ j d, j ≠ i → (w.calls.set i (c.advance now w.store))[j]? = some d →
      j ∉ order → d.Pending s ((reading? j w now (.advance i)).or (read j))
        (c.rest.advance now w.store).2 := by
    intro j d hne hd hj
    rw [(hother j hne).2]
    exact (h.pending j d ((hother j hne).1 ▸ hd) hj).mono hids
  rw [after_advance hc, rotating?_advance hc]
  cases Call.turn_of_pending (h.pending i c hc hi) now with
  | quiet rotates pending rows =>
    rw [rotates, if_neg Bool.false_ne_true, Option.toList_none, List.append_nil]
    refine h.of_quiet rows hids hdone (fun j d hd hj => ?_) hunread
    by_cases hne : j = i
    · subst hne
      obtain rfl := Option.some.inj (hself.symm.trans hd)
      rw [reading?_advance_self hc]
      exact pending
    · exact hpending j d hne hd hj
  | @delivers kept row rotates reads rows keeps stands owner =>
    have hread : (reading? i w now (.advance i)).or (read i) = read i := by
      rw [reading?_advance_self hc, reads]
      rfl
    rw [rotates, if_pos rfl, Option.toList_some]
    exact h.of_delivery hi hself rows keeps (by rw [hread]; exact stands) owner hids hdone hpending
      hunread

/-- A call that begins has read nothing and stored no row. -/
theorem Balanced.start (h : w.Balanced s order read) (now : Instant) (op : Operation) :
    (w.after s now (.start op)).Balanced s order read := by
  have hsame : List.Forall₂ RefreshRow.Becomes w.store.rows w.store.rows :=
    List.forall₂_same.2 fun r _ => .refl r
  have hstay : ∀ (i : Nat) (c : Call), w.calls[i]? = some c →
      (w.calls ++ [Call.start s op])[i]? = some c := by
    intro i c hc
    rw [List.getElem?_append_left (List.getElem?_eq_some_iff.1 hc).1, hc]
  refine h.of_quiet hsame (fun _ hid => hid) (fun i hi => ?_) (fun i c hc hi => ?_) fun i hi => ?_
  · obtain ⟨c, -, -, hc, -⟩ := h.delivered hi
    exact ⟨(hstay i c hc).trans hc.symm, rfl⟩
  · rcases call_after hc with ⟨hold, -⟩ | ⟨hturn, -⟩ | ⟨op', -, hlast, rfl⟩
    · exact h.pending i c hold hi
    · cases hturn
    · have hread : read i = none := by
        rw [hlast]
        exact h.unread _ (List.getElem?_eq_none (Nat.le_refl _))
      show (Call.start s op').Pending s (read i) w.store
      rw [hread]
      exact Call.pending_start s op' w.store
  · cases hold : w.calls[i]? with
    | none => exact h.unread i hold
    | some c =>
      change (w.calls ++ [Call.start s op])[i]? = none at hi
      rw [hstay i c hold] at hi
      cases hi

/-- An event of the store that is no rotation. -/
theorem Balanced.other (h : w.Balanced s order read) (now : Instant) {e : Store.Event}
    (he : ∀ rot, e ≠ .request (.rotate rot)) :
    (w.after s now (.other e)).Balanced s order read := by
  have hids : ∀ id ∈ w.store.accounts.map (·.id),
      id ∈ (w.store.after now e).accounts.map (·.id) :=
    fun id hid => Store.idTaken_after hid now e
  exact h.of_quiet (Store.becomes_after w.store now he) hids (fun _ _ => ⟨rfl, rfl⟩)
    (fun i c hc hi => (h.pending i c hc hi).mono hids) h.unread

/-- Whatever happens, a call that rotates stands last in the order from then on, and a call that
reads the clock remembers that. -/
theorem Balanced.after (h : w.Balanced s order read) (now : Instant) {e : Event}
    (he : e.storesRow = false) :
    (w.after s now e).Balanced s (order ++ (w.rotating? now e).toList)
      fun i => (reading? i w now e).or (read i) := by
  cases e with
  | start op =>
    rw [show w.rotating? now (.start op) = none from rfl, Option.toList_none, List.append_nil]
    exact h.start now op
  | other e =>
    rw [show w.rotating? now (.other e) = none from rfl, Option.toList_none, List.append_nil]
    refine h.other now fun rot hrot => ?_
    rw [hrot] at he
    cases he
  | advance i =>
    cases hc : w.calls[i]? with
    | none =>
      rw [after_advance_none hc]
      exact h.of_idle (by simp [rotating?, hc]) fun j => by
        by_cases hj : j = i
        · subst hj
          simp [reading?, hc]
        · exact reading?_advance_ne hj now
    | some c =>
      by_cases hi : i ∈ order
      · -- a call that is done has nothing left to do in its turn
        obtain ⟨c', access, raw, hc', hrest⟩ := h.delivered hi
        obtain rfl := Option.some.inj (hc.symm.trans hc')
        rw [after_advance_done hc hrest]
        exact h.of_idle (by simp [rotating?_advance hc, Call.rotates, hrest]) fun j => by
          by_cases hj : j = i
          · subst hj
            simp [reading?_advance_self hc, Call.reading?, hrest]
          · exact reading?_advance_ne hj now
      · exact h.advance_pending now hc hi

/-! ## Whole runs -/

theorem balanced_run (h : w.Balanced s order read) {events : List (Instant × Event)}
    (he : ∀ e ∈ events, e.2.storesRow = false) :
    (w.run s events).Balanced s (order ++ w.observed s rotating? events)
      fun i => (w.observed s (reading? i) events).getLast?.or (read i) := by
  induction events generalizing w order read with
  | nil =>
    rw [show w.observed s rotating? [] = [] from rfl, List.append_nil]
    exact h
  | cons e rest ih =>
    have hfirst := h.after e.1 (he e List.mem_cons_self)
    have hrest := ih hfirst fun e' he' => he e' (List.mem_cons_of_mem e he')
    -- what the first event shows comes before what is seen later, and a later reading counts
    have horder : order ++ w.observed s rotating? (e :: rest) =
        order ++ (w.rotating? e.1 e.2).toList ++ (w.after s e.1 e.2).observed s rotating? rest :=
      (List.append_assoc _ _ _).symm
    have hread : (fun i => (w.observed s (reading? i) (e :: rest)).getLast?.or (read i)) =
        fun i => ((w.after s e.1 e.2).observed s (reading? i) rest).getLast?.or
          ((reading? i w e.1 e.2).or (read i)) := by
      funext i
      show ((reading? i w e.1 e.2).toList ++ _).getLast?.or (read i) = _
      rw [List.getLast?_append, Option.or_assoc]
      cases reading? i w e.1 e.2 <;> rfl
    rw [horder, hread]
    exact hrest

/-- In whatever order calls take turns that started from nothing, while accounts are added and
deleted beside them: the rows are, one for one and in this order, those of the calls that have
rotated, and these are the calls that returned a refresh token. The row of a call is for the device
that it was called for, for the account that its access token names, for the refresh token that it
returned, and until the lifetime of a token after the last reading of its clock. So calls that
failed and calls that were for no device have no row. And every row belongs to an account that was
stored. -/
theorem rows_are_deliveries (s : Service) (events : List (Instant × Event))
    (hrows : ∀ e ∈ events, e.2.storesRow = false) :
    let w := idle.run s events
    let order := rotations s events
    order.Nodup ∧
    (∀ i, i ∈ order ↔ ∃ c access raw, w.calls[i]? = some c ∧
      c.rest = .done (.tokens ⟨access, some raw⟩)) ∧
    List.Forall₂ (fun i row => ∃ c access raw t, w.calls[i]? = some c ∧
      c.rest = .done (.tokens ⟨access, some raw⟩) ∧ c.operation.deviceKey? = some row.deviceKey ∧
      s.issuer.Names access row.userId ∧ row.tokenHash = s.issuer.hashToken raw ∧
      lastReading s events i = some t ∧ row.expiresAt = t + s.refreshLifetime) order w.store.rows ∧
    (∀ i c, w.calls[i]? = some c → c.operation.deviceKey? = none ∨ c.rest = .overflow ∨
      (∃ e, c.rest = .fail e) → i ∉ order) ∧
    ∀ row ∈ w.store.rows, row.userId ∈ w.store.accounts.map (·.id) := by
  intro w order
  have hbalance : w.Balanced s order (lastReading s events) := by
    have h := balanced_run (balanced_idle s) hrows
    have hread : (fun i => (idle.observed s (reading? i) events).getLast?.or none) =
        lastReading s events := funext fun i => Option.or_none
    rw [hread] at h
    exact h
  have hrow : List.Forall₂ (fun i row => ∃ c access raw t, w.calls[i]? = some c ∧
      c.rest = .done (.tokens ⟨access, some raw⟩) ∧ c.operation.deviceKey? = some row.deviceKey ∧
      s.issuer.Names access row.userId ∧ row.tokenHash = s.issuer.hashToken raw ∧
      lastReading s events i = some t ∧ row.expiresAt = t + s.refreshLifetime) order w.store.rows :=
    hbalance.rows.imp fun i row ⟨c, hc, access, raw, t, h⟩ => ⟨c, access, raw, t, hc, h⟩
  refine ⟨hbalance.nodup, fun i => ⟨hbalance.delivered, ?_⟩, hrow, ?_, hbalance.owners⟩
  · rintro ⟨c, access, raw, hc, hrest⟩
    exact hbalance.mem_order hc hrest
  · intro i c hc hnone hi
    obtain ⟨k, hk, rfl⟩ := List.getElem_of_mem hi
    obtain ⟨c', access, raw, t, hc', hrest, hdevice, -⟩ := hrow.get hk (hrow.length_eq ▸ hk)
    obtain rfl := Option.some.inj (hc.symm.trans hc')
    rcases hnone with hnone | hover | ⟨e, hfail⟩
    · rw [hnone] at hdevice
      cases hdevice
    · rw [hover] at hrest
      cases hrest
    · rw [hfail] at hrest
      cases hrest

/-- Two devices log in, and the second one is done while the first has yet to rotate. -/
def crossedLogins : List (Instant × Event) :=
  [(0, .start (.loginAnonymous (.sample "first") "phone")),
    (0, .start (.loginAnonymous (.sample "second") "tablet"))] ++
    List.replicate 6 (1, .advance 0) ++ List.replicate 7 (2, .advance 1) ++ [(5, .advance 0)]

theorem crossedLogins_rows_are_deliveries :
    (∀ e ∈ crossedLogins, e.2.storesRow = false) ∧
    rotations .sample crossedLogins = [1, 0] ∧
    (idle.run .sample crossedLogins).store.rows.map
      (fun row => (row.deviceKey, row.createdAt, row.expiresAt)) =
        [("tablet", 2, 1002), ("phone", 5, 1001)] ∧
    ∀ i, i ∈ rotations .sample crossedLogins ↔ ∃ c access raw,
      (idle.run .sample crossedLogins).calls[i]? = some c ∧
        c.rest = .done (.tokens ⟨access, some raw⟩) := by
  have hrows : ∀ e ∈ crossedLogins, e.2.storesRow = false := by decide
  have horder : rotations .sample crossedLogins = [1, 0] := by decide +kernel
  exact ⟨hrows, horder, by decide +kernel,
    (rows_are_deliveries .sample crossedLogins hrows).2.1⟩

end Traffic

end Latchkey
