/-
Refreshes that race for one token. While the token is live nobody is rejected, so somebody comes to
renew it (`Contested`); with that step it is spent, so everybody else is rejected from then on
(`Won`). Hence of all that race exactly one wins, unless the token or the device key is blank: then
all are refused before they ask the store anything, and nobody wins (`racing_one_winner`).
-/
import Latchkey.Proofs.Service.Enrolment
import Latchkey.Proofs.Service.Refresh
import Latchkey.Proofs.Service.Traffic
import Latchkey.Proofs.Store.Session

namespace Latchkey.Traffic

open Operation (Result)

/-! ## The race -/

/-- Refreshes with the same token on the same device that have just begun, one for each of the
draws. -/
def racing (s : Service) (store : Store) (raw deviceKey : String) (draws : List Draws) : Traffic :=
  ⟨store, draws.map fun d => .start s (.refresh d raw deviceKey)⟩

/-- A step of a call that is there, or of somebody else who spares the session of the row and its
account. -/
def Event.Spares (row : RefreshRow) : Event → Prop
  | .start _ => False
  | .advance _ => True
  | .other e => e.Spares row.userId row.deviceKey row.tokenHash

instance (row : RefreshRow) : DecidablePred (Event.Spares row)
  | .start _ => .isFalse id
  | .advance _ => .isTrue trivial
  | .other e => inferInstanceAs
    (Decidable (e.Spares row.userId row.deviceKey row.tokenHash))

/-- Nobody has renewed the token of the row, and everybody can. -/
structure Contested (s : Service) (row : RefreshRow) (raw : String) (w : Traffic) : Prop where
  sole : w.store.Sole row
  account : (w.store.accountById row.userId).isSome
  calls : ∀ (j : Nat) (c : Call), w.calls[j]? = some c → ∃ d owner,
    c.operation = .refresh d raw row.deviceKey ∧
    s.issuer.hashToken d.token ≠ s.issuer.hashToken raw ∧
    s.Refreshing d raw row.deviceKey owner c.rest ∧ (owner = none ∨ owner = some row.userId)

/-- Call `i` has renewed the token of the row, and nobody else can. -/
structure Won (s : Service) (row : RefreshRow) (raw : String) (w : Traffic) (i : Nat) (d : Draws)
    (access : String) : Prop where
  winner : w.calls[i]? =
    some ⟨.refresh d raw row.deviceKey, .done (.tokens ⟨access, some d.token⟩)⟩
  others : ∀ (j : Nat) (c : Call), j ≠ i → w.calls[j]? = some c →
    (∃ d owner, s.Refreshing d raw row.deviceKey owner c.rest) ∨ c.rest = .fail .badRefreshToken
  spent : ∀ t, w.store.Spent (s.issuer.hashToken raw) t
  live : ((w.store.session row.userId row.deviceKey).filter (·.revokedAt.isNone)).map
    (·.tokenHash) = [s.issuer.hashToken d.token]

variable {s : Service} {row : RefreshRow} {raw : String} {w : Traffic} {now : Instant} {e : Event}

theorem contested_racing {store : Store} {draws : List Draws} (hsole : store.Sole row)
    (haccount : (store.accountById row.userId).isSome) (hraw : Text.isBlank raw = false)
    (hdevice : Text.isBlank row.deviceKey = false)
    (hfresh : ∀ d ∈ draws, s.issuer.hashToken d.token ≠ s.issuer.hashToken raw) :
    (racing s store raw row.deviceKey draws).Contested s row raw := by
  refine ⟨hsole, haccount, fun j c hc => ?_⟩
  obtain ⟨d, hd, rfl⟩ := List.mem_map.1 (List.mem_of_getElem? hc)
  exact ⟨d, none, rfl, hfresh d hd, Service.refreshing_perform s d hraw hdevice, Or.inl rfl⟩

/-! ## Steps -/

/-- Whoever renews the token has won: its row is revoked, and the only one of the session that is
not is the row of the new token. -/
theorem won_of_renewed (h : w.Contested s row raw)
    (hhash : row.tokenHash = s.issuer.hashToken raw) {i : Nat} {c : Call} {d : Draws}
    (hi : w.calls[i]? = some c) (hfresh : s.issuer.hashToken d.token ≠ s.issuer.hashToken raw)
    (access : String) (expiresAt now : Instant) :
    Won s row raw
      ⟨w.store.rotated (s.rotationOf (.refresh d raw row.deviceKey) d row.userId row.deviceKey
        expiresAt) now,
      w.calls.set i ⟨.refresh d raw row.deviceKey, .done (.tokens ⟨access, some d.token⟩)⟩⟩
      i d access := by
  obtain ⟨hlt, -⟩ := List.getElem?_eq_some_iff.1 hi
  refine ⟨List.getElem?_set_self hlt, fun j c' hj hc' => ?_, fun t => ?_, ?_⟩
  · rcases getElem?_set_cases hc' with ⟨rfl, -⟩ | ⟨-, hc'⟩
    · exact absurd rfl hj
    · obtain ⟨d', owner', -, -, hr', -⟩ := h.calls j c' hc'
      exact Or.inl ⟨d', owner', hr'⟩
  · rw [← hhash]
    refine Store.spent_rotated h.sole (RefreshRow.belongsTo_iff.2 ⟨rfl, rfl⟩) ?_ now t
    rw [hhash]
    exact hfresh
  · exact congrArg (List.map (·.tokenHash)) (Store.live_session_rotated w.store (s.rotationOf
      (.refresh d raw row.deviceKey) d row.userId row.deviceKey expiresAt) now)

/-- A step in a contested race: it goes on, or somebody wins. -/
theorem contested_after (h : w.Contested s row raw) (hhash : row.tokenHash = s.issuer.hashToken raw)
    (hlive : row.revokedAt = none) (he : e.Spares row) (hnow : now < row.expiresAt)
    (hc : s.InCalendar now) :
    (w.after s now e).Contested s row raw ∨
      ∃ i d access, (w.after s now e).Won s row raw i d access := by
  cases e with
  | start op => exact absurd he id
  | other e =>
    refine Or.inl ⟨Store.sole_after h.sole he, Store.accountById_isSome_after h.account now ?_,
      fun j c hcall => h.calls j c hcall⟩
    rintro rfl
    exact he rfl
  | advance i =>
    cases hi : w.calls[i]? with
    | none =>
      rw [after_advance_none hi]
      exact Or.inl h
    | some c =>
      obtain ⟨d, owner, hop, hfresh, hr, howner⟩ := h.calls i c hi
      -- the row is valid, so whatever the call asks next, it is not rejected
      have hvalid : row.validAt now = true := RefreshRow.validAt_iff.2 ⟨hlive, hnow⟩
      have hvouched := Store.ownerOf_sole h.sole hvalid
      have hheld := Store.holds_sole h.sole hvalid
      rw [hhash] at hvouched hheld
      have hp := Service.refreshing_advance hr now w.store
      rw [after_advance hi, Call.advance, hop]
      generalize c.rest.advance now w.store = q at hp
      obtain ⟨p, store'⟩ := q
      cases hp with
      | @onward _ owner' _ refreshing owner_eq =>
        refine Or.inl ⟨h.sole, h.account, fun j c' hc' => ?_⟩
        rcases getElem?_set_cases hc' with ⟨rfl, rfl⟩ | ⟨-, hc'⟩
        · refine ⟨d, owner', rfl, hfresh, refreshing, ?_⟩
          rcases owner_eq with rfl | ⟨-, rfl⟩
          · exact howner
          · exact Or.inr hvouched
        · exact h.calls j c' hc'
      | unknown hnone => rw [hvouched] at hnone; cases hnone
      | absent gone =>
        rcases howner with howner | howner <;> cases howner
        have := h.account
        rw [gone] at this
        cases this
      | refused lost =>
        rcases howner with howner | howner <;> cases howner
        rw [hheld] at lost
        cases lost
      | overflowed outside => exact absurd hc outside
      | @renewed userId access expiresAt _ =>
        rcases howner with howner | howner <;> cases howner
        exact Or.inr ⟨i, d, access, won_of_renewed h hhash hi hfresh access expiresAt now⟩

/-- The step of a refresh whose token is spent leaves the store alone and gets nowhere. -/
theorem advance_of_spent {store : Store} {deviceKey : String} {p : Program Result}
    (hspent : store.Spent (s.issuer.hashToken raw) now) (hc : s.InCalendar now)
    (h : (∃ d owner, s.Refreshing d raw deviceKey owner p) ∨ p = .fail .badRefreshToken) :
    (p.advance now store).2 = store ∧
      ((∃ d owner, s.Refreshing d raw deviceKey owner (p.advance now store).1) ∨
        (p.advance now store).1 = .fail .badRefreshToken) := by
  rcases h with ⟨d, owner, hr⟩ | rfl
  · have hp := Service.refreshing_advance hr now store
    generalize p.advance now store = q at hp
    obtain ⟨p', store'⟩ := q
    cases hp with
    | onward refreshing _ => exact ⟨rfl, Or.inl ⟨d, _, refreshing⟩⟩
    | unknown | absent | refused => exact ⟨rfl, Or.inr rfl⟩
    | overflowed outside => exact absurd hc outside
    | renewed held =>
      rw [hspent.not_holds (Int.le_refl _)] at held
      cases held
  · exact ⟨rfl, Or.inr rfl⟩

/-- A step when the race has been won: it stays won. -/
theorem won_after {i : Nat} {d : Draws} {access : String} (h : w.Won s row raw i d access)
    (hhash : row.tokenHash = s.issuer.hashToken raw) (he : e.Spares row) (hc : s.InCalendar now) :
    (w.after s now e).Won s row raw i d access := by
  cases e with
  | start op => exact absurd he id
  | other e =>
    -- somebody else stores no row with the hash of the token, so it stays spent
    refine ⟨h.winner, h.others, fun t => ?_, ?_⟩
    · refine Store.spent_after (h.spent t) now fun rot hrot => ?_
      subst hrot
      rw [← hhash]
      exact he.2
    · show (List.filter _ ((w.store.after now e).session _ _)).map _ = _
      rw [Store.session_after he]
      exact h.live
  | advance j =>
    cases hj : w.calls[j]? with
    | none => rw [after_advance_none hj]; exact h
    | some c =>
      rw [after_advance hj]
      by_cases hij : j = i
      · subst hij
        rw [h.winner] at hj
        cases hj
        obtain ⟨hlt, -⟩ := List.getElem?_eq_some_iff.1 h.winner
        refine ⟨List.getElem?_set_self hlt, fun k c' hk hc' => ?_, h.spent, h.live⟩
        rw [List.getElem?_set_ne (fun heq => hk heq.symm)] at hc'
        exact h.others k c' hk hc'
      · have hwinner : (w.calls.set j (c.advance now w.store))[i]? = w.calls[i]? :=
          List.getElem?_set_ne hij
        have hstep := advance_of_spent (h.spent now) hc (h.others j c hij hj)
        rw [hstep.1]
        refine ⟨hwinner.trans h.winner, fun k c' hk hc' => ?_, h.spent, h.live⟩
        rcases getElem?_set_cases hc' with ⟨rfl, rfl⟩ | ⟨-, hc'⟩
        · exact hstep.2
        · exact h.others k c' hk hc'

/-! ## Runs -/

theorem length_calls_after (w : Traffic) (now : Instant) (he : e.Spares row) :
    (w.after s now e).calls.length = w.calls.length := by
  cases e with
  | start op => exact absurd he id
  | other e => rfl
  | advance i => exact length_calls_advance w now i

/-- Nobody joins the race, and nobody leaves it. -/
theorem length_calls_run (w : Traffic) {events : List (Instant × Event)}
    (hevents : ∀ e ∈ events, e.2.Spares row) :
    (w.run s events).calls.length = w.calls.length := by
  induction events generalizing w with
  | nil => rfl
  | cons e rest ih =>
    exact (ih _ fun e' he' => hevents e' (List.mem_cons_of_mem e he')).trans
      (length_calls_after w e.1 (hevents e List.mem_cons_self))

theorem racing_run (h : w.Contested s row raw ∨ ∃ i d access, w.Won s row raw i d access)
    (hhash : row.tokenHash = s.issuer.hashToken raw) (hlive : row.revokedAt = none)
    {events : List (Instant × Event)}
    (hevents : ∀ e ∈ events, e.1 < row.expiresAt ∧ s.InCalendar e.1 ∧ e.2.Spares row) :
    (w.run s events).Contested s row raw ∨
      ∃ i d access, (w.run s events).Won s row raw i d access := by
  induction events generalizing w with
  | nil => exact h
  | cons e rest ih =>
    obtain ⟨hnow, hc, he⟩ := hevents e List.mem_cons_self
    refine ih ?_ fun e' he' => hevents e' (List.mem_cons_of_mem e he')
    rcases h with h | ⟨i, d, access, h⟩
    · exact contested_after h hhash hlive he hnow hc
    · exact Or.inr ⟨i, d, access, won_after h hhash he hc⟩

/-- Of refreshes whose arguments are not blank exactly one has won when all have ended. -/
theorem won_of_ended (h : w.Contested s row raw)
    (hhash : row.tokenHash = s.issuer.hashToken raw) (hlive : row.revokedAt = none)
    {events : List (Instant × Event)} (hsome : w.calls ≠ [])
    (hevents : ∀ e ∈ events, e.1 < row.expiresAt ∧ s.InCalendar e.1 ∧ e.2.Spares row)
    (hended : ∀ c ∈ (w.run s events).calls, c.rest.outcome? ≠ none) :
    ∃ i d access, (w.run s events).Won s row raw i d access := by
  rcases racing_run (Or.inl h) hhash hlive hevents with h | h
  · -- while the race goes on nobody has ended, and there is somebody
    have hpos : 0 < (w.run s events).calls.length := by
      rw [length_calls_run w fun e he => (hevents e he).2.2]
      exact List.length_pos_of_ne_nil hsome
    obtain ⟨d, owner, -, -, hr, -⟩ := h.calls 0 (w.run s events).calls[0]
      (List.getElem?_eq_getElem hpos)
    exact absurd (Service.outcome?_of_refreshing hr) (hended _ (List.getElem_mem hpos))
  · exact h

/-! ## No race -/

/-- Calls that have ended stay as they are, and nobody touches the session. -/
theorem ended_after (h : ∀ c ∈ w.calls, c.rest.outcome? ≠ none) (now : Instant)
    (he : e.Spares row) :
    (w.after s now e).calls = w.calls ∧
      (w.after s now e).store.session row.userId row.deviceKey =
        w.store.session row.userId row.deviceKey := by
  cases e with
  | start op => exact absurd he id
  | advance i =>
    rw [after_advance_ended fun c hc => h c (List.mem_of_getElem? hc)]
    exact ⟨rfl, rfl⟩
  | other e => exact ⟨rfl, Store.session_after he⟩

theorem ended_run (h : ∀ c ∈ w.calls, c.rest.outcome? ≠ none) {events : List (Instant × Event)}
    (hevents : ∀ e ∈ events, e.2.Spares row) :
    (w.run s events).calls = w.calls ∧
      (w.run s events).store.session row.userId row.deviceKey =
        w.store.session row.userId row.deviceKey := by
  induction events generalizing w with
  | nil => exact ⟨rfl, rfl⟩
  | cons e rest ih =>
    obtain ⟨hcalls, hsession⟩ := ended_after (s := s) h e.1 (hevents e List.mem_cons_self)
    have hrest := ih (w := w.after s e.1 e.2) (hcalls ▸ h)
      fun e' he' => hevents e' (List.mem_cons_of_mem e he')
    exact ⟨hrest.1.trans hcalls, hrest.2.trans hsession⟩

/-- Refreshes of which an argument is blank are all refused for it, and the session stays as it
was. -/
theorem racing_of_firstBlank? {store : Store} {draws : List Draws} {field : Field}
    (hblank : ∀ d, (Operation.refresh d raw row.deviceKey).firstBlank? = some field)
    {events : List (Instant × Event)} (hevents : ∀ e ∈ events, e.2.Spares row) :
    let w := (racing s store raw row.deviceKey draws).run s events
    (∀ c ∈ w.calls, c.rest = .fail (.refused (.blank field))) ∧
      w.store.session row.userId row.deviceKey = store.session row.userId row.deviceKey := by
  have hstart : ∀ c ∈ (racing s store raw row.deviceKey draws).calls,
      c.rest = .fail (.refused (.blank field)) := by
    intro c hc
    obtain ⟨d, -, rfl⟩ := List.mem_map.1 hc
    exact Service.perform_of_firstBlank? s (hblank d)
  obtain ⟨hcalls, hsession⟩ := ended_run (s := s)
    (fun c hc => by rw [hstart c hc]; exact Option.some_ne_none _) hevents
  refine ⟨fun c hc => ?_, hsession⟩
  rw [hcalls] at hc
  exact hstart c hc

/-! ## The result -/

/-- Of any number of refreshes that race for a live token, in whatever order they take their steps,
exactly one wins when all of them have ended. Everybody else is told that the token is bad, and the
winner's new token has the only row of the session that is not revoked. That is so unless the token
or the device key is blank, though the store may well have a row for them: all are refused then,
the device key being looked at first, nobody wins, and the session stays as it was. -/
theorem racing_one_winner (s : Service) (store : Store) (row : RefreshRow) (raw : String)
    (draws : List Draws) (events : List (Instant × Event)) (hsole : store.Sole row)
    (hhash : row.tokenHash = s.issuer.hashToken raw) (hlive : row.revokedAt = none)
    (haccount : (store.accountById row.userId).isSome) (hsome : draws ≠ [])
    (hfresh : ∀ d ∈ draws, s.issuer.hashToken d.token ≠ s.issuer.hashToken raw)
    (hevents : ∀ e ∈ events, e.1 < row.expiresAt ∧ s.InCalendar e.1 ∧ e.2.Spares row)
    (hended : ∀ c ∈ ((racing s store raw row.deviceKey draws).run s events).calls,
      c.rest.outcome? ≠ none) :
    let w := (racing s store raw row.deviceKey draws).run s events
    w.calls.length = draws.length ∧
    (Text.isBlank raw = false → Text.isBlank row.deviceKey = false →
      ∃ (i : Nat) (d : Draws) (access : String),
        w.calls[i]? = some ⟨.refresh d raw row.deviceKey, .done (.tokens ⟨access, some d.token⟩)⟩ ∧
        (∀ (j : Nat) (c : Call), j ≠ i → w.calls[j]? = some c → c.rest = .fail .badRefreshToken) ∧
        ((w.store.session row.userId row.deviceKey).filter (·.revokedAt.isNone)).map
          (·.tokenHash) = [s.issuer.hashToken d.token]) ∧
    (Text.isBlank row.deviceKey = true →
      (∀ c ∈ w.calls, c.rest = .fail (.refused (.blank .deviceKey))) ∧
      w.store.session row.userId row.deviceKey = store.session row.userId row.deviceKey) ∧
    (Text.isBlank raw = true → Text.isBlank row.deviceKey = false →
      (∀ c ∈ w.calls, c.rest = .fail (.refused (.blank .refreshToken))) ∧
      w.store.session row.userId row.deviceKey = store.session row.userId row.deviceKey) := by
  intro w
  have hspares : ∀ e ∈ events, e.2.Spares row := fun e he => (hevents e he).2.2
  have hlen : w.calls.length = draws.length :=
    (length_calls_run _ hspares).trans (List.length_map _)
  refine ⟨hlen, fun hraw hdevice => ?_, fun hdevice => ?_, fun hraw hdevice => ?_⟩
  · have hstart := contested_racing (s := s) hsole haccount hraw hdevice hfresh
    obtain ⟨i, d, access, h⟩ := won_of_ended hstart hhash hlive
      (fun hnil => hsome (List.map_eq_nil_iff.1 hnil)) hevents hended
    refine ⟨i, d, access, h.winner, fun j c hj hc => ?_, h.live⟩
    rcases h.others j c hj hc with ⟨d', owner, hr⟩ | hr
    · exact absurd (Service.outcome?_of_refreshing hr) (hended c (List.mem_of_getElem? hc))
    · exact hr
  · refine racing_of_firstBlank? (fun d => ?_) hspares
    simp [Operation.firstBlank?, Operation.required, hdevice]
  · refine racing_of_firstBlank? (fun d => ?_) hspares
    simp [Operation.firstBlank?, Operation.required, hdevice, hraw]

/-- The row of a session of the first account, whose token is good up to the instant 1000. -/
def sampleRow (raw deviceKey : String) : RefreshRow :=
  ⟨"first row", deviceKey, "first account", Service.sample.issuer.hashToken raw, 0, 1000, none⟩

/-- What the store makes of an account and of a session with that token. -/
def sampleStore (raw deviceKey : String) : Store :=
  Store.empty.replay
    [(0, .request (.insertAccount
      (.fresh "first account" "first customer" .anonymous "phone" none 0))),
    (0, .request (.rotate ⟨"first row", deviceKey, "first account", none,
      Service.sample.issuer.hashToken raw, 1000⟩))]

theorem sole_sampleRow (raw deviceKey : String) :
    (sampleStore raw deviceKey).Sole (sampleRow raw deviceKey) :=
  ⟨List.mem_singleton_self _, fun _ ha _ => List.mem_singleton.1 ha⟩

/-- Two calls take turns, while somebody logs out on another device. -/
def lockstep : List (Instant × Event) :=
  (5, .other (.request (.invalidate "first account" "laptop"))) ::
    (List.replicate 6 [(6, .advance 0), (5, .advance 1)]).flatten

theorem lockstep_one_winner :
    let row := sampleRow "first token" "phone"
    let store := sampleStore "first token" "phone"
    let w := (racing .sample store "first token" "phone"
      [.sample "second", .sample "third"]).run .sample lockstep
    store.Sole row ∧ (∀ c ∈ w.calls, c.rest.outcome? ≠ none) ∧
    ∃ (i : Nat) (d : Draws) (access : String),
      w.calls[i]? = some ⟨.refresh d "first token" "phone",
        .done (.tokens ⟨access, some d.token⟩)⟩ ∧
      (∀ (j : Nat) (c : Call), j ≠ i → w.calls[j]? = some c → c.rest = .fail .badRefreshToken) ∧
      ((w.store.session "first account" "phone").filter (·.revokedAt.isNone)).map (·.tokenHash) =
        [Service.sample.issuer.hashToken d.token] := by
  intro row store w
  have hended : ∀ c ∈ w.calls, c.rest.outcome? ≠ none := by decide +kernel
  have hresult := racing_one_winner .sample store row "first token"
    [.sample "second", .sample "third"] lockstep (sole_sampleRow _ _) rfl rfl (by decide)
    (by decide) (by decide +kernel) (by decide +kernel) hended
  exact ⟨sole_sampleRow _ _, hended, hresult.2.1 (by decide) (by decide)⟩

/-- Two refreshes race for a token on a device. All is as it must be for one of them to win, but
both are refused because an argument is blank. -/
def RaceInVain (raw deviceKey : String) (field : Field) : Prop :=
  let row := sampleRow raw deviceKey
  let store := sampleStore raw deviceKey
  let draws := [Draws.sample "second", .sample "third"]
  let w := (racing .sample store raw deviceKey draws).run .sample lockstep
  store.Sole row ∧ row.tokenHash = Service.sample.issuer.hashToken raw ∧
  row.deviceKey = deviceKey ∧ row.revokedAt = none ∧ (store.accountById row.userId).isSome ∧
  (∀ d ∈ draws, Service.sample.issuer.hashToken d.token ≠ row.tokenHash) ∧
  (∀ e ∈ lockstep, e.1 < row.expiresAt ∧ Service.sample.InCalendar e.1 ∧ e.2.Spares row) ∧
  w.calls.map (·.rest.outcome?) = draws.map fun _ => some (.error (.refused (.blank field)))

/-- The store makes a row under a blank device key, and one for a blank token, as it makes any
other. But nobody wins the race for it. -/
theorem blankSession_nobody_wins :
    RaceInVain "first token" " " .deviceKey ∧ RaceInVain " " "phone" .refreshToken :=
  ⟨⟨sole_sampleRow _ _, rfl, rfl, rfl, rfl, by decide +kernel⟩,
    ⟨sole_sampleRow _ _, rfl, rfl, rfl, rfl, by decide +kernel⟩⟩

end Latchkey.Traffic
