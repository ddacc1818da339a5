/-
What comes of settings. A lifetime that no duration can hold overflows, an empty signing secret and
a lifetime that is not positive are refused, and all other settings are accepted: the issuer has the
secrets and the lifetime that they ask for (`issuer_eq_ok_iff`). An accepted lifetime need not fit
into the calendar, and then there are instants at which no token can be issued
(`accepted_issue_within_calendar`).
-/
import Latchkey.Proofs.AccessToken.RoundTrip
import Latchkey.Settings

namespace Latchkey

namespace Settings

variable {c : Settings} {issuer : Issuer}

/-! ## What comes of settings -/

/-- The secret for hashing: the dedicated one if there is any, and else the one that signs. -/
def hashing (c : Settings) : String :=
  match c.hashSecret with
  | some secret => if secret = "" then c.signingSecret else secret
  | none => c.signingSecret

/-- The lifetime that is asked for. -/
def lifetime (c : Settings) : Duration := c.lifetimeMinutes.toInt * 60000

/-- The lifetime is not too long for a duration, in either direction. -/
def Fits (c : Settings) : Prop := -Clock.longest ≤ c.lifetime ∧ c.lifetime ≤ Clock.longest

instance : Decidable c.Fits := inferInstanceAs (Decidable (_ ∧ _))

theorem minutes?_eq (c : Settings) :
    Clock.minutes? c.lifetimeMinutes.toInt = if c.Fits then some c.lifetime else none := rfl

theorem hashing_ne_nil (h : c.signingSecret ≠ "") : Bytes.ofString c.hashing ≠ [] := by
  rw [ne_eq, Bytes.ofString_eq_nil_iff]
  unfold hashing
  split
  · split <;> assumption
  · exact h

/-- An issuer comes about as if the secret for hashing had always been given. -/
theorem issuerWith_eq (c : Settings) (lifetime : Duration) :
    c.issuerWith lifetime =
      (Issuer.ofSecret (Bytes.ofString c.signingSecret) lifetime).bind
        (·.withHashSecret (Bytes.ofString c.hashing)) := by
  have hsame : Issuer.ofSecret (Bytes.ofString c.signingSecret) lifetime =
      (Issuer.ofSecret (Bytes.ofString c.signingSecret) lifetime).bind
        (·.withHashSecret (Bytes.ofString c.signingSecret)) := by
    unfold Issuer.ofSecret
    split
    · rfl
    · rename_i hsigning
      split
      · simp only [Except.bind, Issuer.withHashSecret, dif_neg hsigning]
      · rfl
  unfold issuerWith hashing
  cases c.hashSecret with
  | none =>
    rw [← hsame]
    exact bind_pure _
  | some secret =>
    by_cases hsecret : secret = ""
    · simp only [hsecret, if_true, ← hsame]
      exact bind_pure _
    · simp only [String.isEmpty_iff, hsecret, if_false]
      rfl

theorem issuer_eq (c : Settings) :
    c.issuer =
      if c.Fits then
        if hsigning : c.signingSecret = "" then .error (.signing .emptySecret)
        else if hpos : 0 < c.lifetime then
          .ok ⟨Bytes.ofString c.signingSecret, Bytes.ofString c.hashing, c.lifetime,
            mt Bytes.ofString_eq_nil_iff.1 hsigning, hashing_ne_nil hsigning, hpos⟩
        else .error (.signing .lifetimeNotPositive)
      else .overflow := by
  unfold issuer
  rw [minutes?_eq]
  by_cases hfits : c.Fits
  · simp only [if_pos hfits]
    rw [issuerWith_eq]
    unfold Issuer.ofSecret
    by_cases hsigning : c.signingSecret = ""
    · rw [dif_pos (Bytes.ofString_eq_nil_iff.2 hsigning), dif_pos hsigning]
      rfl
    · rw [dif_neg (mt Bytes.ofString_eq_nil_iff.1 hsigning), dif_neg hsigning]
      by_cases hpos : 0 < c.lifetime
      · rw [dif_pos hpos, dif_pos hpos]
        simp only [Except.bind, Issuer.withHashSecret, dif_neg (hashing_ne_nil hsigning)]
      · rw [dif_neg hpos, dif_neg hpos]
        rfl
  · simp only [if_neg hfits]

theorem issuer_eq_overflow_iff : c.issuer = .overflow ↔ ¬ c.Fits := by
  rw [issuer_eq]
  split
  · split
    · simp_all
    · split <;> simp_all
  · simp_all

theorem issuer_eq_error_iff {e : AuthError} :
    c.issuer = .error e ↔ c.Fits ∧
      (c.signingSecret = "" ∧ e = .signing .emptySecret ∨
        c.signingSecret ≠ "" ∧ c.lifetime ≤ 0 ∧ e = .signing .lifetimeNotPositive) := by
  rw [issuer_eq]
  by_cases hfits : c.Fits
  · by_cases hsigning : c.signingSecret = ""
    · simp [hfits, hsigning, eq_comm]
    · by_cases hpos : 0 < c.lifetime
      · simp [hfits, hsigning, hpos, Int.not_le.2 hpos]
      · simp [hfits, hsigning, hpos, Int.not_lt.1 hpos, eq_comm]
  · simp [hfits]

/-- The issuer has the secrets and the lifetime of the settings. That they are accepted need not be
said: no issuer has an empty secret or a lifetime that is not positive. -/
theorem issuer_eq_ok_iff :
    c.issuer = .ok issuer ↔ c.Fits ∧ issuer.signingSecret = Bytes.ofString c.signingSecret ∧
      issuer.hashSecret = Bytes.ofString c.hashing ∧ issuer.lifetime = c.lifetime := by
  rw [issuer_eq]
  constructor
  · intro h
    split at h
    · rename_i hfits
      split at h
      · cases h
      · split at h
        · cases h
          exact ⟨hfits, rfl, rfl, rfl⟩
        · cases h
    · cases h
  · rintro ⟨hfits, hsigning, hhashing, hlifetime⟩
    obtain ⟨_, _, _, hsigning_ne, _, hpos⟩ := issuer
    subst hsigning hhashing hlifetime
    rw [if_pos hfits, dif_neg (mt Bytes.ofString_eq_nil_iff.2 hsigning_ne), dif_pos hpos]

/-- Settings ask for whole seconds only. -/
theorem dvd_lifetime (h : c.issuer = .ok issuer) : 1000 ∣ issuer.lifetime := by
  obtain ⟨-, -, -, hlifetime⟩ := issuer_eq_ok_iff.1 h
  rw [hlifetime]
  unfold lifetime Duration
  omega

/-- Without a dedicated secret for hashing, the signing secret is as good as one. -/
theorem issuer_of_no_hashSecret (h : c.hashSecret = none ∨ c.hashSecret = some "") :
    c.issuer = { c with hashSecret := some c.signingSecret }.issuer := by
  have hhashing : c.hashing = { c with hashSecret := some c.signingSecret }.hashing := by
    unfold hashing
    rcases h with h | h <;> simp [h]
  rw [issuer_eq, issuer_eq { c with hashSecret := some c.signingSecret }]
  simp only [hhashing]
  rfl

/-! ## Accepted and yet too long -/

/-- The last millisecond of the year 9999. -/
def endOf9999 : Instant := 253402300799999

/-- The most minutes that a duration can hold. -/
def mostMinutes : Int := 153722867280912

/-- The most minutes after which a token that is issued by the end of the year 9999 expires within
the calendar. -/
def mostIssuable : Int := 132614409600

theorem fits_iff : c.Fits ↔ -mostMinutes ≤ c.lifetimeMinutes.toInt ∧
    c.lifetimeMinutes.toInt ≤ mostMinutes := by
  unfold Fits lifetime Clock.longest mostMinutes Duration
  omega

/-- Settings overflow, are refused or give an issuer, according to the lifetime and the signing
secret. Whatever issuer they give, it writes a token exactly if the token expires within the
calendar, and accepts at once what it has written; but only up to a certain lifetime does it write
tokens at all instants up to the end of the year 9999. -/
theorem accepted_issue_within_calendar (c : Settings) :
    (c.issuer = .overflow ↔
      c.lifetimeMinutes.toInt < -mostMinutes ∨ mostMinutes < c.lifetimeMinutes.toInt) ∧
    (∀ e, c.issuer = .error e ↔ c.Fits ∧
      (c.signingSecret = "" ∧ e = .signing .emptySecret ∨
        c.signingSecret ≠ "" ∧ c.lifetimeMinutes.toInt ≤ 0 ∧ e = .signing .lifetimeNotPositive)) ∧
    ∀ issuer, c.issuer = .ok issuer →
      issuer.lifetime = c.lifetimeMinutes.toInt * 60000 ∧
      (∀ p now, 0 ≤ now →
        (issuer.issue? p now = none ↔ Clock.latest < now + issuer.lifetime) ∧
        ∀ token, issuer.issue? p now = some token → 60000 ≤ now →
          ∃ claims, issuer.verify token now = some claims ∧ claims.id = p.id ∧
            claims.name = p.name) ∧
      ((∀ p now, 0 ≤ now → now ≤ endOf9999 → (issuer.issue? p now).isSome) ↔
        c.lifetimeMinutes.toInt ≤ mostIssuable) := by
  refine ⟨?overflow, ?error, ?ok⟩
  case overflow =>
    rw [issuer_eq_overflow_iff, fits_iff]
    omega
  case error =>
    intro e
    rw [issuer_eq_error_iff]
    have hsign : c.lifetime ≤ 0 ↔ c.lifetimeMinutes.toInt ≤ 0 := by
      unfold lifetime Duration
      omega
    rw [hsign]
  case ok =>
    intro issuer hissuer
    obtain ⟨-, -, -, hlifetime⟩ := issuer_eq_ok_iff.1 hissuer
    refine ⟨hlifetime, fun p now hnow => ⟨Issuer.issue?_eq_none_iff hnow, fun token htoken hlate =>
      Issuer.verify_at_issue htoken hlate⟩, ?_⟩
    have hissues : ∀ p now, 0 ≤ now →
        ((issuer.issue? p now).isSome ↔ now + c.lifetime ≤ Clock.latest) := by
      intro p now hnow
      rw [Option.isSome_iff_ne_none, ne_eq, Issuer.issue?_eq_none_iff hnow, hlifetime]
      exact Int.not_lt
    constructor
    · intro h
      -- the latest instant is the hardest
      have hlast := (hissues ⟨"", "", 0, none, "", false, ""⟩ endOf9999 (by decide)).1
        (h _ _ (by decide) (Int.le_refl _))
      unfold lifetime endOf9999 Clock.latest Instant Duration at hlast
      unfold mostIssuable
      omega
    · intro h p now hnow hend
      refine (hissues p now hnow).2 ?_
      unfold lifetime endOf9999 Clock.latest mostIssuable Instant Duration at *
      omega

/-- Settings whose tokens still expire within the calendar if they are issued in the year 9999. -/
def longestIssuable : Settings := ⟨"secret", some "", 132614409600⟩

theorem longestIssuable_issues :
    ∃ issuer token claims, longestIssuable.issuer = .ok issuer ∧
      (0 : Instant) ≤ endOf9999 ∧ endOf9999 ≤ endOf9999 ∧ (60000 : Instant) ≤ endOf9999 ∧
      issuer.issue? Issuer.quotedName endOf9999 = some token ∧
      issuer.verify token endOf9999 = some claims ∧ claims.id = Issuer.quotedName.id := by
  have haccepted : ∃ issuer, longestIssuable.issuer = .ok issuer := ⟨_, rfl⟩
  obtain ⟨issuer, hissuer⟩ := haccepted
  obtain ⟨-, hwrites, hall⟩ := (accepted_issue_within_calendar longestIssuable).2.2 issuer hissuer
  have hsome := hall.2 (by decide) Issuer.quotedName endOf9999 (by decide) (Int.le_refl _)
  obtain ⟨token, htoken⟩ := Option.isSome_iff_exists.1 hsome
  obtain ⟨claims, hverify, hid, -⟩ :=
    (hwrites Issuer.quotedName endOf9999 (by decide)).2 token htoken (by decide)
  exact ⟨issuer, token, claims, hissuer, by decide, Int.le_refl _, by decide, htoken, hverify, hid⟩

/-- A lifetime that is not positive overflows before it is refused, and one of some hundred thousand
years is accepted although no token can be issued in the year 2023. -/
theorem ageLong_lifetimes_not_refused :
    (⟨"secret", none, -153722867280913⟩ : Settings).issuer = .overflow ∧
    ∃ issuer, (⟨"secret", none, 200000000000⟩ : Settings).issuer = .ok issuer ∧
      (60000 : Instant) ≤ 1700000000000 ∧ 1700000000000 ≤ endOf9999 ∧
      issuer.issue? Issuer.quotedName 1700000000000 = none := by
  refine ⟨rfl, _, rfl, by decide, by decide, ?_⟩
  exact (Issuer.issue?_eq_none_iff (by decide)).2 (by decide)

end Settings

end Latchkey
