/-
A token comes back as the claims that it was issued with. The issuer verifies the token that makes
certain claims to these claims as long as they have not expired (`verify_tokenOf`), and so a token
is worth what it says until a minute after its expiry (`issued_verified_within_window`).
-/
import Latchkey.Proofs.AccessToken.Written

namespace Latchkey.Issuer

open AccessToken

variable (issuer : Issuer)

/-- The token that makes certain claims is verified to them, as long as they have not expired. -/
theorem verify_tokenOf (c : Claims) (t : Instant) :
    issuer.verify (issuer.tokenOf c) t =
      if 0 ≤ c.expiresAt.toInt ∧ ¬ expired c.expiresAt t then some c else none := by
  rw [verify, ofString_tokenOf, parts_sign]
  unfold guard
  simp only [bind, Option.bind, decode?_encode, acceptsHeader_written, Parts.message,
    claimsOf?_claims]
  by_cases hsince : 0 ≤ c.expiresAt.toInt
  · by_cases hexpired : expired c.expiresAt t
    · simp only [hsince, hexpired, if_true, not_true_eq_false, and_false, if_false]
      rfl
    · simp [hsince, hexpired]
  · simp [hsince]

variable {issuer} {p : Profile} {t₀ t : Instant} {token : String}

/-- The claims of a token in whole seconds: no instant of the calendar is too far for them. -/
theorem claims_of_issue? (h : issuer.issue? p t₀ = some token) :
    ∃ claims : Claims, token = issuer.tokenOf claims ∧ claims.id = p.id ∧ claims.name = p.name ∧
      claims.expiresAt.toInt = Clock.seconds (t₀ + issuer.lifetime) ∧
      claims.issuedAt = Int64.ofInt (Clock.seconds t₀) := by
  obtain ⟨claims, hclaims, rfl⟩ := Option.map_eq_some_iff.1 h
  obtain ⟨e, he, hclaims⟩ := Option.bind_eq_some_iff.1 hclaims
  cases hclaims
  obtain ⟨rfl, hearliest, hlatest⟩ := Clock.shift?_eq_some_iff.1 he
  refine ⟨_, rfl, rfl, rfl, Int64.toInt_ofInt_of_le ?_ ?_, rfl⟩
  · unfold Clock.earliest Clock.seconds Instant at *
    omega
  · unfold Clock.latest Clock.seconds Instant at *
    omega

/-- From a minute after the beginning of 1970 on, a token that was issued is verified to its claims
until a minute after its expiry. -/
theorem verify_of_issue? (h : issuer.issue? p t₀ = some token) (ht : 60000 ≤ t) :
    ∃ claims : Claims, token = issuer.tokenOf claims ∧ claims.id = p.id ∧ claims.name = p.name ∧
      claims.expiresAt.toInt = Clock.seconds (t₀ + issuer.lifetime) ∧
      claims.issuedAt = Int64.ofInt (Clock.seconds t₀) ∧
      issuer.verify token t =
        if Clock.seconds t ≤ Clock.seconds (t₀ + issuer.lifetime) + leeway then some claims
        else none := by
  obtain ⟨claims, rfl, hid, hname, hexpiry, hissue⟩ := claims_of_issue? h
  refine ⟨claims, rfl, hid, hname, hexpiry, hissue, ?_⟩
  rw [verify_tokenOf]
  refine if_congr ?_ rfl rfl
  -- a token that expired before 1970 has expired by now
  rw [expired, decide_eq_true_iff, hexpiry]
  unfold Clock.seconds leeway Instant at *
  omega

/-- No token is issued that would expire beyond the calendar. -/
theorem issue?_eq_none_iff (h₀ : 0 ≤ t₀) :
    issuer.issue? p t₀ = none ↔ Clock.latest < t₀ + issuer.lifetime := by
  have hpos := issuer.lifetime_pos
  have hshift : Clock.shift? t₀ issuer.lifetime = none ↔ Clock.latest < t₀ + issuer.lifetime := by
    rw [Clock.shift?_eq_none_iff]
    unfold Clock.earliest Instant Duration at *
    omega
  rw [issue?, Option.map_eq_none_iff, claimsAt?, ← hshift]
  cases Clock.shift? t₀ issuer.lifetime <;> simp

/-- A token is accepted at the instant at which it is issued. -/
theorem verify_at_issue (h : issuer.issue? p t₀ = some token) (h₀ : 60000 ≤ t₀) :
    ∃ claims, issuer.verify token t₀ = some claims ∧ claims.id = p.id ∧ claims.name = p.name := by
  obtain ⟨claims, -, hid, hname, -, -, hverify⟩ := verify_of_issue? h h₀
  have hpos := issuer.lifetime_pos
  refine ⟨claims, hverify.trans (if_pos ?_), hid, hname⟩
  unfold Clock.seconds leeway Instant Duration at *
  omega

/-- A token makes exactly the claims of the profile that it was issued for, in whole seconds, and
the issuer verifies it to them until a minute after its expiry and not any longer. -/
theorem issued_verified_within_window (issuer : Issuer) (p : Profile) {t₀ t : Instant} (h₀ : 0 ≤ t₀)
    (hrange : t₀ + issuer.lifetime ≤ Clock.latest) (ht : 60000 ≤ t) :
    ∃ token claims, issuer.issue? p t₀ = some token ∧
      claims.id = p.id ∧ claims.name = p.name ∧
      claims.expiresAt.toInt = (t₀ + issuer.lifetime) / 1000 ∧
      claims.issuedAt.toInt = t₀ / 1000 ∧
      issuer.verify token t =
        if t / 1000 ≤ (t₀ + issuer.lifetime) / 1000 + 60 then some claims else none := by
  have hpos := issuer.lifetime_pos
  have hshift : Clock.shift? t₀ issuer.lifetime = some (t₀ + issuer.lifetime) := by
    refine Clock.shift?_eq_some_iff.2 ⟨rfl, ?_, hrange⟩
    unfold Clock.earliest Instant Duration at *
    omega
  have hissue : ∃ token, issuer.issue? p t₀ = some token := by
    rw [issue?, claimsAt?, hshift]
    exact ⟨_, rfl⟩
  obtain ⟨token, htoken⟩ := hissue
  obtain ⟨claims, -, hid, hname, hexpiry, hissued, hverify⟩ := verify_of_issue? htoken ht
  refine ⟨token, claims, htoken, hid, hname, hexpiry, ?_, hverify⟩
  rw [hissued]
  refine Int64.toInt_ofInt_of_le ?_ ?_
  · unfold Clock.seconds Instant at *
    omega
  · unfold Clock.latest Clock.seconds Instant Duration at *
    omega

/-- The issuer of tokens that live for a quarter of an hour. -/
def quarterHour : Issuer :=
  ⟨[0x6B], [0x6B], 900000, List.cons_ne_nil _ _, List.cons_ne_nil _ _, by decide⟩

/-- A name with everything in it that is escaped. -/
def quotedName : Profile :=
  ⟨"\\id", "\"name\" \t \x01 é", 0, none, "password", false, "customer"⟩

theorem quotedName_verified :
    (0 : Instant) ≤ 999 ∧ 999 + quarterHour.lifetime ≤ Clock.latest ∧
    (60000 : Instant) ≤ 960999 ∧ (60000 : Instant) ≤ 961000 ∧
    ∃ token claims, quarterHour.issue? quotedName 999 = some token ∧
      claims.id = quotedName.id ∧ claims.name = quotedName.name ∧
      claims.expiresAt.toInt = 900 ∧ claims.issuedAt.toInt = 0 ∧
      quarterHour.verify token 960999 = some claims ∧ quarterHour.verify token 961000 = none := by
  have h₀ : (0 : Instant) ≤ 999 := by decide
  have hrange : 999 + quarterHour.lifetime ≤ Clock.latest := by decide
  obtain ⟨token, claims, htoken, hid, hname, hexpiry, hissued, hverify⟩ :=
    issued_verified_within_window quarterHour quotedName h₀ hrange
      (show (60000 : Instant) ≤ 960999 by decide)
  obtain ⟨token', _, htoken', -, -, -, -, hexpired⟩ :=
    issued_verified_within_window quarterHour quotedName h₀ hrange
      (show (60000 : Instant) ≤ 961000 by decide)
  rw [Option.some.inj (htoken'.symm.trans htoken)] at hexpired
  exact ⟨h₀, hrange, by decide, by decide, token, claims, htoken, hid, hname, hexpiry, hissued,
    hverify, hexpired⟩

end Latchkey.Issuer
