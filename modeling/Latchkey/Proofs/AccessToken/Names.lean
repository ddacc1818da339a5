/-
Whom an access token names. A token determines its claims, and so no token makes claims about two
accounts (`names_unique`).
-/
import Latchkey.Proofs.AccessToken.Written

namespace Latchkey.Issuer

variable {issuer : Issuer}

/-- An access token that makes claims about the account `id`. -/
def Names (issuer : Issuer) (access id : String) : Prop :=
  ∃ claims : Claims, claims.id = id ∧ access = issuer.tokenOf claims

theorem names_of_issue? {p : Profile} {now : Instant} {access : String}
    (h : issuer.issue? p now = some access) : issuer.Names access p.id := by
  obtain ⟨claims, hc, rfl⟩ := Option.map_eq_some_iff.1 h
  obtain ⟨e, -, hc⟩ := Option.bind_eq_some_iff.1 hc
  cases hc
  exact ⟨_, rfl, rfl⟩

/-- A token names one account. -/
theorem names_unique {access a b : String} (ha : issuer.Names access a)
    (hb : issuer.Names access b) : a = b := by
  obtain ⟨c, rfl, hc⟩ := ha
  obtain ⟨d, rfl, hd⟩ := hb
  rw [tokenOf_inj (hc.symm.trans hd)]

end Latchkey.Issuer
