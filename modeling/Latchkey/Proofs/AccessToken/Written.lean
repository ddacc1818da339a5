/-
Tokens are read as they were written: the header is accepted, the payload gives its claims
(`claimsOf?_claims`) and the three parts can be told apart (`parts_sign`), so that a token
determines the claims that it makes (`tokenOf_inj`).
-/
import Latchkey.AccessToken.Signed
import Latchkey.Proofs.Digest.Base64
import Latchkey.Proofs.Json.WrittenRecord

namespace Latchkey

namespace AccessToken

open Json
open RecordField (text_written nullableText_written signed64_written)

/-! ## Header and payload -/

theorem acceptsHeader_written : acceptsHeader (Bytes.ofString headerJson.render) = true := by
  have hgathers : Reader.Gathers Header.form.fields Reader.passOver []
      (Value.documents [("typ", .text "JWT"), ("alg", .text algorithm)])
      [("typ", .text "JWT"), ("alg", .text algorithm)] :=
    .written rfl rfl (nullableText_written .omittable "typ" "JWT")
      (.written rfl rfl (fun _ => rfl) .none_written)
  rw [acceptsHeader, headerJson, Form.decode_written hgathers rfl]
  rfl

theorem decode_claims (c : Claims) :
    Claims.form.decode (Bytes.ofString c.toJson.render) = .ok c := by
  have hgathers : Reader.Gathers Claims.form.fields Reader.passOver []
      (Value.documents [("id", .text c.id), ("name", .text c.name),
        ("exp", .integer c.expiresAt.toInt), ("iat", .integer c.issuedAt.toInt)])
      [("id", .text c.id), ("name", .text c.name), ("exp", .signed64 c.expiresAt),
        ("iat", .signed64 c.issuedAt)] :=
    .written rfl rfl (text_written .required "id" c.id)
      (.written rfl rfl (text_written .required "name" c.name)
        (.written rfl rfl (signed64_written "exp" c.expiresAt)
          (.written rfl rfl (signed64_written "iat" c.issuedAt) .none_written)))
  exact Form.decode_written hgathers rfl

theorem acceptsRegistered_claims (c : Claims) :
    acceptsRegistered (Bytes.ofString c.toJson.render) = decide (0 ≤ c.expiresAt.toInt) := by
  have hgathers : Reader.Gathers
      [Registered.expiry, Registered.notBefore, Registered.subject, Registered.issuer,
        Registered.audience] Reader.passOver []
      (Value.documents [("id", .text c.id), ("name", .text c.name),
        ("exp", .integer c.expiresAt.toInt), ("iat", .integer c.issuedAt.toInt)])
      [("exp", .signed64 c.expiresAt)] :=
    .ignored rfl (.ignored rfl (.written rfl rfl (signed64_written "exp" c.expiresAt)
      (.ignored rfl .none_written)))
  have hread : Registered.read.Takes c.toJson.tokens [("exp", .signed64 c.expiresAt)] := by
    obtain ⟨ts, htokens, hobject⟩ := Reader.object_written hgathers rfl
    rw [Claims.toJson, htokens]
    exact hobject
  rw [acceptsRegistered, decode_render hread]
  exact Bool.and_true _

/-- The payload that makes certain claims is read as them, unless they expired before 1970. -/
theorem claimsOf?_claims (c : Claims) :
    claimsOf? (Bytes.ofString c.toJson.render) = if 0 ≤ c.expiresAt.toInt then some c else none := by
  rw [claimsOf?, decode_claims, acceptsRegistered_claims]
  exact if_congr decide_eq_true_iff rfl rfl

/-! ## The parts of a token -/

theorem urlSafe_symbols : ∀ b ∈ Base64.Alphabet.urlSafe.symbols, b.toNat < 128 ∧ b ≠ separator := by
  decide +kernel

theorem of_mem_encode {bytes : Bytes} {b : UInt8} (h : b ∈ encode bytes) :
    b.toNat < 128 ∧ b ≠ separator :=
  urlSafe_symbols b (Base64.mem_symbols_of_mem_encode _ h)

theorem decode?_encode (bytes : Bytes) : decode? (encode bytes) = some bytes := by
  have hpadding : Base64.padding ∉ Base64.Alphabet.urlSafe.symbols := by decide +kernel
  rw [decode?, encode, Base64.decode_encode _ hpadding]
  rfl

theorem splitLast_of_not_mem {bytes : Bytes} (h : separator ∉ bytes) : splitLast bytes = none := by
  induction bytes with
  | nil => rfl
  | cons b rest ih =>
    rw [List.mem_cons, not_or] at h
    rw [splitLast, ih h.2]
    exact if_neg (Ne.symm h.1)

theorem splitLast_append {behind : Bytes} (h : separator ∉ behind) (before : Bytes) :
    splitLast (before ++ separator :: behind) = some (before, behind) := by
  induction before with
  | nil =>
    rw [List.nil_append, splitLast, splitLast_of_not_mem h]
    exact if_pos rfl
  | cons b before ih => rw [List.cons_append, splitLast, ih]

theorem separator_not_mem_encode (bytes : Bytes) : separator ∉ encode bytes :=
  fun h => (of_mem_encode h).2 rfl

/-- A token is split into its three parts. -/
theorem parts_sign (secret header payload : Bytes) :
    Parts.of? (sign secret header payload) =
      some ⟨encode header, encode payload,
        signature secret (encode header ++ separator :: encode payload)⟩ := by
  rw [Parts.of?, sign, signature]
  simp only [bind, Option.bind, splitLast_append (separator_not_mem_encode _)]
  rfl

theorem lt_of_mem_sign {secret header payload : Bytes} {b : UInt8}
    (h : b ∈ sign secret header payload) : b.toNat < 128 := by
  rw [sign, signature] at h
  simp only [List.mem_append, List.mem_cons] at h
  rcases h with (h | rfl | h) | rfl | h
  · exact (of_mem_encode h).1
  · decide
  · exact (of_mem_encode h).1
  · decide
  · exact (of_mem_encode h).1

end AccessToken

namespace Issuer

open AccessToken

variable {issuer : Issuer}

theorem ofString_tokenOf (issuer : Issuer) (c : Claims) :
    Bytes.ofString (issuer.tokenOf c) =
      sign issuer.signingSecret (Bytes.ofString headerJson.render) (Bytes.ofString c.toJson.render) :=
  Bytes.ofString_toAscii fun _ => lt_of_mem_sign

/-- A token determines the claims that it makes. -/
theorem tokenOf_inj {c d : Claims} (h : issuer.tokenOf c = issuer.tokenOf d) : c = d := by
  have hparts := congrArg (fun token => Parts.of? (Bytes.ofString token)) h
  simp only [ofString_tokenOf, parts_sign, Option.some.injEq, Parts.mk.injEq] at hparts
  have hpayload := congrArg decode? hparts.2.1
  rw [decode?_encode, decode?_encode, Option.some.injEq] at hpayload
  have hclaims := congrArg Claims.form.decode hpayload
  rw [decode_claims, decode_claims] at hclaims
  exact Except.ok.inj hclaims

end Issuer

end Latchkey
