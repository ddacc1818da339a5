/-
Access tokens are not malleable. What an issuer accepts has three parts over the alphabet of
base64url, is signed with its secret and says the one algorithm in use; the middle part determines
the claims, no other signature will do, and time only takes the acceptance away
(`accepted_rigid`).
-/
import Latchkey.Proofs.AccessToken.Header
import Latchkey.Proofs.AccessToken.RoundTrip
import Mathlib.Data.Option.Basic

namespace Latchkey

open Json

namespace AccessToken

/-! ## Splitting -/

theorem not_mem_of_splitLast_none {bytes : Bytes} (h : splitLast bytes = none) :
    separator ∉ bytes := by
  induction bytes with
  | nil => exact List.not_mem_nil
  | cons b rest ih =>
    rw [splitLast] at h
    split at h
    · contradiction
    · rename_i hrest
      split at h
      · contradiction
      · rename_i hb
        rw [List.mem_cons, not_or]
        exact ⟨Ne.symm hb, ih hrest⟩

theorem splitLast_eq_some_iff {bytes before behind : Bytes} :
    splitLast bytes = some (before, behind) ↔
      bytes = before ++ separator :: behind ∧ separator ∉ behind := by
  constructor
  · intro h
    induction bytes generalizing before with
    | nil => contradiction
    | cons b rest ih =>
      rw [splitLast] at h
      split at h
      · rename_i before' behind' hrest
        cases h
        obtain ⟨rfl, hbehind⟩ := ih hrest
        exact ⟨rfl, hbehind⟩
      · rename_i hrest
        split at h
        · rename_i hb
          cases h
          exact ⟨by rw [hb]; rfl, not_mem_of_splitLast_none hrest⟩
        · contradiction
  · rintro ⟨rfl, hbehind⟩
    exact splitLast_append hbehind before

/-- A text is split into three parts of which only the first may have more separators. -/
theorem of?_eq_some_iff {token : Bytes} {p : Parts} :
    Parts.of? token = some p ↔ token = p.message ++ separator :: p.signature ∧
      separator ∉ p.payload ∧ separator ∉ p.signature := by
  constructor
  · intro h
    obtain ⟨⟨message, signature⟩, hlast, h⟩ := Option.bind_eq_some_iff.1 h
    obtain ⟨⟨header, payload⟩, hfirst, h⟩ := Option.bind_eq_some_iff.1 h
    cases h
    obtain ⟨rfl, hsignature⟩ := splitLast_eq_some_iff.1 hlast
    obtain ⟨rfl, hpayload⟩ := splitLast_eq_some_iff.1 hfirst
    exact ⟨rfl, hpayload, hsignature⟩
  · rintro ⟨rfl, hpayload, hsignature⟩
    rw [Parts.of?, splitLast_append hsignature]
    show (splitLast p.message).bind _ = _
    rw [Parts.message, splitLast_append hpayload]
    rfl

/-- The bytes of a part of a token: at least one symbol of base64url, and nothing else. -/
def IsPart (part : Bytes) : Prop := part ≠ [] ∧ ∀ b ∈ part, b ∈ Base64.Alphabet.urlSafe.symbols

theorem IsPart.separator_not_mem {part : Bytes} (h : IsPart part) : separator ∉ part :=
  fun hmem => (urlSafe_symbols _ (h.2 _ hmem)).2 rfl

theorem mem_symbols_of_decode? {text bytes : Bytes} (h : decode? text = some bytes) :
    ∀ b ∈ text, b ∈ Base64.Alphabet.urlSafe.symbols := by
  cases hdecode : Base64.decode .urlSafe text with
  | error fault =>
    rw [decode?, hdecode] at h
    contradiction
  | ok decoded => exact Base64.mem_symbols_of_decode _ hdecode

theorem acceptsHeader_nil : acceptsHeader [] = false := by
  rw [acceptsHeader, Form.decode, Json.decode, Token.all_of_next?_none rfl]
  rfl

theorem claimsOf?_nil : claimsOf? [] = none := by
  rw [claimsOf?, Form.decode, Json.decode, Token.all_of_next?_none rfl]
  rfl

theorem isPart_signature (secret message : Bytes) : IsPart (signature secret message) := by
  refine ⟨fun h => ?_, fun _ => Base64.mem_symbols_of_mem_encode _⟩
  have hlength := congrArg List.length h
  rw [signature, encode, Base64.length_encode, Sha256.length_hmac] at hlength
  contradiction

/-- A text is split at the first separator in one way. -/
theorem append_separator_inj {a b x y : Bytes} (ha : separator ∉ a) (hb : separator ∉ b)
    (h : a ++ separator :: x = b ++ separator :: y) : a = b ∧ x = y := by
  induction a generalizing b with
  | nil =>
    cases b with
    | nil => exact ⟨rfl, (List.cons.inj h).2⟩
    | cons c b => exact absurd (List.mem_cons.2 (Or.inl (List.cons.inj h).1)) hb
  | cons c a ih =>
    cases b with
    | nil => exact absurd (List.mem_cons.2 (Or.inl (List.cons.inj h).1.symm)) ha
    | cons d b =>
      obtain ⟨rfl, hrest⟩ := List.cons.inj h
      rw [List.mem_cons, not_or] at ha hb
      obtain ⟨rfl, rfl⟩ := ih ha.2 hb.2 hrest
      exact ⟨rfl, rfl⟩

/-- What has no separators before the last part is split in one way. -/
theorem parts_inj {p p' : Parts} {mac : Bytes} (hheader : separator ∉ p.header)
    (hpayload : separator ∉ p.payload) (hheader' : separator ∉ p'.header)
    (hpayload' : separator ∉ p'.payload)
    (h : p'.message ++ separator :: p'.signature = p.message ++ separator :: mac) :
    p'.message = p.message ∧ p'.signature = mac := by
  rw [Parts.message, Parts.message, List.append_assoc, List.append_assoc] at h
  obtain ⟨hheaders, hrest⟩ := append_separator_inj hheader' hheader h
  obtain ⟨hpayloads, hsignatures⟩ := append_separator_inj hpayload' hpayload hrest
  exact ⟨by rw [Parts.message, Parts.message, hheaders, hpayloads], hsignatures⟩

end AccessToken

namespace Issuer

open AccessToken

variable {issuer : Issuer} {token : String} {now : Instant} {claims : Claims} {p : Parts}

/-! ## Signed parts -/

/-- The issuer signed these parts, whose header is accepted and whose payload makes the claims,
whether or not they still hold. -/
structure Signs (issuer : Issuer) (p : Parts) (claims : Claims) : Prop where
  header : ∃ header, decode? p.header = some header ∧ acceptsHeader header = true
  signature_eq : p.signature = signature issuer.signingSecret p.message
  payload : ∃ payload, decode? p.payload = some payload ∧ claimsOf? payload = some claims

/-- A token is accepted for as long as the claims hold that the issuer signed. -/
theorem verify_eq_some_iff :
    issuer.verify token now = some claims ↔ ∃ p, Parts.of? (Bytes.ofString token) = some p ∧
      issuer.Signs p claims ∧ ¬ expired claims.expiresAt now := by
  constructor
  · intro h
    obtain ⟨p, hp, h⟩ := Option.bind_eq_some_iff.1 h
    obtain ⟨header, hheader, h⟩ := Option.bind_eq_some_iff.1 h
    obtain ⟨_, haccepts, h⟩ := Option.bind_eq_some_iff.1 h
    obtain ⟨_, hsignature, h⟩ := Option.bind_eq_some_iff.1 h
    obtain ⟨payload, hpayload, h⟩ := Option.bind_eq_some_iff.1 h
    obtain ⟨c, hclaims, h⟩ := Option.bind_eq_some_iff.1 h
    obtain ⟨_, hexpired, h⟩ := Option.bind_eq_some_iff.1 h
    cases h
    simp only [Option.guard_eq_some'] at haccepts hsignature hexpired
    exact ⟨p, hp, ⟨⟨header, hheader, haccepts⟩, hsignature, ⟨payload, hpayload, hclaims⟩⟩, hexpired⟩
  · rintro ⟨p, hp, ⟨⟨header, hheader, haccepts⟩, hsignature, ⟨payload, hpayload, hclaims⟩⟩, hexpired⟩
    rw [verify, hp]
    simp [hheader, haccepts, hsignature, hpayload, hclaims, hexpired, guard]

/-- The parts that an issuer writes are signed. -/
theorem signs_encode {header payload : Bytes} (hheader : acceptsHeader header = true)
    (hpayload : claimsOf? payload = some claims) :
    issuer.Signs ⟨encode header, encode payload,
      signature issuer.signingSecret (encode header ++ separator :: encode payload)⟩ claims where
  header := ⟨header, decode?_encode header, hheader⟩
  signature_eq := rfl
  payload := ⟨payload, decode?_encode payload, hpayload⟩

namespace Signs

theorem isPart_header (h : issuer.Signs p claims) : IsPart p.header := by
  obtain ⟨header, hdecode, haccepts⟩ := h.header
  refine ⟨fun hnil => ?_, mem_symbols_of_decode? hdecode⟩
  rw [hnil] at hdecode
  cases hdecode
  rw [acceptsHeader_nil] at haccepts
  contradiction

theorem isPart_payload (h : issuer.Signs p claims) : IsPart p.payload := by
  obtain ⟨payload, hdecode, hclaims⟩ := h.payload
  refine ⟨fun hnil => ?_, mem_symbols_of_decode? hdecode⟩
  rw [hnil] at hdecode
  cases hdecode
  rw [claimsOf?_nil] at hclaims
  contradiction

theorem isPart_signature (h : issuer.Signs p claims) : IsPart p.signature :=
  h.signature_eq ▸ AccessToken.isPart_signature _ _

/-- The payload alone determines the claims, whoever signed it. -/
theorem claims_unique {issuer' : Issuer} {claims' : Claims} {p' : Parts}
    (h : issuer.Signs p claims) (h' : issuer'.Signs p' claims') (hpayload : p'.payload = p.payload) :
    claims' = claims := by
  obtain ⟨payload, hdecode, hclaims⟩ := h.payload
  obtain ⟨payload', hdecode', hclaims'⟩ := h'.payload
  rw [hpayload, hdecode, Option.some.injEq] at hdecode'
  subst hdecode'
  exact Option.some.inj (hclaims'.symm.trans hclaims)

/-- What is signed determines the signature. -/
theorem signature_unique {claims' : Claims} {p' : Parts} (h : issuer.Signs p claims)
    (h' : issuer.Signs p' claims') (hmessage : p'.message = p.message) :
    p'.signature = p.signature := by
  rw [h.signature_eq, h'.signature_eq, hmessage]

end Signs

theorem signs_of_verify (h : issuer.verify token now = some claims)
    (hp : Parts.of? (Bytes.ofString token) = some p) : issuer.Signs p claims := by
  obtain ⟨q, hq, hsigns, -⟩ := verify_eq_some_iff.1 h
  obtain rfl := Option.some.inj (hq.symm.trans hp)
  exact hsigns

/-- A token with the signed parts in front of anything else than the signature is refused. -/
theorem verify_of_signature_ne {mac : Bytes} (h : issuer.Signs p claims)
    (htoken : Bytes.ofString token = p.message ++ separator :: mac) (hmac : mac ≠ p.signature)
    (now : Instant) : issuer.verify token now = none := by
  cases hverify : issuer.verify token now with
  | none => rfl
  | some claims' =>
    obtain ⟨p', hp', h', -⟩ := verify_eq_some_iff.1 hverify
    obtain ⟨htoken', -, -⟩ := of?_eq_some_iff.1 hp'
    obtain ⟨hmessage, rfl⟩ := parts_inj h.isPart_header.separator_not_mem
      h.isPart_payload.separator_not_mem h'.isPart_header.separator_not_mem
      h'.isPart_payload.separator_not_mem (htoken'.symm.trans htoken)
    exact absurd (h.signature_unique h' hmessage) hmac

/-- A token that is accepted was accepted before. -/
theorem verify_of_le {earlier : Instant} (h : issuer.verify token now = some claims)
    (hle : earlier ≤ now) : issuer.verify token earlier = some claims := by
  obtain ⟨p, hp, hsigns, hexpired⟩ := verify_eq_some_iff.1 h
  refine verify_eq_some_iff.2 ⟨p, hp, hsigns, ?_⟩
  rw [expired, decide_eq_true_iff] at hexpired ⊢
  unfold Clock.seconds Instant at *
  omega

/-! ## Accepted tokens -/

/-- The issuer accepts the token with these claims, a minute after the beginning of 1970 or
later. -/
def Accepts (issuer : Issuer) (token : String) (now : Instant) (claims : Claims) : Prop :=
  60000 ≤ now ∧ issuer.verify token now = some claims

/-- What a token is that is accepted, and what becomes of it if it is changed. -/
structure IsRigid (issuer : Issuer) (token : String) (now : Instant) (claims : Claims)
    (p : Parts) : Prop where
  token_eq : Bytes.ofString token = p.message ++ separator :: p.signature
  areParts : IsPart p.header ∧ IsPart p.payload ∧ IsPart p.signature
  signature_eq : p.signature = encode (Sha256.hmac issuer.signingSecret p.message)
  algorithm : ∃ (header : Bytes) (d : Document), decode? p.header = some header ∧
    d.Spells header ∧ StatesAlgorithm d
  /-- The middle part alone determines the claims, whoever accepts it and when. -/
  claims_eq : ∀ (issuer' : Issuer) (token' : String) (now' : Instant) (claims' : Claims)
    (p' : Parts), issuer'.Accepts token' now' claims' →
    Parts.of? (Bytes.ofString token') = some p' → p'.payload = p.payload → claims' = claims
  /-- No other token with the same text before the last separator is accepted. -/
  unique : ∀ (token' : String) (now' : Instant) (claims' : Claims) (p' : Parts),
    issuer.Accepts token' now' claims' → Parts.of? (Bytes.ofString token') = some p' →
    p'.message = p.message → token' = token
  /-- A token with anything else in the place of the signature is refused at all times. -/
  refused : ∀ (token' : String) (mac : Bytes),
    Bytes.ofString token' = p.message ++ separator :: mac → mac ≠ p.signature →
    ∀ now', issuer.verify token' now' = none
  earlier : ∀ now', 60000 ≤ now' → now' ≤ now → issuer.Accepts token now' claims
  /-- Once it has expired it stays so. -/
  expires : ∀ now' later, 60000 ≤ now' → now' ≤ later → issuer.verify token now' = none →
    issuer.verify token later = none

/-- Nothing about an accepted token can be changed. -/
theorem accepted_rigid (h : issuer.Accepts token now claims) :
    ∃ p, issuer.IsRigid token now claims p := by
  obtain ⟨hnow, hverify⟩ := h
  obtain ⟨p, hparts, hsigns, -⟩ := verify_eq_some_iff.1 hverify
  obtain ⟨htoken, -, -⟩ := of?_eq_some_iff.1 hparts
  refine ⟨p, htoken, ⟨hsigns.isPart_header, hsigns.isPart_payload, hsigns.isPart_signature⟩,
    hsigns.signature_eq, ?algorithm, ?claims_eq, ?unique, ?refused, ?earlier, ?expires⟩
  case algorithm =>
    obtain ⟨header, hdecode, haccepts⟩ := hsigns.header
    obtain ⟨d, hspells, hstates⟩ := exists_spells_of_acceptsHeader haccepts
    exact ⟨header, d, hdecode, hspells, hstates⟩
  case claims_eq =>
    rintro issuer' token' now' claims' p' ⟨-, hverify'⟩ hparts' hpayload
    exact hsigns.claims_unique (signs_of_verify hverify' hparts') hpayload
  case unique =>
    rintro token' now' claims' p' ⟨-, hverify'⟩ hparts' hmessage
    obtain ⟨htoken', -, -⟩ := of?_eq_some_iff.1 hparts'
    have hsignature := hsigns.signature_unique (signs_of_verify hverify' hparts') hmessage
    refine Bytes.ofString_injective ?_
    rw [htoken', htoken, hmessage, hsignature]
  case refused => exact fun token' mac htoken' hmac => verify_of_signature_ne hsigns htoken' hmac
  case earlier => exact fun now' hnow' hle => ⟨hnow', verify_of_le hverify hle⟩
  case expires =>
    intro now' later _ hle hnone
    rw [Option.eq_none_iff_forall_ne_some] at hnone ⊢
    exact fun claims' hlater => hnone claims' (verify_of_le hlater hle)

/-- Claims that hold for a quarter of an hour from the beginning of 1970 on. -/
def firstClaims : Claims := ⟨"id", "name", 900, 0⟩

theorem firstClaims_rigid :
    quarterHour.Accepts (quarterHour.tokenOf firstClaims) 60000 firstClaims ∧
    ∃ p, quarterHour.IsRigid (quarterHour.tokenOf firstClaims) 60000 firstClaims p := by
  have haccepts : quarterHour.Accepts (quarterHour.tokenOf firstClaims) 60000 firstClaims := by
    refine ⟨Int.le_refl _, ?_⟩
    rw [verify_tokenOf]
    exact if_pos (by decide)
  exact ⟨haccepts, accepted_rigid haccepts⟩

/-! ## Headers that are lists -/

/-- A header that says only the algorithm, as a list. -/
def listHeader : Bytes :=
  Bytes.ofString "[null,\"HS256\",null,null,null,null,null,null,null,null]"

theorem listHeader_spelled :
    (Document.list (.null :: .text (.ok algorithm) :: List.replicate 8 .null)).Spells
      listHeader := by
  have hname : Quotation.Spells (Bytes.ofString algorithm) (Bytes.ofString algorithm) :=
    Quotation.spells_plain (by decide +kernel)
  have hnull := Token.Spells.comma.spellAll.append Token.Spells.null.spellAll
  exact Token.Spells.openList.spellAll.append <| Token.Spells.null.spellAll.append <|
    Token.Spells.comma.spellAll.append <| (Token.Spells.text (.readable hname)).spellAll.append <|
    hnull.append <| hnull.append <| hnull.append <| hnull.append <| hnull.append <|
    hnull.append <| hnull.append <| hnull.append Token.Spells.closeList.spellAll

/-- The token with the header that is a list. -/
def listToken : String :=
  Bytes.toAscii (sign quarterHour.signingSecret listHeader
    (Bytes.ofString firstClaims.toJson.render))

theorem listToken_parts :
    Parts.of? (Bytes.ofString listToken) =
      some ⟨encode listHeader, encode (Bytes.ofString firstClaims.toJson.render),
        signature quarterHour.signingSecret
          (encode listHeader ++ separator :: encode (Bytes.ofString firstClaims.toJson.render))⟩ := by
  rw [listToken, Bytes.ofString_toAscii fun _ => lt_of_mem_sign, parts_sign]

/-- A token is accepted although its header is no object. -/
theorem listToken_accepted :
    quarterHour.Accepts listToken 60000 firstClaims ∧
    ∀ p header ms, Parts.of? (Bytes.ofString listToken) = some p →
      decode? p.header = some header → ¬ (Document.object ms).Spells header := by
  have hheader : acceptsHeader listHeader = true := by
    rw [acceptsHeader, Form.decode, Json.decode, Document.spells_iff.1 listHeader_spelled]
    rfl
  have hpayload : claimsOf? (Bytes.ofString firstClaims.toJson.render) = some firstClaims := by
    rw [claimsOf?_claims]
    exact if_pos (by decide)
  refine ⟨⟨Int.le_refl _, ?_⟩, ?_⟩
  · exact verify_eq_some_iff.2 ⟨_, listToken_parts, signs_encode hheader hpayload, by decide⟩
  · intro p header ms hp hdecode hspells
    obtain rfl := Option.some.inj (listToken_parts.symm.trans hp)
    obtain rfl := Option.some.inj ((decode?_encode _).symm.trans hdecode)
    cases hspells.unique listHeader_spelled

end Issuer

end Latchkey
