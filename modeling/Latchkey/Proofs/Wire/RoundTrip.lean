/-
What is sent can be read back: the text of a profile, of claims, of tokens and of every response is
decoded to the value that was written, whatever its texts and numbers are and whichever members it
leaves out (`wire_forms_round_trip`).
-/
import Latchkey.Proofs.AccessToken.Written
import Latchkey.Wire.Message
import Latchkey.Wire.Profile

namespace Latchkey

open Json
open RecordField (text_written nullableText_written signed32_written signed64_written flag_written)

/-- Every value is decoded from its own text, and no two values share a text. -/
structure RoundTrips {α : Type} (toJson : α → Value) (decode : Bytes → Reading α) : Prop where
  decode_render : ∀ a, decode (Bytes.ofString (toJson a).render) = .ok a
  injective : Function.Injective fun a => (toJson a).render

theorem roundTrips_of_decode {α : Type} {toJson : α → Value} {decode : Bytes → Reading α}
    (h : ∀ a, decode (Bytes.ofString (toJson a).render) = .ok a) : RoundTrips toJson decode := by
  refine ⟨h, fun a b hab => ?_⟩
  have hdecode := congrArg (fun text => decode (Bytes.ofString text)) hab
  simp only [h, Except.ok.injEq] at hdecode
  exact hdecode

/-! ## Profiles -/

theorem Subscription.gathers (s : Subscription) :
    Reader.Gathers Subscription.form.fields Reader.passOver []
      (Value.documents [("plan", .text s.plan), ("type", .text s.planType),
        ("period", .text s.period), ("status", .text s.status)])
      [("plan", .text s.plan), ("type", .text s.planType), ("period", .text s.period),
        ("status", .text s.status)] :=
  .written rfl rfl (text_written .required "plan" s.plan)
    (.written rfl rfl (text_written .required "type" s.planType)
      (.written rfl rfl (text_written .required "period" s.period)
        (.written rfl rfl (text_written .required "status" s.status) .none_written)))

theorem Subscription.decode_written (s : Subscription) :
    form.decode (Bytes.ofString s.toJson.render) = .ok s :=
  Form.decode_written s.gathers rfl

/-- What is read of the subscription of a profile. -/
def Subscription.datum : Option Subscription → Datum
  | some s => .record [("plan", .text s.plan), ("type", .text s.planType),
      ("period", .text s.period), ("status", .text s.status)]
  | none => .null

theorem Subscription.field_written (s? : Option Subscription) :
    Subscription.field.read.Takes ((s?.map Subscription.toJson).getD .null).tokens
      (Subscription.datum s?) := by
  cases s? with
  | none => exact fun _ => rfl
  | some s =>
    have hrecord := Reader.record_written form.name s.gathers rfl
    have hnullable := Reader.nullable_takes hrecord nofun
    exact hnullable.map fun members => (members.map Datum.record).getD .null

theorem Profile.decode_written (p : Profile) :
    form.decode (Bytes.ofString p.toJson.render) = .ok p := by
  have hgathers : Reader.Gathers form.fields Reader.passOver []
      (Value.documents [("id", .text p.id), ("name", .text p.name),
        ("credits", .integer p.credits.toInt),
        ("subscription", (p.subscription.map Subscription.toJson).getD .null),
        ("auth_method", .text p.authMethod), ("is_new_user", .flag p.isNewUser),
        ("customer_id", .text p.customerId)])
      [("id", .text p.id), ("name", .text p.name), ("credits", .signed32 p.credits),
        ("subscription", Subscription.datum p.subscription), ("auth_method", .text p.authMethod),
        ("is_new_user", .flag p.isNewUser), ("customer_id", .text p.customerId)] :=
    .written rfl rfl (text_written .required "id" p.id)
      (.written rfl rfl (text_written .required "name" p.name)
        (.written rfl rfl (signed32_written "credits" p.credits)
          (.written rfl rfl (Subscription.field_written p.subscription)
            (.written rfl rfl (text_written .required "auth_method" p.authMethod)
              (.written rfl rfl (flag_written "is_new_user" p.isNewUser)
                (.written rfl rfl (text_written .required "customer_id" p.customerId)
                  .none_written))))))
  rw [Profile.toJson, Form.decode_written hgathers rfl]
  obtain ⟨id, name, credits, subscription, authMethod, isNewUser, customerId⟩ := p
  cases subscription <;> rfl

/-! ## Tokens -/

theorem Tokens.decode_written (t : Tokens) :
    form.decode (Bytes.ofString t.toJson.render) = .ok t := by
  obtain ⟨access, refresh⟩ := t
  have haccess := text_written .required "access_token" access
  cases refresh with
  | none => exact Form.decode_written (.written rfl rfl haccess .none_written) rfl
  | some raw =>
    exact Form.decode_written (.written rfl rfl haccess
      (.written rfl rfl (nullableText_written .defaulted "refresh_token" raw) .none_written)) rfl

/-! ## Responses with tokens -/

namespace TokenResponse

/-- The text of a member of the tokens is kept to be read later. -/
theorem keep_text (key s : String) :
    (Reader.keep 1 key).Takes (Document.text (.ok s)).tokens
      (some (.kept [.text (.ok s) none])) := by
  have hkept : (Reader.kept 1).Takes [.text (.ok s) none] [.text (.ok s) none] :=
    Reader.kept_takes fun rest => skip_done (.strict (depthLimit - 1)) rest
  exact hkept.map fun tokens => some (Datum.kept tokens)

/-- The response's own members behind those of the tokens. -/
theorem gathers_own (r : TokenResponse) {known : Members}
    (hexpiry : (known.lookup "expires_in").isSome = false)
    (htype : ((known ++ [("expires_in", Datum.signed64 r.expiresIn)]).lookup
      "token_type").isSome = false) :
    Reader.Gathers ownFields (Reader.keep 1) known
      (Value.documents
        [("expires_in", .integer r.expiresIn.toInt), ("token_type", .text r.tokenType)])
      (known ++ [("expires_in", .signed64 r.expiresIn)] ++ [("token_type", .text r.tokenType)]) :=
  .written rfl hexpiry (signed64_written "expires_in" r.expiresIn)
    (.written rfl htype (text_written .required "token_type" r.tokenType) .none_written)

/-- A response is what its members make known: its own fields, and among the members that were kept
the tokens. -/
theorem read_takes {r : TokenResponse} {known : Members}
    (hgathers : Reader.Gathers ownFields (Reader.keep 1) []
      (Value.documents (r.tokens.members ++
        [("expires_in", .integer r.expiresIn.toInt), ("token_type", .text r.tokenType)])) known)
    (hmissing : Reader.missing? ownFields known = none)
    (htokens : tokensOf none none known = .ok r.tokens)
    (hexpiry : known.signed64At "expires_in" = r.expiresIn)
    (htype : known.textAt "token_type" = r.tokenType) :
    read.Takes r.toJson.document.tokens r := by
  intro rest
  have hobject := Reader.object_takes hgathers hmissing rest
  rw [toJson, Value.document, Document.record, Document.tokens_object, List.cons_append, read,
    hobject]
  simp only [bind, Except.bind, htokens, Json.ofExcept, hexpiry, htype]
  rfl

theorem decode_written (r : TokenResponse) :
    decode (Bytes.ofString r.toJson.render) = .ok r := by
  refine Json.decode_spelled (Value.spells_render r.toJson) ?_
  obtain ⟨⟨access, refresh⟩, expiresIn, tokenType⟩ := r
  cases refresh with
  | none =>
    exact read_takes (.other rfl (keep_text "access_token" access) (gathers_own _ rfl rfl))
      rfl rfl rfl rfl
  | some raw =>
    exact read_takes (.other rfl (keep_text "access_token" access)
      (.other rfl (keep_text "refresh_token" raw) (gathers_own _ rfl rfl))) rfl rfl rfl rfl

end TokenResponse

/-! ## Other responses -/

theorem ErrorResponse.decode_written (e : ErrorResponse) :
    form.decode (Bytes.ofString e.toJson.render) = .ok e :=
  Form.decode_written (.written rfl rfl (text_written .required "error" e.error)
    (.written rfl rfl (text_written .required "message" e.message) .none_written)) rfl

theorem LogoutResponse.decode_written (r : LogoutResponse) :
    form.decode (Bytes.ofString r.toJson.render) = .ok r :=
  Form.decode_written (.written rfl rfl (flag_written "success" r.success) .none_written) rfl

theorem HealthResponse.decode_written (r : HealthResponse) :
    form.decode (Bytes.ofString r.toJson.render) = .ok r :=
  Form.decode_written (.written rfl rfl (text_written .required "status" r.status)
    (.written rfl rfl (text_written .required "version" r.version) .none_written)) rfl

/-- Every value that is sent is read back from its text, and its text is no other value's. -/
theorem wire_forms_round_trip :
    RoundTrips Profile.toJson Profile.form.decode ∧
    RoundTrips Subscription.toJson Subscription.form.decode ∧
    RoundTrips Tokens.toJson Tokens.form.decode ∧
    RoundTrips Claims.toJson Claims.form.decode ∧
    RoundTrips TokenResponse.toJson TokenResponse.decode ∧
    RoundTrips ErrorResponse.toJson ErrorResponse.form.decode ∧
    RoundTrips LogoutResponse.toJson LogoutResponse.form.decode ∧
    RoundTrips HealthResponse.toJson HealthResponse.form.decode :=
  ⟨roundTrips_of_decode Profile.decode_written, roundTrips_of_decode Subscription.decode_written,
    roundTrips_of_decode Tokens.decode_written, roundTrips_of_decode AccessToken.decode_claims,
    roundTrips_of_decode TokenResponse.decode_written,
    roundTrips_of_decode ErrorResponse.decode_written,
    roundTrips_of_decode LogoutResponse.decode_written,
    roundTrips_of_decode HealthResponse.decode_written⟩

end Latchkey
