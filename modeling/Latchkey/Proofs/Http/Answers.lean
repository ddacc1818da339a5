/-
How a request is answered. A run of a program that is attempted ends well, whatever becomes of the
program, unless the calendar ends, and so it does while the clock goes on
(`ends_answerWith`); an error is told in a response whose body reads back as the error
(`tells_response`); and at an endpoint that takes the method of a request, the answer is that of the
endpoint (`handle_endpoint`).
-/
import Latchkey.Http.Api
import Latchkey.Proofs.Program.Alone
import Latchkey.Proofs.Wire.RoundTrip

namespace Latchkey

open Json (Form Value)

namespace Http

open Program

/-! ## Errors on the wire -/

/-- The response tells of an error, in JSON that reads back as the error. -/
def Response.Tells (response : Response) (status : Nat) (e : ErrorResponse) : Prop :=
  response = .json status e.toJson ∧
    ErrorResponse.form.decode (Bytes.ofString response.body) = .ok e

theorem tells_json (status : Nat) (e : ErrorResponse) :
    (Response.json status e.toJson).Tells status e :=
  ⟨rfl, e.decode_written⟩

theorem ApiError.tells_response (e : ApiError) : e.response.Tells e.status e.body :=
  tells_json e.status e.body

/-! ## Attempts -/

section

variable {α β σ : Type} (answer : (r : Latchkey.Request) → σ → r.Answer × σ) (now : Instant)

theorem runWith_attempt (p : Program α) (st : σ) :
    (attempt p).runWith answer now st = match p.runWith answer now st with
      | (.ok a, st') => (.ok (.ok a), st')
      | (.error e, st') => (.ok (.error (ApiError.ofAuth e)), st')
      | (.overflow, st') => (.overflow, st') := by
  unfold attempt
  rw [runWith_bind, runWith_result]
  rcases p.runWith answer now st with ⟨_ | _ | _, st'⟩ <;> rfl

/-- A body that is rejected is answered at once. -/
theorem answerWith_rejected {r : Request} {form : Form α} {rejection : Rejection}
    (h : r.read form = .error rejection) (act : α → Program β) (encode : β → Value) :
    answerWith r form act encode = .done (ApiError.invalid rejection.message).response := by
  unfold answerWith
  rw [h]
  rfl

theorem runWith_answerWith {r : Request} {form : Form α} {a : α} (h : r.read form = .ok a)
    (act : α → Program β) (encode : β → Value) (st : σ) :
    (answerWith r form act encode).runWith answer now st =
      match (act a).runWith answer now st with
      | (.ok b, st') => (.ok (.json 200 (encode b)), st')
      | (.error e, st') => (.ok (ApiError.ofAuth e).response, st')
      | (.overflow, st') => (.overflow, st') := by
  unfold answerWith
  simp only [h]
  rw [runWith_bind, runWith_attempt]
  rcases (act a).runWith answer now st with ⟨_ | _ | _, st'⟩ <;> rfl

/-- However the clock goes on, what is answered to a body that is read is what the program for it
comes to. -/
theorem ends_answerWith {shown : Instant → Prop} {r : Request} {form : Form α} {a : α}
    {act : α → Program β} {encode : β → Value} {store store' : Store} {o : Outcome Response}
    (h : r.read form = .ok a) : (answerWith r form act encode).Ends shown store o store' ↔
      ∃ ended, (act a).Ends shown store ended store' ∧ o = match ended with
        | .ok b => .ok (.json 200 (encode b))
        | .error e => .ok (ApiError.ofAuth e).response
        | .overflow => .overflow := by
  unfold answerWith attempt
  simp only [h, bind_assoc, pure_bind, ends_bind, ends_result]
  constructor
  · rintro ⟨_, _, ⟨ended, hended, rfl⟩, hgo⟩
    refine ⟨ended, ?_⟩
    cases ended with
    | ok b | error e =>
      cases hgo
      exact ⟨hended, rfl⟩
    | overflow =>
      obtain ⟨rfl, rfl⟩ := hgo
      exact ⟨hended, rfl⟩
  · rintro ⟨ended, hended, rfl⟩
    refine ⟨_, _, ⟨ended, hended, rfl⟩, ?_⟩
    cases ended with
    | ok b | error e => exact .done
    | overflow => exact ⟨rfl, rfl⟩

end

/-! ## Endpoints -/

namespace Endpoint

@[simp] theorem ofPath?_path (e : Endpoint) : ofPath? e.path = some e := by
  rcases e with (_ | _ | _ | _ | _) | (_ | _) <;> decide

theorem ne_options_of_mem_methods {e : Endpoint} {method : String} (h : method ∈ e.methods) :
    method ≠ "OPTIONS" := by
  rintro rfl
  unfold methods at h
  split at h <;> revert h <;> decide

end Endpoint

/-- The answer of an endpoint to a request with a method that it takes, whole. -/
def answerOf (s : Service) (draws : Draws) (r : Request) : Endpoint → Program Response
  | .free e => answerFree s draws r e
  | .guarded e => do
    match ← caller s r with
    | .error err => return err.response
    | .ok p => answerGuarded r p e

theorem handle_endpoint (s : Service) (draws : Draws) {r : Request} {e : Endpoint}
    (hpath : r.path = e.path) (hmethod : r.method ∈ e.methods) (hbody : r.method ≠ "HEAD") :
    handle s draws r = answerOf s draws r e := by
  have htaken : e.methods.contains r.method = true := List.contains_iff_mem.2 hmethod
  have hbodied : isBodiless r (some e) = false := by
    unfold isBodiless
    rw [beq_eq_false_iff_ne.2 hbody, Bool.false_and]
  have hat : answerAt s draws r e = answerOf s draws r e := by
    unfold answerAt
    rw [htaken]
    cases e with
    | free | guarded => rfl
  unfold handle
  rw [if_neg (Endpoint.ne_options_of_mem_methods hmethod)]
  simp only [hpath, Endpoint.ofPath?_path, hbodied, hat, Bool.false_eq_true, if_false, bind_pure]

/-! ## Samples -/

/-- A request that posts a value as JSON, with some headers more. -/
def posted (path : String) (headers : List (String × Bytes)) (value : Value) : Request :=
  ⟨"POST", path, ("content-type", Bytes.ofString "application/json") :: headers,
    Bytes.ofString value.render⟩

theorem read_posted {α : Type} {form : Form α} {path : String} {headers : List (String × Bytes)}
    {value : Value} {a : α} (hdecode : form.decode (Bytes.ofString value.render) = .ok a)
    (hshort : (Bytes.ofString value.render).length ≤ bodyLimit) :
    (posted path headers value).read form = .ok a := by
  have hheader : (posted path headers value).header? "content-type" =
      some (Bytes.ofString "application/json") := by
    unfold Request.header? posted
    rw [List.find?_cons_of_pos (by decide +kernel)]
    rfl
  have hjson : (posted path headers value).declaresJson = true := by
    unfold Request.declaresJson Request.headerText?
    rw [hheader]
    decide +kernel
  have hlong : ¬ bodyLimit < (posted path headers value).body.length := Nat.not_lt.2 hshort
  unfold Request.read
  rw [if_neg (by simp [hjson]), if_neg hlong]
  simp only [posted, hdecode]
  rfl

end Http

end Latchkey
