/-
Reading the body of a request. Three things are refused, in this order: a body that is not declared
as JSON, a body that is too long, and a body that does not spell what the request asks for.
-/
import Latchkey.Http.MediaType
import Latchkey.Http.Request
import Latchkey.Http.Response
import Latchkey.Json.Record

namespace Latchkey.Http

/-- The most bytes that a body may have. -/
def bodyLimit : Nat := 2097152

inductive Rejection
  | notJson
  | tooLong
  | malformed (failure : Json.Failure)
deriving DecidableEq, Repr

def Rejection.message : Rejection → String
  | notJson => "Expected request with `Content-Type: application/json`"
  | tooLong => "Failed to buffer the request body: length limit exceeded"
  | malformed failure =>
    (if failure.fault.isData then
        "Failed to deserialize the JSON body into the target type: "
      else "Failed to parse the request body as JSON: ")
      ++ failure.message

/-- Whether the first content type of a request is JSON. -/
def Request.declaresJson (r : Request) : Bool :=
  ((r.headerText? "content-type").bind MediaType.parse?).any MediaType.isJson

/-- The value in the body of a request. -/
def Request.read {α : Type} (r : Request) (form : Json.Form α) : Except Rejection α :=
  if ¬ r.declaresJson then .error .notJson
  else if bodyLimit < r.body.length then .error .tooLong
  else (form.decode r.body).mapError .malformed

end Latchkey.Http
