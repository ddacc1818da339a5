/-
Profiles and their subscriptions as JSON. A profile without a subscription is written with `null`;
when it is read the member may also be missing.
-/
import Latchkey.Account
import Latchkey.Json.Record
import Latchkey.Json.Value

namespace Latchkey

open Json

namespace Subscription

def form : Form Subscription where
  name := "Subscription"
  fields := ["plan", "type", "period", "status"].map (.text .required)
  make ms := ⟨ms.textAt "plan", ms.textAt "type", ms.textAt "period", ms.textAt "status"⟩

def toJson (s : Subscription) : Value :=
  .object [("plan", .text s.plan), ("type", .text s.planType), ("period", .text s.period),
    ("status", .text s.status)]

/-- The members of a subscription, or `null`, as a member of a profile. -/
def field : RecordField where
  key := "subscription"
  presence := .omittable
  read := (Reader.nullable (Reader.record form.name form.fields)).map fun members =>
    (members.map Datum.record).getD .null

end Subscription

namespace Profile

def form : Form Profile where
  name := "User"
  fields := [.text .required "id", .text .required "name", .signed32 "credits",
    Subscription.field, .text .required "auth_method", .flag "is_new_user",
    .text .required "customer_id"]
  make ms :=
    { id := ms.textAt "id"
      name := ms.textAt "name"
      credits := ms.signed32At "credits"
      subscription := (ms.recordAt? "subscription").map Subscription.form.make
      authMethod := ms.textAt "auth_method"
      isNewUser := ms.flagAt "is_new_user"
      customerId := ms.textAt "customer_id" }

def toJson (p : Profile) : Value :=
  .object [("id", .text p.id), ("name", .text p.name), ("credits", .integer p.credits.toInt),
    ("subscription", (p.subscription.map Subscription.toJson).getD .null),
    ("auth_method", .text p.authMethod), ("is_new_user", .flag p.isNewUser),
    ("customer_id", .text p.customerId)]

end Profile

end Latchkey
