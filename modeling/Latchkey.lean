import Latchkey.Main
import Latchkey.Rehearsal
import Latchkey.SecretSources
import Latchkey.Settings
import Latchkey.Proofs.Store.Accounts
import Latchkey.Proofs.Program.Steps
import Latchkey.Proofs.Service.Operation
import Latchkey.Proofs.Service.Refresh
import Latchkey.Proofs.Service.Traffic
import Latchkey.Proofs.Service.Delivery
import Latchkey.Proofs.Service.Redemption
import Latchkey.Proofs.Store.Session
import Latchkey.Proofs.Service.Race
import Latchkey.Proofs.AccessToken.Names
import Latchkey.Proofs.Service.History
import Latchkey.Proofs.Service.Acceptance
import Latchkey.Proofs.Store.SessionMap
import Latchkey.Proofs.Digest.Bytes
import Latchkey.Proofs.Json.WrittenText
import Latchkey.Proofs.Json.Written
import Latchkey.Proofs.Json.WrittenRecord
import Latchkey.Proofs.AccessToken.RoundTrip
import Latchkey.Proofs.Service.Authentication
import Latchkey.Proofs.Service.Deletion
import Latchkey.Proofs.Program.Alone
import Latchkey.Proofs.Store.Identities
import Latchkey.Proofs.Service.Enrolment
import Latchkey.Proofs.Service.Failure
import Latchkey.Proofs.Service.Identities
import Latchkey.Proofs.Service.Provisioning
import Latchkey.Proofs.Password.RoundTrip
import Latchkey.Proofs.Service.Ledger
import Latchkey.Proofs.Store.AuditTrail
import Latchkey.Proofs.Service.Login
import Latchkey.Proofs.Service.Credentials
import Latchkey.Proofs.Service.Footprint
import Latchkey.Proofs.Service.Commutation
import Latchkey.Proofs.Service.Calendar
import Latchkey.Proofs.Http.Answers
import Latchkey.Proofs.Http.Exactness
import Latchkey.Proofs.Http.Guarded
import Latchkey.Proofs.Http.Rejections
import Latchkey.Proofs.SecretSources
import Latchkey.Proofs.Json.Document
import Latchkey.Proofs.Json.SpelledText
import Latchkey.Proofs.Json.SpelledNumeral
import Latchkey.Proofs.Json.Spelled
import Latchkey.Proofs.Json.Reader
import Latchkey.Proofs.Json.Record
import Latchkey.Proofs.Wire.Requests
import Latchkey.Proofs.Wire.RoundTrip
import Latchkey.Proofs.AccessToken.Header
import Latchkey.Proofs.AccessToken.Malleability
import Latchkey.Proofs.Program.InStep
import Latchkey.Proofs.Settings
import Latchkey.Proofs.Service.Secrets
import Latchkey.Proofs.Http.Lifetime
