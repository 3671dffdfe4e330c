import Turnstile.Json.Value
import Turnstile.Policy.Status
/-!
# Verdicts

What an evaluator says about a request, and how the verdicts on one request combine: it is blocked if
any verdict blocks, the first blocking one gives status and reason, and the attributes of all are
kept, a later value over an earlier one.
-/
namespace Turnstile.Policy

/-- The judgement of a request. -/
structure Verdict where
  blocked : Bool
  status : Status
  reason : String
  /-- Diagnostics to record whether the request is blocked or not. -/
  attributes : Table String
deriving DecidableEq

namespace Verdict

/-- The request passes. -/
def allow : Verdict := ⟨false, .ok, "", .empty⟩

/-- The request is refused. -/
def block (reason : String) : Verdict := ⟨true, .forbidden, reason, .empty⟩

instance : Inhabited Verdict := ⟨allow⟩

def withAttribute (v : Verdict) (key value : String) : Verdict :=
  { v with attributes := v.attributes.insert key value }

def withStatus (v : Verdict) (status : Status) : Verdict :=
  { v with status := status }

/-- The verdict together with a later one on the same request. -/
def merge (v w : Verdict) : Verdict :=
  let attributes := v.attributes.overlay w.attributes
  if w.blocked && !v.blocked then ⟨true, w.status, w.reason, attributes⟩
  else { v with attributes := attributes }

def toJson (v : Verdict) : Json :=
  .object [("blocked", .bool v.blocked), ("status", .ofNat v.status.code),
    ("reason", .string v.reason), ("attributes", .ofTable v.attributes)]

/-- What a refused request is told. -/
def refusal (v : Verdict) : String :=
  "request blocked with status " ++ v.status.text ++ ": " ++ v.reason

end Verdict
end Turnstile.Policy
