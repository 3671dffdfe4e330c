import Turnstile.Exchange.Basic
import Turnstile.Log.Record
/-!
# Outcomes

What became of one request, as it is reported.
-/
namespace Turnstile

open Policy

/-- Where in a request's course its verdict was reached. -/
inductive Phase
  /-- Before the body was read. -/
  | headers
  /-- When the body had been read. -/
  | body
  /-- Nothing blocked it. -/
  | complete
deriving DecidableEq, Repr

/-- The name of a phase. -/
def Phase.name : Phase → String
  | .headers => "headers"
  | .body => "body"
  | .complete => "complete"

/-- What became of a request. -/
structure Outcome where
  /-- The id of its span. -/
  id : Log.Identifier
  name : String
  blocked : Bool
  status : Status
  reason : String
  phase : Phase
  attributes : Table String
deriving DecidableEq

namespace Outcome

/-- The outcome of a request whose record carries the verdict. -/
def ofRecord (record : Log.Record) (verdict : Verdict) (phase : Phase) : Outcome where
  id := record.id
  name := record.name
  blocked := verdict.blocked
  status := verdict.status
  reason := verdict.reason
  phase := phase
  attributes := record.attributes

/-- An outcome as an object; an empty reason is left out. -/
def toJson (o : Outcome) : Json :=
  .object ([("span_id", .string o.id.text), ("name", .string o.name), ("blocked", .bool o.blocked),
    ("status", .ofNat o.status.code)] ++
    (if o.reason.isEmpty then [] else [("reason", .string o.reason)]) ++
    [("stage", .string o.phase.name), ("attributes", .ofTable o.attributes)])

end Outcome
end Turnstile
