import Turnstile.Policy.Chain
/-!
# Configured chains

The evaluators a configuration can name, and the chain it describes: the enabled entries, in order.
-/
namespace Turnstile.Policy

/-- An evaluator that can be named in a configuration. -/
inductive Kind
  /-- Blocks every request with the header `mockblock`. -/
  | mock
  /-- Judges the client addresses by the current snapshot. -/
  | ipAddress
deriving DecidableEq, Repr

namespace Kind

/-- The name in configurations, which is the evaluator's own name too. -/
def name : Kind → String
  | .mock => "mock"
  | .ipAddress => "ip_address"

def shape : Shape Kind := Shape.choice [("mock", .mock), ("ip_address", .ipAddress)]

/-- The verdict of the mock evaluator. -/
def judgeMock (request : Request) : Verdict :=
  if request.headers.contains "mockblock" then
    (Verdict.block "header 'mockblock' found").withAttribute "filter.mock.result" "true"
  else .allow

/-- The verdict on the client addresses. -/
def judgeAddress (moment : Moment) (request : Request) : Verdict :=
  match resolve moment.snapshot request.headers moment.now with
  | .allowlisted addresses =>
    Verdict.allow.withAttribute "policy.ip.allowlisted" (",".intercalate addresses.toList)
  | .denylisted addresses =>
    (Verdict.block "client address is deny-listed").withAttribute "policy.ip.denylisted"
      (",".intercalate addresses.toList)
  | .unlisted => .allow

def evaluator (k : Kind) : Evaluator where
  name := k.name
  judge moment request :=
    match k with
    | .mock => judgeMock request
    | .ipAddress => judgeAddress moment request

end Kind

/-- An evaluator in a configuration. -/
structure Selection where
  kind : Kind
  enabled : Bool
deriving DecidableEq, Repr

/-- The evaluators of a configuration, in order. -/
structure Roster where
  evaluators : List Selection
deriving DecidableEq, Repr

def Selection.toJson (s : Selection) : Json :=
  .object [("kind", .string s.kind.name), ("enabled", .bool s.enabled)]

/-- The fields of a selection that have been read. -/
structure SelectionFields where
  kind : Option Kind := none
  enabled : Option Bool := none

/-- A selection; it is enabled unless it says otherwise. -/
def Selection.shape : Shape Selection := fun t => do
  let fields ← Shape.record "struct EvaluatorEntry" [
    Shape.field "kind" [] true Kind.shape SelectionFields.kind fun s v => { s with kind := some v },
    Shape.field "enabled" [] false Shape.bool SelectionFields.enabled
      fun s v => { s with enabled := some v }] {} t
  match fields.kind with
  | some kind => .ok ⟨kind, fields.enabled.getD true⟩
  | none => .error (.missingField "kind")

namespace Roster

/-- The evaluation of client addresses alone. -/
def default : Roster := ⟨[⟨.ipAddress, true⟩]⟩

instance : Inhabited Roster := ⟨default⟩

def toJson (r : Roster) : Json :=
  .object [("evaluators", .array (r.evaluators.map Selection.toJson))]

/-- A configuration; without a list of evaluators it is the default one. -/
def shape : Shape Roster := fun t => do
  let fields ← Shape.record "struct FilterRegistryConfig" [
    Shape.field "evaluators" [] false (Shape.list Selection.shape) id fun _ v => some v] none t
  .ok ⟨fields.getD default.evaluators⟩

/-- The chain of the enabled evaluators. -/
def chain (r : Roster) : Chain :=
  ⟨(r.evaluators.filter Selection.enabled).map fun s => s.kind.evaluator⟩

end Roster
end Turnstile.Policy
