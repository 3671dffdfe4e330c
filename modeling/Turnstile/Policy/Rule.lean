import Turnstile.Policy.Chain
import Turnstile.Text.Basic
/-!
# Rules

Evaluators described by data: a fixed verdict on the requests that meet a condition.
-/
namespace Turnstile.Policy

/-- A condition on a request. -/
inductive Condition
  | always
  /-- The body has not been read. -/
  | beforeBody
  /-- The body has been read. -/
  | withBody
  /-- The body has been read and contains a text. -/
  | bodyContains (part : String)
  | hasHeader (name : String)
deriving DecidableEq, Repr

/-- Whether a request meets a condition. -/
def Condition.holds (c : Condition) (request : Request) : Bool :=
  match c, request.body with
  | .always, _ => true
  | .beforeBody, body => body.isNone
  | .withBody, body => body.isSome
  | .bodyContains _, none => false
  | .bodyContains part, some body => Text.occursIn part.toList body.toList
  | .hasHeader name, _ => request.headers.contains name

/-- A verdict on the requests that meet a condition. -/
structure Rule where
  name : String
  condition : Condition
  verdict : Verdict
  /-- The attribute that the body is recorded under, if it is. -/
  echo : Option String
deriving DecidableEq

namespace Rule

def judge (r : Rule) (request : Request) : Verdict :=
  let v := if r.condition.holds request then r.verdict else .allow
  match r.echo with
  | none => v
  | some key => v.withAttribute key (request.body.getD "<none>")

def evaluator (r : Rule) : Evaluator := ⟨r.name, fun _ request => r.judge request⟩

end Rule
end Turnstile.Policy
