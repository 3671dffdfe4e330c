import Turnstile.Policy.Snapshot
import Turnstile.Policy.Verdict
import Turnstile.Text.Basic
/-!
# Chains of evaluators

Every evaluator of a chain judges every request, and the verdicts are merged in order.
-/
namespace Turnstile.Policy

/-- What an evaluator may look at. -/
structure Request where
  headers : Headers
  /-- The captured body; none before it has been read. -/
  body : Option String

/-- The policy in force while a request is judged. -/
structure Moment where
  snapshot : Option Snapshot
  /-- The time, in milliseconds. -/
  now : Int

/-- A source of verdicts. -/
structure Evaluator where
  name : String
  judge : Moment → Request → Verdict

/-- Evaluators in order. -/
structure Chain where
  evaluators : List Evaluator

namespace Chain

/-- No evaluators: every request passes. -/
def empty : Chain := ⟨[]⟩

instance : Inhabited Chain := ⟨empty⟩

/-- The names of the evaluators, in order. -/
def names (c : Chain) : List String := c.evaluators.map Evaluator.name

/-- The chain with one more evaluator at its end. -/
def push (c : Chain) (e : Evaluator) : Chain := ⟨c.evaluators ++ [e]⟩

def judge (c : Chain) (moment : Moment) (request : Request) : Verdict :=
  c.evaluators.foldl (fun v e => v.merge (e.judge moment request)) .allow

def debugText (c : Chain) : String :=
  "FilterChain \x7b evaluators: [" ++ ", ".intercalate (c.names.map Text.quoted) ++ "] \x7d"

end Chain
end Turnstile.Policy
