import Turnstile.Policy.Chain
/-!
# Combined verdicts

What holds of the verdict of a whole chain.
-/
namespace Turnstile.Policy

namespace Verdict

/-- A verdict that does not block says nothing else either, but for its attributes. -/
def Plain (v : Verdict) : Prop := v.blocked = false → v.status = .ok ∧ v.reason = ""

theorem allow_plain : allow.Plain := fun _ => ⟨rfl, rfl⟩

theorem Plain.merge {v : Verdict} (plain : v.Plain) (w : Verdict) : (v.merge w).Plain := by
  intro passes
  rw [Verdict.merge] at passes ⊢
  split at passes
  · contradiction
  · rename_i other
    rw [if_neg other]
    exact plain passes

/-- The verdicts on one request, together. -/
def combine (verdicts : List Verdict) : Verdict := verdicts.foldl merge allow

theorem combine_plain (verdicts : List Verdict) : (combine verdicts).Plain := by
  have merged : ∀ v : Verdict, v.Plain → (verdicts.foldl merge v).Plain := by
    induction verdicts with
    | nil => exact fun v plain => plain
    | cons w rest ih => exact fun v plain => ih _ (plain.merge w)
  exact merged allow allow_plain

end Verdict

namespace Chain

/-- What the evaluators say of a request, each for itself. -/
def verdicts (c : Chain) (moment : Moment) (request : Request) : List Verdict :=
  c.evaluators.map fun e => e.judge moment request

theorem judge_eq (c : Chain) (moment : Moment) (request : Request) :
    c.judge moment request = Verdict.combine (c.verdicts moment request) := by
  rw [judge, verdicts, Verdict.combine, List.foldl_map]

/-- A request that passes a chain gets status and reason of a plain pass. -/
theorem judge_plain (c : Chain) (moment : Moment) (request : Request) :
    (c.judge moment request).Plain := by
  rw [judge_eq]
  exact Verdict.combine_plain _

end Chain
end Turnstile.Policy
