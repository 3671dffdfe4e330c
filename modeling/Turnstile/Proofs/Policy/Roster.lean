import Turnstile.Policy.Roster
import Turnstile.Proofs.Policy.Verdict
/-!
# What configured chains report

A chain reports only what one of its evaluators does, and an evaluator that can be configured reports
under its own few keys.
-/
namespace Turnstile.Policy

/-- What a combined verdict reports, one of the evaluators has said. -/
theorem Chain.mem_judge {c : Chain} {moment : Moment} {request : Request} {e : String × String}
    (mem : e ∈ (c.judge moment request).attributes.entries) :
    ∃ evaluator ∈ c.evaluators, e ∈ (evaluator.judge moment request).attributes.entries := by
  rw [Table.mem_entries_iff, judge_eq, Verdict.combine_attributes] at mem
  obtain ⟨v, given, said⟩ := List.exists_of_findSome?_eq_some mem
  obtain ⟨evaluator, listed, rfl⟩ := List.mem_map.mp (List.mem_reverse.mp given)
  exact ⟨evaluator, listed, Table.mem_entries_iff.mpr said⟩

namespace Kind

/-- The keys of what an evaluator of a kind reports. -/
def keys : Kind → List String
  | .mock => ["filter.mock.result"]
  | .ipAddress => ["policy.ip.allowlisted", "policy.ip.denylisted"]

theorem judge_keys (k : Kind) (moment : Moment) (request : Request) :
    ∀ e ∈ (k.evaluator.judge moment request).attributes.entries, e.1 ∈ k.keys := by
  intro e mem
  cases k with
  | mock =>
    have said : e ∈ (judgeMock request).attributes.entries := mem
    rw [judgeMock] at said
    split at said
    · rcases Table.mem_insertInto said with rfl | none
      · exact List.mem_singleton.mpr rfl
      · contradiction
    · contradiction
  | ipAddress =>
    have said : e ∈ (judgeAddress moment request).attributes.entries := mem
    rw [judgeAddress] at said
    split at said
    · rcases Table.mem_insertInto said with rfl | none
      · exact List.mem_cons_self
      · contradiction
    · rcases Table.mem_insertInto said with rfl | none
      · exact List.mem_cons_of_mem _ List.mem_cons_self
      · contradiction
    · contradiction

end Kind

/-- A configured chain reports under the keys of its enabled evaluators only. -/
theorem Roster.judge_keys (r : Roster) (moment : Moment) (request : Request) :
    ∀ e ∈ (r.chain.judge moment request).attributes.entries,
      ∃ s ∈ r.evaluators, s.enabled = true ∧ e.1 ∈ s.kind.keys := by
  intro e mem
  obtain ⟨evaluator, listed, said⟩ := Chain.mem_judge mem
  obtain ⟨s, chosen, rfl⟩ := List.mem_map.mp listed
  obtain ⟨selected, enabled⟩ := List.mem_filter.mp chosen
  exact ⟨s, selected, enabled, s.kind.judge_keys moment request e said⟩

end Turnstile.Policy
