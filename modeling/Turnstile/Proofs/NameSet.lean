import Mathlib.Data.Set.Basic
import Turnstile.NameSet
import Turnstile.Proofs.Table
/-!
# Sets of names by their members

What is a member after each operation. A set is what its members are (`ext_members`), since they stand in
ascending order.
-/
namespace Turnstile.NameSet

variable {s t : NameSet} {a : String}

/-- The members, in no order. -/
def members (s : NameSet) : Set String := {a | a ∈ s.toList}

theorem mem_foldl_insert {names : List String} :
    a ∈ (names.foldl insert s).toList ↔ a ∈ s.toList ∨ a ∈ names := by
  induction names generalizing s with
  | nil => simp
  | cons n rest ih =>
    rw [List.foldl_cons, ih, insert, mem_insertInto, List.mem_cons, or_comm (a := a = n), or_assoc]

theorem members_ofList (names : List String) : (ofList names).members = {a | a ∈ names} := by
  ext a
  have none : a ∉ empty.toList := List.not_mem_nil
  exact mem_foldl_insert.trans (or_iff_right none)

theorem members_inter (s t : NameSet) : (s.inter t).members = s.members ∩ t.members := by
  ext a
  simp [members, inter, contains]

theorem isEmpty_iff : s.isEmpty = true ↔ s.members = ∅ := by
  rw [isEmpty, List.isEmpty_iff, List.eq_nil_iff_forall_not_mem, Set.eq_empty_iff_forall_notMem]
  exact Iff.rfl

theorem ext_members (same : s.members = t.members) : s = t := by
  have members : s.toList = t.toList := eq_of_ascending s.ascending t.ascending (Set.ext_iff.mp same)
  cases s
  cases t
  simpa using members

end Turnstile.NameSet
