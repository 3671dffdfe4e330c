import Mathlib.Data.List.Sort
import Turnstile.Table
/-!
# Tables by their look-ups

Of the pairs inserted under one name the last one counts (`get?_insertAll`), and a table is what its
look-ups give (`ext_get?`). So tables overlaid on each other come out the same in whichever order they
are put together (`overlay_assoc`).
-/
namespace Turnstile

/-- What stands in strictly ascending order is said by its members alone. -/
theorem eq_of_ascending {α : Type} {key : α → String} {xs ys : List α}
    (ascending : xs.Pairwise fun a b => key a < key b) (ascending' : ys.Pairwise fun a b => key a < key b)
    (same : ∀ a, a ∈ xs ↔ a ∈ ys) : xs = ys := by
  have distinct : ∀ {zs : List α}, (zs.Pairwise fun a b => key a < key b) → zs.Nodup := by
    intro zs ordered
    refine ordered.imp ?_
    rintro a b less rfl
    exact String.lt_irrefl _ less
  have perm := (List.perm_ext_iff_of_nodup (distinct ascending) (distinct ascending')).mpr same
  exact perm.eq_of_pairwise
    (fun a b _ _ less more => absurd (String.lt_trans less more) (String.lt_irrefl _))
    ascending ascending'

namespace Table

variable {α : Type}

/-- The value that stands last under a name. -/
def lastValue? (pairs : List (String × α)) (name : String) : Option α :=
  (pairs.reverse.find? fun e => e.1 == name).map Prod.snd

theorem lastValue?_append (first second : List (String × α)) (name : String) :
    lastValue? (first ++ second) name = (lastValue? second name).or (lastValue? first name) := by
  rw [lastValue?, List.reverse_append, List.find?_append, lastValue?, lastValue?]
  cases second.reverse.find? fun e => e.1 == name <;> rfl

theorem lastValue?_singleton (key name : String) (value : α) :
    lastValue? [(key, value)] name = if key = name then some value else none := by
  by_cases same : key = name <;> simp [lastValue?, same]

theorem lastValue?_toList (value : Option α) (key : String) :
    lastValue? ((value.map fun v => (key, v)).toList) key = value := by
  cases value with
  | none => rfl
  | some v => exact (lastValue?_singleton key key v).trans (if_pos rfl)

theorem mem_of_lastValue? {pairs : List (String × α)} {name : String} {value : α}
    (found : lastValue? pairs name = some value) : (name, value) ∈ pairs := by
  obtain ⟨e, here, rfl⟩ := Option.map_eq_some_iff.mp found
  have named : e.1 = name := by simpa using List.find?_some here
  rw [← named]
  exact List.mem_reverse.mp (List.mem_of_find?_eq_some here)

/-- Pairs that are inserted in turn stand over what was there, the last one of a name over the
others. -/
theorem get?_insertAll (t : Table α) (pairs : List (String × α)) (name : String) :
    (t.insertAll pairs).get? name = (lastValue? pairs name).or (t.get? name) := by
  induction pairs generalizing t with
  | nil => rfl
  | cons e rest ih =>
    have split := lastValue?_append [e] rest name
    rw [List.singleton_append, lastValue?_singleton] at split
    rw [split]
    refine (ih (t.insert e.1 e.2)).trans ?_
    rw [get?_insert]
    by_cases same : e.1 = name
    · rw [if_pos same, if_pos same]
      cases lastValue? rest name <;> rfl
    · rw [if_neg same, if_neg same]
      cases lastValue? rest name <;> rfl

theorem get?_ofList (pairs : List (String × α)) (name : String) :
    (ofList pairs).get? name = lastValue? pairs name := by
  rw [ofList, get?_insertAll]
  exact Option.or_none

/-- The entries of a table have one value each. -/
theorem lastValue?_entries (t : Table α) (name : String) : lastValue? t.entries name = t.get? name := by
  obtain ⟨entries, ascending⟩ := t
  rw [get?]
  induction entries with
  | nil => rfl
  | cons e rest ih =>
    obtain ⟨first, tail⟩ := List.pairwise_cons.mp ascending
    have split := lastValue?_append [e] rest name
    rw [List.singleton_append, lastValue?_singleton] at split
    rw [split, ih tail, List.find?_cons]
    by_cases same : e.1 = name
    · have absent : rest.find? (fun e => e.1 == name) = none := by
        rw [List.find?_eq_none]
        intro e' mem
        have less : e.1 < e'.1 := first e' mem
        rw [same] at less
        simpa using fun eq : e'.1 = name => String.lt_irrefl name (eq ▸ less)
      simp [same, absent]
    · have other : (e.1 == name) = false := by simpa using same
      simp [same, other]

theorem get?_overlay (t u : Table α) (name : String) :
    (t.overlay u).get? name = (u.get? name).or (t.get? name) := by
  rw [overlay, get?_insertAll, lastValue?_entries]

theorem mem_entries_iff {t : Table α} {e : String × α} : e ∈ t.entries ↔ t.get? e.1 = some e.2 := by
  refine ⟨fun mem => ?_, mem_of_get?⟩
  obtain ⟨entries, ascending⟩ := t
  obtain ⟨before, after, rfl⟩ := List.append_of_mem mem
  have smaller : ∀ b ∈ before, b.1 < e.1 := by
    intro b inBefore
    exact (List.pairwise_append.mp ascending).2.2 b inBefore e List.mem_cons_self
  have absent : before.find? (fun b => b.1 == e.1) = none := by
    rw [List.find?_eq_none]
    intro b inBefore same
    have eq : b.1 = e.1 := by simpa using same
    exact String.lt_irrefl _ (eq ▸ smaller b inBefore)
  simp [get?, List.find?_append, absent]

/-- Entries in ascending order leave no choice: equal look-ups are equal tables. -/
theorem ext_get? {s t : Table α} (same : ∀ name, s.get? name = t.get? name) : s = t := by
  have entries : s.entries = t.entries := by
    refine eq_of_ascending s.ascending t.ascending fun e => ?_
    rw [mem_entries_iff, mem_entries_iff, same]
  cases s
  cases t
  simpa using entries

theorem exists_lastValue? {pairs : List (String × α)} {e : String × α} (mem : e ∈ pairs) :
    ∃ value, lastValue? pairs e.1 = some value := by
  cases found : lastValue? pairs e.1 with
  | some value => exact ⟨value, rfl⟩
  | none =>
    rw [lastValue?, Option.map_eq_none_iff, List.find?_eq_none] at found
    simpa using found e (List.mem_reverse.mpr mem)

/-- Names that have one pair at most keep what they have when the pairs are put in order. -/
theorem filter_ofList {pairs : List (String × α)} {p : String → Bool} {only : Option (String × α)}
    (few : pairs.filter (fun e => p e.1) = only.toList) :
    (ofList pairs).entries.filter (fun e => p e.1) = only.toList := by
  have ascending : only.toList.Pairwise fun a b => a.1 < b.1 := by
    cases only <;> simp
  refine eq_of_ascending ((ofList pairs).ascending.filter _) ascending fun e => ?_
  rw [List.mem_filter, mem_entries_iff, get?_ofList, ← few, List.mem_filter]
  refine and_congr_left fun named => ⟨mem_of_lastValue?, fun mem => ?_⟩
  obtain ⟨value, found⟩ := exists_lastValue? mem
  -- the pair that counts for this name is the only one
  have same : (e.1, value) ∈ only.toList ∧ e ∈ only.toList := by
    rw [← few, List.mem_filter, List.mem_filter]
    exact ⟨⟨mem_of_lastValue? found, named⟩, mem, named⟩
  rw [Option.mem_toList, Option.mem_toList] at same
  have value_eq : (e.1, value) = e := Option.some.inj (same.1.symm.trans same.2)
  rw [found, ← congrArg Prod.snd value_eq]

theorem ofList_entries (t : Table α) : ofList t.entries = t := by
  apply ext_get?
  intro name
  rw [get?_ofList, lastValue?_entries]

theorem overlay_assoc (s t u : Table α) : (s.overlay t).overlay u = s.overlay (t.overlay u) := by
  apply ext_get?
  intro name
  simp only [get?_overlay, Option.or_assoc]

end Table
end Turnstile
