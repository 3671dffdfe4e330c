import Mathlib
import Turnstile.Headers
import Turnstile.Proofs.Table
/-!
# Headers by their look-ups

Of the values given for one name the last one counts, however the name is spelled each time
(`get?_ofList_iff`). Headers are printed as an object of strings. Their names are in lower case already, so
reading it gives the same headers.
-/
namespace Turnstile

/-- An object of strings. -/
def Json.ofPairs (pairs : List (String × String)) : Json := .object (pairs.map fun e => (e.1, .string e.2))

namespace Shape

theorem mapM_member_string (pairs : List (String × String)) :
    (Json.membersToTree (pairs.map fun e => (e.1, Json.string e.2))).mapM (member string) =
      .ok pairs := by
  induction pairs with
  | nil => rfl
  | cons e rest ih =>
    rw [List.map_cons, Json.membersToTree, List.mapM_cons, ih]
    rfl

theorem map_string (pairs : List (String × String)) : map string (Json.ofPairs pairs).toTree = .ok pairs := by
  rw [Json.ofPairs, Json.toTree, map, mapM_member_string]
  rfl

end Shape

/-- A text in lower case stays as it is. -/
theorem Text.lower_lower (s : String) : lower (lower s) = lower s := by
  simp [lower, Function.comp_def]

namespace Headers

/-- So the names of headers do. -/
theorem folded (h : Headers) : ∀ e ∈ h.table.entries, Text.lower e.1 = e.1 := by
  intro e mem
  obtain ⟨spelling, kept⟩ := h.spelled e mem
  rw [kept, Text.lower_lower]

theorem ext_table {h h' : Headers} (same : h.table = h'.table) : h = h' := by
  cases h
  cases h'
  simpa using same

/-- Names in lower case are inserted as they are. -/
theorem table_foldl_insert {pairs : List (String × String)} (folded : ∀ e ∈ pairs, Text.lower e.1 = e.1)
    (h : Headers) : (pairs.foldl (fun h p => h.insert p.1 p.2) h).table = h.table.insertAll pairs := by
  induction pairs generalizing h with
  | nil => rfl
  | cons e rest ih =>
    have same : (h.insert e.1 e.2).table = h.table.insert e.1 e.2 :=
      congrArg (h.table.insert · e.2) (folded e List.mem_cons_self)
    rw [List.foldl_cons, ih fun e' mem => folded e' (List.mem_cons_of_mem _ mem), same]
    rfl

theorem ofTable_table (h : Headers) : ofTable h.table = h := by
  apply ext_table
  rw [ofTable, ofList, table_foldl_insert h.folded]
  exact Table.ofList_entries h.table

/-! ## Values under any spelling -/

theorem get?_eq (h : Headers) (name : String) : h.get? name = h.table.get? (Text.lower name) := by
  rw [get?]
  cases found : h.table.get? name with
  | none => rfl
  | some value =>
    have folded : Text.lower name = name := h.folded (name, value) (Table.mem_of_get? found)
    rw [folded, found]

theorem get?_insert (h : Headers) (spelling value name : String) : (h.insert spelling value).get? name =
    if Text.sameLetters spelling name = true then some value else h.get? name := by
  rw [get?_eq, get?_eq, insert, Table.get?_insert]
  simp [Text.sameLetters]

/-- The value that is given last for a name, under any spelling of it. -/
def Given (pairs : List (String × String)) (name value : String) : Prop :=
  ∃ before spelling after, pairs = before ++ (spelling, value) :: after ∧
    Text.sameLetters spelling name = true ∧ ∀ e ∈ after, Text.sameLetters e.1 name = false

section

variable {rest : List (String × String)} {e : String × String} {name value : String}

theorem given_concat_of_same (same : Text.sameLetters e.1 name = true) :
    Given (rest ++ [e]) name value ↔ e.2 = value := by
  constructor
  · rintro ⟨before, spelling, after, whole, -, others⟩
    rcases List.eq_nil_or_concat after with rfl | ⟨later, e', rfl⟩
    · obtain ⟨-, rfl⟩ := List.append_singleton_inj.mp whole
      rfl
    · rw [List.concat_eq_append] at whole others
      rw [← List.cons_append, ← List.append_assoc] at whole
      obtain ⟨-, rfl⟩ := List.append_singleton_inj.mp whole
      have other : Text.sameLetters e.1 name = false := others e (by simp)
      rw [same] at other
      cases other
  · rintro rfl
    exact ⟨rest, e.1, [], rfl, same, by simp⟩

theorem given_concat_of_other (other : ¬ Text.sameLetters e.1 name = true) :
    Given (rest ++ [e]) name value ↔ Given rest name value := by
  constructor
  · rintro ⟨before, spelling, after, whole, spelled, others⟩
    rcases List.eq_nil_or_concat after with rfl | ⟨later, e', rfl⟩
    · obtain ⟨-, rfl⟩ := List.append_singleton_inj.mp whole
      exact absurd spelled other
    · rw [List.concat_eq_append] at whole others
      rw [← List.cons_append, ← List.append_assoc] at whole
      obtain ⟨rfl, rfl⟩ := List.append_singleton_inj.mp whole
      exact ⟨before, spelling, later, rfl, spelled, fun e' mem => others e' (by simp [mem])⟩
  · rintro ⟨before, spelling, after, rfl, spelled, others⟩
    refine ⟨before, spelling, after ++ [e], List.append_assoc .., spelled, fun e' mem => ?_⟩
    rcases List.mem_append.mp mem with mem | mem
    · exact others e' mem
    · rw [List.mem_singleton.mp mem]
      simpa using other

end

/-- However names are spelled, the value given last for a name is its value. -/
theorem get?_ofList_iff {pairs : List (String × String)} {name value : String} :
    (ofList pairs).get? name = some value ↔ Given pairs name value := by
  induction pairs using List.reverseRecOn with
  | nil => simp [ofList, Given, get?, empty, Table.empty, Table.get?]
  | append_singleton rest e ih =>
    have last : ofList (rest ++ [e]) = (ofList rest).insert e.1 e.2 := List.foldl_concat ..
    rw [last, get?_insert]
    by_cases same : Text.sameLetters e.1 name = true
    · rw [if_pos same, given_concat_of_same same, Option.some_inj]
    · rw [if_neg same, given_concat_of_other same, ih]

theorem contains_ofList_iff {pairs : List (String × String)} {name : String} :
    (ofList pairs).contains name = true ↔ ∃ e ∈ pairs, Text.sameLetters e.1 name = true := by
  induction pairs using List.reverseRecOn with
  | nil => simp [ofList, contains, get?, empty, Table.empty, Table.get?]
  | append_singleton rest e ih =>
    have last : ofList (rest ++ [e]) = (ofList rest).insert e.1 e.2 := List.foldl_concat ..
    rw [contains, last, get?_insert]
    by_cases same : Text.sameLetters e.1 name = true
    · simp [same]
    · simpa [same, contains] using ih

/-- Headers are read from what they are printed as. -/
theorem shape_toJson (h : Headers) : shape h.toJson.toTree = .ok h := by
  rw [shape, show h.toJson = Json.ofPairs h.table.entries from rfl, Shape.map_string]
  simp only [Except.map, Table.ofList_entries, ofTable_table]

end Headers
end Turnstile
