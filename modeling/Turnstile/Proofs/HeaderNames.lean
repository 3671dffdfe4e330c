import Turnstile.Proofs.Headers
import Turnstile.Proofs.Records
import Turnstile.Proofs.Text.Order
/-!
# Headers as a map without regard to case

What headers say after any insertions is said without them: `Maps` tells it from the names that were given and
from the value that each name has. Of values inserted in turn the last one of a name counts (`Given`), and of the
members of an object the one under the greatest spelling (`Survives`).
-/
namespace Turnstile

theorem Json.whole_ofPairs (pairs : List (String × String)) : (Json.ofPairs pairs).Whole := by
  rw [ofPairs, Whole]
  induction pairs with
  | nil => trivial
  | cons e rest ih => exact ⟨trivial, ih⟩

namespace Headers

open Text

/-- The headers have these values under any spelling of the names given, and none under other names. -/
structure Maps (names : List String) (gives : String → String → Prop) (h : Headers) : Prop where
  get : ∀ name value, h.get? name = some value ↔ gives name value
  contains : ∀ name, h.contains name = true ↔ ∃ value, gives name value
  named : ∀ name, h.contains name = true ↔ ∃ spelling ∈ names, sameLetters spelling name = true
  /-- Names that differ in case only are one. -/
  size : h.size = (names.map lower).dedup.length
  folded : ∀ e ∈ h.toList, ∀ c ∈ e.1.toList, c.isUpper = false
  entries : ∀ name value, (name, value) ∈ h.toList ↔ lower name = name ∧ gives name value
  ascending : h.toList.Pairwise fun a b => Utf8.encode a.1.toList < Utf8.encode b.1.toList

/-- The value that the members of an object leave for a name: of all spellings of it the greatest one counts,
by its bytes, and of the values under that spelling the last. -/
def Survives (pairs : List (String × String)) (name value : String) : Prop :=
  ∃ spelling, sameLetters spelling name = true ∧ Table.lastValue? pairs spelling = some value ∧
    ∀ e ∈ pairs, sameLetters e.1 name = true → Utf8.encode e.1.toList ≤ Utf8.encode spelling.toList

/-! ## Names in lower case -/

theorem sameLetters_eq {a b : String} (same : sameLetters a b = true) (name : String) :
    sameLetters a name = sameLetters b name :=
  congrArg (· == lower name) (beq_iff_eq.mp same)

theorem isUpper_of_lower {name : String} (low : lower name = name) : ∀ c ∈ name.toList, c.isUpper = false := by
  intro c mem
  rw [← low, lower, String.toList_ofList] at mem
  obtain ⟨letter, -, rfl⟩ := List.mem_map.mp mem
  exact letter.isUpper_toLower_eq_false

/-! ## What headers map -/

section

variable {h h' : Headers} {names : List String} {gives : String → String → Prop} {name value : String}

theorem mem_toList_iff : (name, value) ∈ h.toList ↔ lower name = name ∧ h.get? name = some value := by
  rw [toList, Table.mem_entries_iff, get?_eq]
  constructor
  · intro found
    have low : lower name = name := h.folded (name, value) (Table.mem_of_get? found)
    rw [low]
    exact ⟨rfl, found⟩
  · rintro ⟨low, found⟩
    rwa [low] at found

/-- Headers are what is found in them. -/
theorem ext_get? (same : ∀ name, h.get? name = h'.get? name) : h = h' := by
  refine ext_table (Table.ext_get? fun name => ?_)
  apply Option.ext
  intro value
  rw [← Table.mem_entries_iff (e := (name, value)), ← Table.mem_entries_iff (e := (name, value))]
  exact mem_toList_iff.trans ((and_congr_right fun _ => by rw [same]).trans mem_toList_iff.symm)

theorem size_of_named (named : ∀ name, h.contains name = true ↔ ∃ spelling ∈ names, sameLetters spelling name = true) :
    h.size = (names.map lower).dedup.length := by
  have distinct : (h.toList.map Prod.fst).Nodup := by
    refine List.Pairwise.map Prod.fst ?_ h.table.ascending
    rintro a b less same
    exact String.lt_irrefl _ (same ▸ less)
  have members : ∀ name, name ∈ h.toList.map Prod.fst ↔ name ∈ (names.map lower).dedup := by
    intro name
    have kept : name ∈ h.toList.map Prod.fst ↔ lower name = name ∧ h.contains name = true := by
      simp [mem_toList_iff, contains, Option.isSome_iff_exists]
    rw [kept, named, List.mem_dedup, List.mem_map]
    constructor
    · rintro ⟨low, spelling, given, same⟩
      exact ⟨spelling, given, (beq_iff_eq.mp same).trans low⟩
    · rintro ⟨spelling, given, rfl⟩
      exact ⟨lower_lower spelling, spelling, given, beq_iff_eq.mpr (lower_lower spelling).symm⟩
  have perm := (List.perm_ext_iff_of_nodup distinct (List.nodup_dedup _)).mpr members
  rw [← perm.length_eq, List.length_map]
  rfl

/-- What is found under each name and which names are there is all there is to say. -/
theorem maps_of (get : ∀ name value, h.get? name = some value ↔ gives name value)
    (named : ∀ name, h.contains name = true ↔ ∃ spelling ∈ names, sameLetters spelling name = true) :
    Maps names gives h where
  get := get
  contains name := by simp [contains, Option.isSome_iff_exists, get]
  named := named
  size := size_of_named named
  folded e mem := isUpper_of_lower (h.folded e mem)
  entries name value := by rw [mem_toList_iff, get]
  ascending := h.table.ascending.imp Utf8.encode_lt_iff.mpr

end

/-! ## Insertions -/

theorem ofList_maps (pairs : List (String × String)) : Maps (pairs.map Prod.fst) (Given pairs) (ofList pairs) :=
  maps_of (fun _ _ => get?_ofList_iff) fun name => by simp [contains_ofList_iff]

/-- What is inserted into headers comes after what they hold. -/
theorem foldl_insert_maps (h : Headers) (pairs : List (String × String)) :
    Maps ((h.toList ++ pairs).map Prod.fst) (Given (h.toList ++ pairs))
      (pairs.foldl (fun h p => h.insert p.1 p.2) h) := by
  have whole : pairs.foldl (fun h p => h.insert p.1 p.2) h = ofList (h.toList ++ pairs) := by
    have held : h.toList.foldl (fun h p => h.insert p.1 p.2) empty = h := ofTable_table h
    rw [ofList, List.foldl_append, held]
  rw [whole]
  exact ofList_maps _

/-! ## Objects -/

section

variable {t : Table String} {pairs : List (String × String)} {name value : String}

/-- In ascending order the spelling that comes last is the greatest. -/
theorem given_entries_iff : Given t.entries name value ↔
    ∃ spelling, sameLetters spelling name = true ∧ t.get? spelling = some value ∧
      ∀ e ∈ t.entries, sameLetters e.1 name = true → e.1 ≤ spelling := by
  constructor
  · rintro ⟨before, spelling, after, whole, same, others⟩
    -- what stands before is smaller, and what stands after is no spelling of the name
    have ascending := t.ascending
    rw [whole] at ascending
    have here : (spelling, value) ∈ t.entries := by simp [whole]
    refine ⟨spelling, same, Table.mem_entries_iff.mp here, fun e mem spelled => ?_⟩
    rw [whole, List.mem_append, List.mem_cons] at mem
    rcases mem with earlier | rfl | later
    · have less : e.1 < spelling := (List.pairwise_append.mp ascending).2.2 e earlier _ List.mem_cons_self
      exact String.not_lt.mp (String.lt_asymm less)
    · exact String.le_refl _
    · rw [others e later] at spelled
      contradiction
  · rintro ⟨spelling, same, found, greatest⟩
    obtain ⟨before, after, whole⟩ := List.append_of_mem (Table.mem_of_get? found)
    refine ⟨before, spelling, after, whole, same, fun e later => ?_⟩
    rw [Bool.eq_false_iff]
    intro spelled
    have ascending := t.ascending
    rw [whole] at ascending
    have greater : spelling < e.1 :=
      (List.pairwise_cons.mp (List.pairwise_append.mp ascending).2.1).1 e later
    exact greatest e (by simp [whole, later]) spelled greater

theorem mem_keys_ofList {spelling : String} :
    (∃ e ∈ (Table.ofList pairs).entries, e.1 = spelling) ↔ ∃ e ∈ pairs, e.1 = spelling := by
  constructor
  · rintro ⟨e, mem, rfl⟩
    rw [Table.mem_entries_iff, Table.get?_ofList] at mem
    exact ⟨_, Table.mem_of_lastValue? mem, rfl⟩
  · rintro ⟨e, mem, rfl⟩
    obtain ⟨value, found⟩ := Table.exists_lastValue? mem
    exact ⟨(e.1, value), Table.mem_entries_iff.mpr ((Table.get?_ofList ..).trans found), rfl⟩

theorem given_ofList_iff : Given (Table.ofList pairs).entries name value ↔ Survives pairs name value := by
  rw [given_entries_iff, Survives]
  refine exists_congr fun spelling => and_congr_right fun _ => ?_
  rw [Table.get?_ofList]
  refine and_congr_right fun _ => ?_
  constructor
  · intro greatest e mem same
    obtain ⟨e', mem', spelled⟩ := mem_keys_ofList.mpr ⟨e, mem, rfl⟩
    rw [← spelled] at same ⊢
    exact Utf8.encode_le_iff.mpr (greatest e' mem' same)
  · intro greatest e mem same
    obtain ⟨e', mem', spelled⟩ := mem_keys_ofList.mp ⟨e, mem, rfl⟩
    rw [← spelled] at same ⊢
    exact Utf8.encode_le_iff.mp (greatest e' mem' same)

theorem ofTable_ofList_maps (pairs : List (String × String)) :
    Maps (pairs.map Prod.fst) (Survives pairs) (ofTable (Table.ofList pairs)) := by
  refine maps_of (fun name value => get?_ofList_iff.trans given_ofList_iff) fun name => ?_
  rw [ofTable, contains_ofList_iff]
  constructor
  · rintro ⟨e, mem, same⟩
    obtain ⟨e', mem', spelled⟩ := mem_keys_ofList.mp ⟨e, mem, rfl⟩
    exact ⟨e'.1, List.mem_map_of_mem mem', spelled ▸ same⟩
  · rintro ⟨spelling, given, same⟩
    obtain ⟨e, mem, rfl⟩ := List.mem_map.mp given
    obtain ⟨e', mem', spelled⟩ := mem_keys_ofList.mpr ⟨e, mem, rfl⟩
    exact ⟨e', mem', spelled.symm ▸ same⟩

theorem shape_ofPairs (pairs : List (String × String)) :
    shape (Json.ofPairs pairs).toTree = .ok (ofTable (Table.ofList pairs)) := by
  rw [shape, Shape.map_string]
  rfl

end

/-! ## Headers of any origin -/

/-- Headers are a map without regard to case in which the last insertion counts, whether they are made from
pairs or read from an object of strings; and they are read back from what they are printed as. -/
theorem last_insertion_counts :
    (∀ pairs, Maps (pairs.map Prod.fst) (Given pairs) (ofList pairs)) ∧
    (∀ (h : Headers) pairs, Maps ((h.toList ++ pairs).map Prod.fst) (Given (h.toList ++ pairs))
      (pairs.foldl (fun h p => h.insert p.1 p.2) h)) ∧
    (∀ pairs pairs', (∀ name value, Given pairs name value ↔ Given pairs' name value) →
      ofList pairs = ofList pairs') ∧
    (∀ pairs, ∃ h, Maps (pairs.map Prod.fst) (Survives pairs) h ∧ shape.ReadsAs (Json.ofPairs pairs) h) ∧
    ∀ h, shape.ReadsAs h.toJson h := by
  refine ⟨ofList_maps, foldl_insert_maps, ?_, ?_, ?_⟩
  · intro pairs pairs' alike
    refine ext_get? fun name => Option.ext fun value => ?_
    rw [(ofList_maps pairs).get, (ofList_maps pairs').get, alike]
  · intro pairs
    exact ⟨_, ofTable_ofList_maps pairs, Shape.readsAs_of_whole (Json.whole_ofPairs pairs) (shape_ofPairs pairs)⟩
  · intro h
    exact Shape.readsAs_of_whole (Json.whole_ofPairs h.table.entries) h.shape_toJson

/-- A second spelling takes the place of the first one, and of two spellings in an object the greater counts. -/
theorem last_insertion_counts_in_two_spellings :
    (∀ name value, Given [("Accept", "a"), ("accept", "b")] name value ↔ Given [("ACCEPT", "b")] name value) ∧
      ofList [("Accept", "a"), ("accept", "b")] = ofList [("ACCEPT", "b")] ∧
      ∃ h, shape.ofJson (Json.ofPairs [("accept", "2"), ("Accept", "1")]) = .ok h ∧
        h.get? "ACCEPT" = some "2" := by
  have alike : ∀ name value,
      Given [("Accept", "a"), ("accept", "b")] name value ↔ Given [("ACCEPT", "b")] name value := by
    intro name value
    have spelled : sameLetters "Accept" name = sameLetters "accept" name := sameLetters_eq (by decide) name
    have spelled' : sameLetters "ACCEPT" name = sameLetters "accept" name := sameLetters_eq (by decide) name
    by_cases same : sameLetters "accept" name = true
    · exact (@given_concat_of_same [("Accept", "a")] ("accept", "b") name value same).trans
        (@given_concat_of_same [] ("ACCEPT", "b") name value (spelled'.trans same)).symm
    · have other : ¬ sameLetters "Accept" name = true := by rwa [spelled]
      have other' : ¬ sameLetters "ACCEPT" name = true := by rwa [spelled']
      exact (@given_concat_of_other [("Accept", "a")] ("accept", "b") name value same).trans
        ((@given_concat_of_other [] ("Accept", "a") name value other).trans
          (@given_concat_of_other [] ("ACCEPT", "b") name value other').symm)
  have survives : Survives [("accept", "2"), ("Accept", "1")] "ACCEPT" "2" := by
    refine ⟨"accept", by decide, by decide, ?_⟩
    simp only [List.forall_mem_cons, Utf8.encode_le_iff]
    decide
  have same : ofList [("Accept", "a"), ("accept", "b")] = ofList [("ACCEPT", "b")] :=
    last_insertion_counts.2.2.1 _ _ alike
  obtain ⟨h, maps, read, -⟩ := last_insertion_counts.2.2.2.1 [("accept", "2"), ("Accept", "1")]
  have found : h.get? "ACCEPT" = some "2" := (maps.get _ _).mpr survives
  exact ⟨alike, same, h, read, found⟩

end Headers
end Turnstile
