/-!
# Tables

A table maps names to values. Its entries stand in strictly ascending order of their names, by code
point, so two tables with the same values are equal. `get?_insert` says what an insertion does.
-/
namespace Turnstile

/-- A finite map from names to values, in ascending order of the names. -/
structure Table (α : Type) where
  /-- The names with their values. -/
  entries : List (String × α)
  /-- Every name is smaller than all names after it. -/
  ascending : entries.Pairwise (fun a b => a.1 < b.1)

namespace Table

variable {α : Type}

def empty : Table α := ⟨[], .nil⟩

instance : Inhabited (Table α) := ⟨empty⟩

instance [DecidableEq α] : DecidableEq (Table α) := fun s t =>
  if h : s.entries = t.entries then
    isTrue (by cases s; cases t; simp_all)
  else isFalse (fun e => h (congrArg entries e))

/-- Ascending entries with one name set to a value. -/
def insertInto (name : String) (value : α) : List (String × α) → List (String × α)
  | [] => [(name, value)]
  | (n, v) :: rest =>
    if name < n then (name, value) :: (n, v) :: rest
    else if name = n then (name, value) :: rest
    else (n, v) :: insertInto name value rest

theorem mem_insertInto {name : String} {value : α} {es : List (String × α)} {e : String × α}
    (h : e ∈ insertInto name value es) : e = (name, value) ∨ e ∈ es := by
  induction es with
  | nil => simpa [insertInto] using h
  | cons head rest ih =>
    unfold insertInto at h
    split at h
    · simpa using h
    · split at h
      · simp only [List.mem_cons] at h ⊢
        rcases h with h | h
        · exact .inl h
        · exact .inr (.inr h)
      · simp only [List.mem_cons] at h ⊢
        rcases h with h | h
        · exact .inr (.inl h)
        · rcases ih h with h | h
          · exact .inl h
          · exact .inr (.inr h)

/-- A name that is neither smaller nor equal is greater. -/
theorem lt_of_not_lt_of_ne {a b : String} (h : ¬a < b) (ne : a ≠ b) : b < a := by
  rcases String.le_total a b with le | le
  · exact absurd (String.le_antisymm le (fun lt => h lt)) ne
  · exact Classical.byContradiction fun not => ne (String.le_antisymm not h)

theorem insertInto_ascending (name : String) (value : α) {es : List (String × α)}
    (h : es.Pairwise (fun a b => a.1 < b.1)) :
    (insertInto name value es).Pairwise (fun a b => a.1 < b.1) := by
  induction es with
  | nil => simp [insertInto]
  | cons head rest ih =>
    obtain ⟨first, tail⟩ := List.pairwise_cons.mp h
    unfold insertInto
    split
    · rename_i lt
      refine List.pairwise_cons.mpr ⟨fun e mem => ?_, h⟩
      rcases List.mem_cons.mp mem with rfl | mem
      · exact lt
      · exact String.lt_trans lt (first e mem)
    · split
      · rename_i eq
        exact List.pairwise_cons.mpr ⟨fun e mem => eq ▸ first e mem, tail⟩
      · rename_i lt ne
        refine List.pairwise_cons.mpr ⟨fun e mem => ?_, ih tail⟩
        rcases mem_insertInto mem with rfl | mem
        · exact lt_of_not_lt_of_ne lt ne
        · exact first e mem

/-- The table with one name set to a value. -/
def insert (t : Table α) (name : String) (value : α) : Table α :=
  ⟨insertInto name value t.entries, insertInto_ascending name value t.ascending⟩

def get? (t : Table α) (name : String) : Option α :=
  (t.entries.find? (fun e => e.1 == name)).map Prod.snd

def contains (t : Table α) (name : String) : Bool :=
  (t.get? name).isSome

def size (t : Table α) : Nat := t.entries.length

def isEmpty (t : Table α) : Bool := t.entries.isEmpty

/-- The table with every pair inserted in turn, so the last value of a name stays. -/
def insertAll (t : Table α) (pairs : List (String × α)) : Table α :=
  pairs.foldl (fun t p => t.insert p.1 p.2) t

/-- The table of a list of pairs; the last value of a name stays. -/
def ofList (pairs : List (String × α)) : Table α :=
  empty.insertAll pairs

def erase (t : Table α) (name : String) : Table α :=
  ⟨t.entries.filter (fun e => e.1 != name), t.ascending.filter _⟩

/-- The first table with every entry of the second inserted over it. -/
def overlay (t u : Table α) : Table α :=
  t.insertAll u.entries

private theorem find?_insertInto (name query : String) (value : α) (es : List (String × α)) :
    ((insertInto name value es).find? (fun e => e.1 == query)).map Prod.snd =
      if name = query then some value else (es.find? (fun e => e.1 == query)).map Prod.snd := by
  induction es with
  | nil => by_cases h : name = query <;> simp [insertInto, h]
  | cons head rest ih =>
    obtain ⟨n, v⟩ := head
    unfold insertInto
    split
    · by_cases h : name = query <;> simp [List.find?_cons, h]
    · split
      · rename_i eq
        by_cases h : name = query
        · simp [h]
        · simp [← eq, h]
      · rename_i ne
        by_cases hn : n = query
        · have : ¬name = query := fun h => ne (h.trans hn.symm)
          simp [hn, this]
        · simp only [List.find?_cons, beq_eq_false_iff_ne.mpr hn]
          exact ih

/-- An insertion sets its own name and leaves every other name as it was. -/
theorem get?_insert (t : Table α) (name query : String) (value : α) :
    (t.insert name value).get? query = if name = query then some value else t.get? query :=
  find?_insertInto name query value t.entries

/-- Erasing a name leaves every other name as it was. -/
theorem get?_erase (t : Table α) (name query : String) :
    (t.erase name).get? query = if name = query then none else t.get? query := by
  rw [get?, erase, List.find?_filter]
  by_cases same : name = query
  · rw [if_pos same, ← same]
    simp
  · rw [if_neg same, get?]
    congr 2
    funext e
    by_cases here : e.1 = query
    · simp [here, Ne.symm same]
    · simp [here]

theorem mem_of_get? {t : Table α} {name : String} {value : α} (found : t.get? name = some value) :
    (name, value) ∈ t.entries := by
  obtain ⟨e, here, rfl⟩ := Option.map_eq_some_iff.mp found
  have named : e.1 = name := by simpa using List.find?_some here
  rw [← named]
  exact List.mem_of_find?_eq_some here

end Table
end Turnstile
