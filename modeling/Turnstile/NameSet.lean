import Turnstile.Table
/-!
# Sets of names

A finite set of texts in strictly ascending order, by code point, so two sets with the same members
are equal.
-/
namespace Turnstile

/-- A finite set of texts. -/
structure NameSet where
  /-- The members. -/
  toList : List String
  /-- Every member is smaller than all members after it. -/
  ascending : toList.Pairwise (· < ·)
deriving DecidableEq

namespace NameSet

def empty : NameSet := ⟨[], .nil⟩

instance : Inhabited NameSet := ⟨empty⟩

/-- Ascending members with one more. -/
def insertInto (name : String) : List String → List String
  | [] => [name]
  | n :: rest =>
    if name < n then name :: n :: rest
    else if name = n then n :: rest
    else n :: insertInto name rest

/-- The members after an insertion. -/
theorem mem_insertInto {name query : String} {ns : List String} :
    query ∈ insertInto name ns ↔ query = name ∨ query ∈ ns := by
  induction ns with
  | nil => simp [insertInto]
  | cons n rest ih =>
    unfold insertInto
    split
    · simp
    · split
      · rename_i eq
        subst eq
        simp
      · simp only [List.mem_cons, ih]
        constructor
        · rintro (h | h | h)
          · exact .inr (.inl h)
          · exact .inl h
          · exact .inr (.inr h)
        · rintro (h | h | h)
          · exact .inr (.inl h)
          · exact .inl h
          · exact .inr (.inr h)

theorem insertInto_ascending (name : String) {ns : List String} (h : ns.Pairwise (· < ·)) :
    (insertInto name ns).Pairwise (· < ·) := by
  induction ns with
  | nil => simp [insertInto]
  | cons n rest ih =>
    obtain ⟨first, tail⟩ := List.pairwise_cons.mp h
    unfold insertInto
    split
    · rename_i lt
      refine List.pairwise_cons.mpr ⟨fun m mem => ?_, h⟩
      rcases List.mem_cons.mp mem with rfl | mem
      · exact lt
      · exact String.lt_trans lt (first m mem)
    · split
      · exact h
      · rename_i lt ne
        refine List.pairwise_cons.mpr ⟨fun m mem => ?_, ih tail⟩
        rcases mem_insertInto.mp mem with rfl | mem
        · exact Table.lt_of_not_lt_of_ne lt ne
        · exact first m mem

/-- The set with one more member. -/
def insert (s : NameSet) (name : String) : NameSet :=
  ⟨insertInto name s.toList, insertInto_ascending name s.ascending⟩

/-- The set of the members of a list. -/
def ofList (names : List String) : NameSet :=
  names.foldl insert empty

def contains (s : NameSet) (name : String) : Bool :=
  s.toList.contains name

def isEmpty (s : NameSet) : Bool := s.toList.isEmpty

/-- The members of the first set that are in the second too. -/
def inter (s t : NameSet) : NameSet :=
  ⟨s.toList.filter t.contains, s.ascending.filter _⟩

end NameSet
end Turnstile
