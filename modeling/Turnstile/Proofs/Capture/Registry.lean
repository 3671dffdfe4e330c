import Turnstile.Capture.Store
/-!
# Correlation stores by their entries

A look-up under an id gives exactly the entry that stands there, and each operation has one equation for
it. `others` is what a store holds apart from some ids: nothing done under those ids changes it, and once
they are empty it is the whole store.
-/
namespace Turnstile.Capture

variable {α : Type}

namespace Store

/-- No entry stands under the id. -/
def Lacks (s : Store α) (id : Nat) : Prop := ∀ slot ∈ s.slots, slot.owner.id ≠ id

/-- The entries under all ids but these. -/
def others (s : Store α) (ids : List Nat) : List (Slot α) :=
  s.slots.filter fun slot => slot.owner.id ∉ ids

theorem eq_of_slots {s t : Store α} (same : s.slots = t.slots) : s = t := by
  cases s
  cases t
  cases same
  rfl

/-- Two entries under one id are the same. -/
theorem eq_of_id {s : Store α} {a b : Slot α} (left : a ∈ s.slots) (right : b ∈ s.slots)
    (same : a.owner.id = b.owner.id) : a = b := by
  have apart : s.slots.Pairwise fun a b => a.owner.id = b.owner.id → a = b :=
    s.distinct.imp fun ne eq => absurd eq ne
  have flipped : s.slots.Pairwise (flip fun a b => a.owner.id = b.owner.id → a = b) :=
    s.distinct.imp fun ne eq => absurd eq.symm ne
  exact apart.forall_of_forall_of_flip (fun _ _ _ => rfl) flipped left right same

theorem slot?_eq_some_iff {s : Store α} {id : Nat} {slot : Slot α} :
    s.slot? id = some slot ↔ slot ∈ s.slots ∧ slot.owner.id = id := by
  constructor
  · intro found
    have holds : (slot.owner.id == id) = true :=
      List.find?_some (p := fun slot : Slot α => slot.owner.id == id) found
    exact ⟨List.mem_of_find?_eq_some found, by simpa using holds⟩
  · rintro ⟨mem, rfl⟩
    cases found : s.slot? slot.owner.id with
    | none =>
      have absent := List.find?_eq_none.mp found slot mem
      simp at absent
    | some other =>
      have holds : (other.owner.id == slot.owner.id) = true :=
        List.find?_some (p := fun other : Slot α => other.owner.id == slot.owner.id) found
      have listed : other ∈ s.slots := List.mem_of_find?_eq_some found
      rw [eq_of_id listed mem (by simpa using holds)]

theorem slot?_eq_none_iff {s : Store α} {id : Nat} : s.slot? id = none ↔ s.Lacks id := by
  simp [slot?, Lacks]

theorem Lacks.get?_eq_none {s : Store α} {r : Resource} (lacks : s.Lacks r.id) : s.get? r = none := by
  rw [get?, slot?_eq_none_iff.mpr lacks]
  rfl

/-! ## Removing entries -/

theorem mem_erase {s : Store α} {id : Nat} {slot : Slot α} :
    slot ∈ (s.erase id).slots ↔ slot ∈ s.slots ∧ slot.owner.id ≠ id := by
  simp [erase]

theorem lacks_erase (s : Store α) (id : Nat) : (s.erase id).Lacks id :=
  fun _ mem => (mem_erase.mp mem).2

/-- Removing an id leaves exactly what stood under all others. -/
theorem slot?_erase (s : Store α) (id query : Nat) :
    (s.erase id).slot? query = if id = query then none else s.slot? query := by
  by_cases same : id = query
  · rw [if_pos same, slot?_eq_none_iff, ← same]
    exact lacks_erase s id
  · rw [if_neg same]
    ext slot
    rw [slot?_eq_some_iff, slot?_eq_some_iff, mem_erase]
    constructor
    · rintro ⟨⟨mem, _⟩, here⟩
      exact ⟨mem, here⟩
    · rintro ⟨mem, here⟩
      exact ⟨⟨mem, fun eq => same (eq.symm.trans here)⟩, here⟩

/-! ## Attaching -/

theorem mem_attach {s : Store α} {r : Resource} {value : α} {slot : Slot α} :
    slot ∈ (s.attach r value).slots ↔ slot = ⟨r, value⟩ ∨ slot ∈ s.slots ∧ slot.owner.id ≠ r.id := by
  simp [attach, mem_erase]

/-- A value attached to a resource stands under its id, and all else where it was. -/
theorem slot?_attach (s : Store α) (r : Resource) (value : α) (query : Nat) :
    (s.attach r value).slot? query = if r.id = query then some ⟨r, value⟩ else s.slot? query := by
  by_cases same : r.id = query
  · rw [if_pos same, slot?_eq_some_iff, mem_attach]
    exact ⟨.inl rfl, same⟩
  · rw [if_neg same]
    have here : (r.id == query) = false := by simpa using same
    have rest := slot?_erase s r.id query
    rw [if_neg same] at rest
    rw [← rest, slot?, slot?, attach, List.find?_cons]
    simp only [here]

theorem get?_attach (s : Store α) (r : Resource) (value : α) : (s.attach r value).get? r = some value := by
  rw [get?, slot?_attach, if_pos rfl]
  rfl

/-! ## Looking up by a key -/

/-- The value under a key, if its entry is alive. -/
theorem getKey_fst (s : Store α) (alive : Resource → Bool) (key : Resource) :
    (s.getKey alive key).1 =
      (s.slot? key.id).bind fun slot => if alive slot.owner then some slot.value else none := by
  cases found : s.slot? key.id with
  | none => simp [getKey, found]
  | some slot => by_cases live : alive slot.owner <;> simp [getKey, found, live]

/-- A look-up leaves the store as it is, or takes the dead entry under its key out. -/
theorem getKey_snd (s : Store α) (alive : Resource → Bool) (key : Resource) :
    (s.getKey alive key).2 = s ∨
      (s.getKey alive key).2 = s.erase key.id ∧ (s.getKey alive key).1 = none := by
  cases found : s.slot? key.id with
  | none => simp [getKey, found]
  | some slot => by_cases live : alive slot.owner <;> simp [getKey, found, live]

/-- A look-up by one key does not change what another one finds. -/
theorem getKey_getKey (s : Store α) (alive : Resource → Bool) (first second : Resource) :
    ((s.getKey alive first).2.getKey alive second).1 = (s.getKey alive second).1 := by
  rcases getKey_snd s alive first with same | ⟨erased, dead⟩
  · rw [same]
  · rw [erased, getKey_fst, getKey_fst, slot?_erase]
    by_cases eq : first.id = second.id
    · rw [getKey_fst, eq] at dead
      rw [if_pos eq, dead]
      rfl
    · rw [if_neg eq]

/-! ## What stands apart from some ids -/

theorem mem_others {s : Store α} {ids : List Nat} {slot : Slot α} :
    slot ∈ s.others ids ↔ slot ∈ s.slots ∧ slot.owner.id ∉ ids := by
  simp [others]

/-- Of two stores with the same others, one holds nothing under an id apart that the other does not. -/
theorem mem_of_others_eq {s s' : Store α} {ids : List Nat} {slot : Slot α}
    (same : s'.others ids = s.others ids) (mem : slot ∈ s'.slots) (out : slot.owner.id ∉ ids) :
    slot ∈ s.slots := by
  have before := mem_others.mpr ⟨mem, out⟩
  rw [same] at before
  exact (mem_others.mp before).1

theorem Lacks.of_others_eq {s s' : Store α} {ids : List Nat} {id : Nat} (lacks : s.Lacks id)
    (same : s'.others ids = s.others ids) (out : id ∉ ids) : s'.Lacks id :=
  fun slot mem eq => lacks slot (mem_of_others_eq same mem (eq ▸ out)) eq

theorem others_attach (s : Store α) {r : Resource} {ids : List Nat} (mem : r.id ∈ ids) (value : α) :
    (s.attach r value).others ids = s.others ids := by
  rw [others, attach, List.filter_cons, if_neg (by simpa using mem), Store.erase, List.filter_filter,
    others]
  apply List.filter_congr
  intro slot _
  by_cases inside : slot.owner.id ∈ ids
  · simp [inside]
  · have ne : slot.owner.id ≠ r.id := fun eq => inside (eq ▸ mem)
    simp [inside, ne]

theorem others_erase (s : Store α) {id : Nat} {ids : List Nat} (mem : id ∈ ids) :
    (s.erase id).others ids = s.others ids := by
  rw [others, Store.erase, List.filter_filter, others]
  apply List.filter_congr
  intro slot _
  by_cases inside : slot.owner.id ∈ ids
  · simp [inside]
  · have ne : slot.owner.id ≠ id := fun eq => inside (eq ▸ mem)
    simp [inside, ne]

theorem others_getKey (s : Store α) (alive : Resource → Bool) {key : Resource} {ids : List Nat}
    (mem : key.id ∈ ids) : (s.getKey alive key).2.others ids = s.others ids := by
  rcases getKey_snd s alive key with same | ⟨erased, _⟩
  · rw [same]
  · rw [erased, others_erase s mem]

theorem others_nil (s : Store α) : s.others [] = s.slots := by
  simp [others]

theorem others_cons (s : Store α) (id : Nat) (ids : List Nat) :
    s.others (id :: ids) = (s.erase id).others ids := by
  rw [others, others, Store.erase, List.filter_filter]
  apply List.filter_congr
  intro slot _
  simp [Bool.and_comm]

theorem others_of_lacks {s : Store α} {ids : List Nat} (lacks : ∀ id ∈ ids, s.Lacks id) :
    s.others ids = s.slots := by
  rw [others, List.filter_eq_self]
  intro slot mem
  have outside : slot.owner.id ∉ ids := fun inside => lacks _ inside slot mem rfl
  simpa using outside

end Store

namespace Registry

/-- Every place of the registry belongs to a store. -/
theorem exists_index : ∀ i : Fin 8, ∃ k : StoreKey, k.index = i
  | 0 => ⟨⟨.byteInput, .request⟩, rfl⟩
  | 1 => ⟨⟨.byteInput, .response⟩, rfl⟩
  | 2 => ⟨⟨.charInput, .request⟩, rfl⟩
  | 3 => ⟨⟨.charInput, .response⟩, rfl⟩
  | 4 => ⟨⟨.byteOutput, .request⟩, rfl⟩
  | 5 => ⟨⟨.byteOutput, .response⟩, rfl⟩
  | 6 => ⟨⟨.charOutput, .request⟩, rfl⟩
  | 7 => ⟨⟨.charOutput, .response⟩, rfl⟩

/-- Registries that agree in every store are equal. -/
theorem ext_store {r s : Registry α} (same : ∀ k, r.store k = s.store k) : r = s := by
  obtain ⟨xs⟩ := r
  obtain ⟨ys⟩ := s
  congr 1
  ext i bound : 1
  obtain ⟨k, here⟩ := exists_index ⟨i, bound⟩
  have at_k := same k
  simp only [store, here] at at_k
  exact at_k

theorem store_attach (r : Registry α) (k l : StoreKey) (resource : Resource) (value : α) :
    (r.attach k resource value).store l =
      if k = l then (r.store l).attach resource value else r.store l := by
  rw [attach, store_setStore]
  by_cases same : k = l
  · rw [if_pos same, if_pos same, same]
  · rw [if_neg same, if_neg same]

@[simp] theorem store_detachAll (r : Registry α) (resource : Resource) (k : StoreKey) :
    (r.detachAll resource).store k = (r.store k).erase resource.id := by
  simp [store, detachAll]

@[simp] theorem store_sweep (r : Registry α) (alive : Resource → Bool) (k : StoreKey) :
    (r.sweep alive).store k = (r.store k).sweep alive := by
  simp [store, sweep]

@[simp] theorem store_empty (k : StoreKey) : (empty : Registry α).store k = .empty := by
  simp [store, empty]

end Registry
end Turnstile.Capture
