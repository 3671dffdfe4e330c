import Turnstile.Capture.Shelf
import Turnstile.Proofs.Capture.Registry
/-!
# Shelves

Whoever knows a resource pins its id, so no two known resources ever share one: what a key or an entry
is left over from is never taken for a newer resource. Every step keeps this.
-/
namespace Turnstile.Capture

namespace Resources

theorem isAlive_iff {rs : Resources} {r : Resource} : rs.isAlive r = true ↔ r ∈ rs.alive := by
  simp [isAlive]

theorem isAlive_drop (rs : Resources) (r q : Resource) :
    (rs.drop r).isAlive q = (rs.isAlive q && decide (q ≠ r)) := by
  rw [Bool.eq_iff_iff, Bool.and_eq_true, isAlive_iff, isAlive_iff, decide_eq_true_iff]
  simp [drop]

end Resources

namespace Shelf

variable {α : Type}

/-- There is a handle, a key or an entry of the resource. -/
inductive Known (s : Shelf α) (r : Resource) : Prop
  | handle {name : String} (held : s.handles.get? name = some r)
  | key {key : String} (kept : s.keys.get? key = some r)
  | entry {slot : Slot α} (listed : slot ∈ s.store.slots) (owned : slot.owner = r)

/-- What holds of every shelf. -/
structure Sound (s : Shelf α) : Prop where
  /-- Known resources under one id are the same. -/
  ids : ∀ {a b}, s.Known a → s.Known b → a.id = b.id → a = b
  births : ∀ {a b}, s.Known a → s.Known b → a.birth = b.birth → a = b
  made : ∀ {a}, s.Known a → a.birth < s.resources.born
  /-- Alive is what has a handle. -/
  held : ∀ r, s.resources.isAlive r = true ↔ ∃ name, s.handles.get? name = some r
  /-- A handle has one name. -/
  once : ∀ {a b r}, s.handles.get? a = some r → s.handles.get? b = some r → a = b

/-! ## Free ids -/

theorem Known.pinned {s : Shelf α} {r : Resource} (known : s.Known r) : r.id ∈ s.pinned := by
  rw [Shelf.pinned, List.mem_append, List.mem_map, List.mem_map]
  cases known with
  | handle held =>
    exact .inl ⟨_, List.mem_append_left _ (Table.mem_of_get? held), rfl⟩
  | key kept => exact .inl ⟨_, List.mem_append_right _ (Table.mem_of_get? kept), rfl⟩
  | entry listed owned => exact .inr ⟨_, listed, by rw [owned]⟩

theorem le_foldl_max {ids : List Nat} {id n : Nat} (bound : id ≤ n ∨ id ∈ ids) :
    id ≤ ids.foldl max n := by
  induction ids generalizing n with
  | nil =>
    rcases bound with le | mem
    · exact le
    · cases mem
  | cons first ids ih =>
    apply ih
    rcases bound with le | mem
    · exact .inl (Nat.le_trans le (Nat.le_max_left n first))
    · rcases List.mem_cons.mp mem with rfl | mem
      · exact .inl (Nat.le_max_right n id)
      · exact .inr mem

/-- A new handle's id is one that nobody knows. -/
theorem freeId_not_pinned (s : Shelf α) (wanted : Nat) : s.freeId wanted ∉ s.pinned := by
  rw [freeId]
  split
  · intro mem
    have le := le_foldl_max (n := 0) (.inr mem)
    omega
  · assumption

/-! ## Making and dropping handles -/

/-- The resource of the next handle. -/
def newest (s : Shelf α) (wanted : Nat) : Resource := ⟨s.freeId wanted, s.resources.born⟩

section

variable (s : Shelf α) (name : String)

theorem handles_drop (query : String) :
    (s.drop name).handles.get? query = if name = query then none else s.handles.get? query :=
  s.handles.get?_erase name query

theorem handles_create (id : Nat) (query : String) : (s.create name id).handles.get? query =
    if name = query then some (s.newest id) else s.handles.get? query :=
  s.handles.get?_insert name query (s.newest id)

theorem born_drop : (s.drop name).resources.born = s.resources.born := by
  rw [drop]
  cases s.handles.get? name <;> rfl

theorem born_create (id : Nat) : (s.create name id).resources.born = s.resources.born + 1 := by
  rw [create]
  cases s.handles.get? name <;> rfl

theorem isAlive_drop (q : Resource) : (s.drop name).resources.isAlive q =
    (s.resources.isAlive q && decide (s.handles.get? name ≠ some q)) := by
  rw [drop]
  cases s.handles.get? name with
  | none => simp
  | some r => simp [Resources.isAlive_drop, eq_comm]

theorem isAlive_create (id : Nat) (q : Resource) : (s.create name id).resources.isAlive q =
    ((decide (q = s.newest id) || s.resources.isAlive q) &&
      decide (s.handles.get? name ≠ some q)) := by
  have added : (s.resources.createAt (s.freeId id)).2.isAlive q =
      (decide (q = s.newest id) || s.resources.isAlive q) := by
    rw [Bool.eq_iff_iff, Bool.or_eq_true, decide_eq_true_iff, Resources.isAlive_iff,
      Resources.isAlive_iff]
    exact List.mem_cons
  rw [create]
  cases s.handles.get? name with
  | none => simpa using added
  | some r =>
    show ((s.resources.createAt (s.freeId id)).2.drop r).isAlive q = _
    rw [Resources.isAlive_drop, added]
    simp [eq_comm]

theorem known_drop {q : Resource} (known : (s.drop name).Known q) : s.Known q := by
  cases known with
  | handle held =>
    rw [handles_drop] at held
    split at held
    · cases held
    · exact .handle held
  | key kept => exact .key kept
  | entry listed owned => exact .entry listed owned

theorem known_create {id : Nat} {q : Resource} (known : (s.create name id).Known q) :
    q = s.newest id ∨ s.Known q := by
  cases known with
  | handle held =>
    rw [handles_create] at held
    split at held
    · exact .inl (Option.some.inj held).symm
    · exact .inr (.handle held)
  | key kept => exact .inr (.key kept)
  | entry listed owned => exact .inr (.entry listed owned)

theorem known_remember {s : Shelf α} {name key : String} {r q : Resource}
    (held : s.handles.get? name = some r)
    (known : ({ s with keys := s.keys.insert key r } : Shelf α).Known q) : s.Known q := by
  cases known with
  | handle held => exact .handle held
  | entry listed owned => exact .entry listed owned
  | key kept =>
    rw [Table.get?_insert] at kept
    split at kept
    · cases kept
      exact .handle held
    · exact .key kept

theorem known_restock {s : Shelf α} {store : Store α} {r : Resource}
    (owners : ∀ slot ∈ store.slots, s.Known slot.owner)
    (known : ({ s with store := store } : Shelf α).Known r) : s.Known r := by
  cases known with
  | handle held => exact .handle held
  | key kept => exact .key kept
  | entry listed owned => exact owned ▸ owners _ listed

theorem Known.ne_newest {s : Shelf α} {r : Resource} (known : s.Known r) (wanted : Nat) :
    r.id ≠ (s.newest wanted).id := by
  intro eq
  have free := s.freeId_not_pinned wanted
  rw [← show r.id = s.freeId wanted from eq] at free
  exact free known.pinned

end

/-- A step through a handle or a key leaves an entry alone if what is done with its resource does. -/
theorem mem_through {s : Shelf α} {slot : Slot α} {found : Option Resource}
    {f : Resource → ShelfReport α × Shelf α}
    (present : ∀ r, found = some r → (slot ∈ (f r).2.store.slots ↔ slot ∈ s.store.slots)) :
    slot ∈ (found.elim (.unknown, s) f).2.store.slots ↔ slot ∈ s.store.slots := by
  cases found with
  | none => exact Iff.rfl
  | some r => exact present r rfl

theorem not_known_empty (r : Resource) : ¬ (empty : Shelf α).Known r := by
  rintro (held | kept | ⟨listed, -⟩)
  · cases held
  · cases kept
  · cases listed

theorem empty_sound : (empty : Shelf α).Sound where
  ids := fun known => absurd known (not_known_empty _)
  births := fun known => absurd known (not_known_empty _)
  made := fun known => absurd known (not_known_empty _)
  held := by
    intro r
    constructor
    · rintro ⟨⟩
    · rintro ⟨name, ⟨⟩⟩
  once := by
    rintro a b r ⟨⟩

namespace Sound

variable {s : Shelf α} (sound : s.Sound)
include sound

/-! ## Steps -/

/-- Nothing becomes known that was not, and no handle changes. -/
theorem within {s' : Shelf α} (known : ∀ r, s'.Known r → s.Known r)
    (resources : s'.resources = s.resources) (handles : s'.handles = s.handles) : s'.Sound where
  ids := fun a b eq => sound.ids (known _ a) (known _ b) eq
  births := fun a b eq => sound.births (known _ a) (known _ b) eq
  made := fun a => by
    rw [resources]
    exact sound.made (known _ a)
  held := by
    rw [resources, handles]
    exact sound.held
  once := by
    rw [handles]
    exact sound.once

theorem restock {store : Store α} (owners : ∀ slot ∈ store.slots, s.Known slot.owner) :
    ({ s with store := store } : Shelf α).Sound :=
  sound.within (fun _ known => known_restock owners known) rfl rfl

theorem remember {name : String} {r : Resource} (held : s.handles.get? name = some r) (key : String) :
    ({ s with keys := s.keys.insert key r } : Shelf α).Sound :=
  sound.within (fun _ known => known_remember held known) rfl rfl

theorem drop (name : String) : (s.drop name).Sound where
  ids := fun a b eq => sound.ids (s.known_drop name a) (s.known_drop name b) eq
  births := fun a b eq => sound.births (s.known_drop name a) (s.known_drop name b) eq
  made := fun a => by
    rw [born_drop]
    exact sound.made (s.known_drop name a)
  held := by
    intro r
    rw [isAlive_drop, Bool.and_eq_true, decide_eq_true_iff, sound.held]
    constructor
    · rintro ⟨⟨other, held⟩, kept⟩
      have ne : name ≠ other := fun eq => kept (eq ▸ held)
      exact ⟨other, by rw [handles_drop, if_neg ne, held]⟩
    · rintro ⟨other, held⟩
      rw [handles_drop] at held
      split at held
      · cases held
      · rename_i ne
        exact ⟨⟨other, held⟩, fun dropped => ne (sound.once dropped held)⟩
  once := by
    intro a b r left right
    rw [handles_drop] at left right
    split at left
    · cases left
    · split at right
      · cases right
      · exact sound.once left right

theorem create (name : String) (id : Nat) : (s.create name id).Sound where
  ids := by
    intro a b known known' eq
    rcases s.known_create name known with rfl | known
    · rcases s.known_create name known' with rfl | known'
      · rfl
      · exact absurd eq.symm (known'.ne_newest id)
    · rcases s.known_create name known' with rfl | known'
      · exact absurd eq (known.ne_newest id)
      · exact sound.ids known known' eq
  births := by
    intro a b known known' eq
    rcases s.known_create name known with rfl | known
    · rcases s.known_create name known' with rfl | known'
      · rfl
      · exact absurd eq.symm (Nat.ne_of_lt (sound.made known'))
    · rcases s.known_create name known' with rfl | known'
      · exact absurd eq (Nat.ne_of_lt (sound.made known))
      · exact sound.births known known' eq
  made := by
    intro a known
    rw [born_create]
    rcases s.known_create name known with rfl | known
    · exact Nat.lt_succ_self _
    · exact Nat.lt_succ_of_lt (sound.made known)
  held := by
    intro r
    rw [isAlive_create, Bool.and_eq_true, Bool.or_eq_true, decide_eq_true_iff, decide_eq_true_iff,
      sound.held]
    constructor
    · rintro ⟨rfl | ⟨other, held⟩, kept⟩
      · exact ⟨name, by rw [handles_create, if_pos rfl]⟩
      · have ne : name ≠ other := fun eq => kept (eq ▸ held)
        exact ⟨other, by rw [handles_create, if_neg ne, held]⟩
    · rintro ⟨other, held⟩
      rw [handles_create] at held
      split at held
      · cases held
        exact ⟨.inl rfl, fun old => (Known.handle old).ne_newest id rfl⟩
      · rename_i ne
        exact ⟨.inr ⟨other, held⟩, fun old => ne (sound.once old held)⟩
  once := by
    intro a b r left right
    rw [handles_create] at left right
    split at left
    · rename_i here
      split at right
      · rename_i here'
        exact here.symm.trans here'
      · cases left
        exact absurd rfl ((Known.handle right).ne_newest id)
    · split at right
      · cases right
        exact absurd rfl ((Known.handle left).ne_newest id)
      · exact sound.once left right

/-! ## Look-ups -/

/-- An entry under the id of a known resource is that resource's. -/
theorem owner_eq {r : Resource} (known : s.Known r) {slot : Slot α} (listed : slot ∈ s.store.slots) :
    slot.owner.id = r.id ↔ slot.owner = r :=
  ⟨sound.ids (.entry listed rfl) known, congrArg Resource.id⟩

theorem id_eq_iff {r : Resource} (known : s.Known r) {slot : Slot α} (listed : slot ∈ s.store.slots) :
    slot.owner.id = r.id ↔ slot.owner.birth = r.birth := by
  rw [sound.owner_eq known listed]
  exact ⟨congrArg Resource.birth, sound.births (.entry listed rfl) known⟩

/-- A look-up by the key of a resource that is alive finds what is attached to it. -/
theorem getKey_of_alive {r : Resource} (known : s.Known r) (live : s.resources.isAlive r = true) :
    s.store.getKey s.resources.isAlive r = (s.store.get? r, s.store) := by
  rw [Store.getKey, Store.get?]
  cases found : s.store.slot? r.id with
  | none => rfl
  | some slot =>
    obtain ⟨listed, here⟩ := Store.slot?_eq_some_iff.mp found
    have own := (sound.owner_eq known listed).mp here
    simp only [own, live, if_true]
    rfl

/-- A look-up by the key of a resource that is not finds nothing, and takes its entry out. -/
theorem getKey_of_dead {r : Resource} (known : s.Known r) (dead : s.resources.isAlive r = false) :
    s.store.getKey s.resources.isAlive r = (none, s.store.erase r.id) := by
  rw [Store.getKey]
  cases found : s.store.slot? r.id with
  | none =>
    have lacks := Store.slot?_eq_none_iff.mp found
    have same : s.store.erase r.id = s.store := Store.eq_of_slots <| List.filter_eq_self.mpr
      fun slot mem => by simpa using lacks slot mem
    rw [same]
  | some slot =>
    obtain ⟨listed, here⟩ := Store.slot?_eq_some_iff.mp found
    have own := (sound.owner_eq known listed).mp here
    simp only [own, dead, Bool.false_eq_true, if_false]

end Sound
end Shelf
end Turnstile.Capture
