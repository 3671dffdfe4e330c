import Turnstile.Capture.CallDepth
import Turnstile.Capture.Resource
/-!
# Correlation stores

A store attaches one value to a resource, by its id. An entry does not keep its resource alive: once
the handle is dropped the entry is dead, a look-up by key removes it, and a sweep removes all that
are dead. The registry holds one store for each kind of stream and side of the exchange.
-/
namespace Turnstile.Capture

/-- An attached value. -/
structure Slot (α : Type) where
  owner : Resource
  value : α

/-- Values attached to resources, at most one to an id. -/
structure Store (α : Type) where
  slots : List (Slot α)
  distinct : slots.Pairwise (fun s t => s.owner.id ≠ t.owner.id)

namespace Store

variable {α : Type}

def empty : Store α := ⟨[], .nil⟩

instance : Inhabited (Store α) := ⟨empty⟩

def slot? (s : Store α) (id : Nat) : Option (Slot α) :=
  s.slots.find? fun slot => slot.owner.id == id

/-- The value attached to a resource whose handle is held. -/
def get? (s : Store α) (r : Resource) : Option α := (s.slot? r.id).map Slot.value

def erase (s : Store α) (id : Nat) : Store α :=
  ⟨s.slots.filter fun slot => slot.owner.id ≠ id, s.distinct.filter _⟩

/-- The store with a value attached to a resource in place of the one before. -/
def attach (s : Store α) (r : Resource) (value : α) : Store α where
  slots := ⟨r, value⟩ :: (s.erase r.id).slots
  distinct := List.pairwise_cons.mpr
    ⟨fun slot mem => by
      have := (List.mem_filter.mp mem).2
      simp only [ne_eq, decide_not, Bool.not_eq_eq_eq_not, Bool.not_true, decide_eq_false_iff_not] at this
      exact fun eq => this eq.symm,
     (s.erase r.id).distinct⟩

/-- The value found by a key, and the store after the look-up: a dead entry is removed. -/
def getKey (s : Store α) (alive : Resource → Bool) (key : Resource) : Option α × Store α :=
  match s.slot? key.id with
  | none => (none, s)
  | some slot => if alive slot.owner then (some slot.value, s) else (none, s.erase key.id)

def sweep (s : Store α) (alive : Resource → Bool) : Store α :=
  ⟨s.slots.filter fun slot => alive slot.owner, s.distinct.filter _⟩

/-- How many entries there are, dead ones included. -/
def size (s : Store α) : Nat := s.slots.length

def isEmpty (s : Store α) : Bool := s.slots.isEmpty

def debugText (s : Store α) : String :=
  "CorrelationStore \x7b entries: " ++ toString s.size ++ " \x7d"

end Store

/-- A side of the exchange. -/
inductive Direction
  | request
  | response
deriving DecidableEq, Repr

namespace Direction

def index : Direction → Fin 2
  | .request => 0
  | .response => 1

theorem index_inj {d e : Direction} (same : d.index = e.index) : d = e := by
  cases d <;> cases e <;> first | rfl | exact absurd same (by decide)

def name : Direction → String
  | .request => "Request"
  | .response => "Response"

def ofName? (name : String) : Option Direction :=
  [Direction.request, Direction.response].find? fun d => d.name == name

end Direction

/-- The kind of stream and the side of the exchange that a store is for. -/
structure StoreKey where
  kind : StreamKind
  direction : Direction
deriving DecidableEq, Repr

namespace StoreKey

/-- The place of a store in the registry: the two sides of a kind stand side by side. -/
def index (k : StoreKey) : Fin 8 := ⟨k.kind.index * 2 + k.direction.index, by omega⟩

theorem index_injective {k l : StoreKey} (h : k.index = l.index) : k = l := by
  have places : (k.kind.index : Nat) * 2 + k.direction.index = l.kind.index * 2 + l.direction.index :=
    congrArg Fin.val h
  have kind : k.kind = l.kind := StreamKind.index_inj (by omega)
  have side : k.direction = l.direction := Direction.index_inj (by omega)
  cases k
  cases l
  rw [mk.injEq]
  exact ⟨kind, side⟩

end StoreKey

/-- A store of each kind. -/
structure Registry (α : Type) where
  stores : Vector (Store α) 8

namespace Registry

variable {α : Type}

def empty : Registry α := ⟨.replicate 8 .empty⟩

instance : Inhabited (Registry α) := ⟨empty⟩

def store (r : Registry α) (k : StoreKey) : Store α := r.stores[k.index]

/-- The registry with one store replaced. -/
def setStore (r : Registry α) (k : StoreKey) (s : Store α) : Registry α :=
  ⟨r.stores.set k.index s k.index.isLt⟩

/-- Replacing one store leaves the others as they were. -/
theorem store_setStore (r : Registry α) (k l : StoreKey) (s : Store α) :
    (r.setStore k s).store l = if k = l then s else r.store l := by
  by_cases h : k = l
  · simp [store, setStore, h]
  · have ne : (k.index : Nat) ≠ l.index := fun eq => h (StoreKey.index_injective (Fin.ext eq))
    simp [store, setStore, h, ne]

/-- The registry with a value attached to a resource in one store. -/
def attach (r : Registry α) (k : StoreKey) (resource : Resource) (value : α) : Registry α :=
  r.setStore k ((r.store k).attach resource value)

/-- The registry with a resource removed from one store. -/
def detach (r : Registry α) (k : StoreKey) (resource : Resource) : Registry α :=
  r.setStore k ((r.store k).erase resource.id)

/-- The registry with a resource removed from every store. -/
def detachAll (r : Registry α) (resource : Resource) : Registry α :=
  ⟨r.stores.map (·.erase resource.id)⟩

/-- In how many stores a resource has an entry. -/
def holders (r : Registry α) (resource : Resource) : Nat :=
  (r.stores.toList.filter fun s => (s.slot? resource.id).isSome).length

def sweep (r : Registry α) (alive : Resource → Bool) : Registry α :=
  ⟨r.stores.map (·.sweep alive)⟩

/-- How many entries there are in all stores, dead ones included. -/
def size (r : Registry α) : Nat := r.stores.toList.foldl (fun n s => n + s.size) 0

def isEmpty (r : Registry α) : Bool := r.stores.toList.all Store.isEmpty

def debugText (r : Registry α) : String :=
  "CorrelationRegistry \x7b stores: [" ++ ", ".intercalate (r.stores.toList.map Store.debugText) ++
    "] \x7d"

end Registry
end Turnstile.Capture
