import Turnstile.Capture.Store
import Turnstile.Table
/-!
# Handles, keys and one store

One caller's handles and weak keys by name, with the store their values are attached in. Whoever holds
a handle or a key, or has an entry in the store, pins its id; a new handle may get any other id, also
one that was used before.
-/
namespace Turnstile.Capture

/-- Handles and keys by name, and the store. -/
structure Shelf (α : Type) where
  resources : Resources
  store : Store α
  handles : Table Resource
  keys : Table Resource

/-- Something done with a shelf. -/
inductive ShelfStep (α : Type)
  /-- Makes a handle, under this id if it is free, and drops the one that had the name. -/
  | create (name : String) (id : Nat)
  | drop (name : String)
  /-- Keeps a weak key of a handle. -/
  | remember (name key : String)
  | isAlive (key : String)
  | sameKey (key other : String)
  | attach (name : String) (value : α)
  | get (name : String)
  | detach (name : String)
  | getKey (key : String)
  | detachKey (key : String)
  | sweep

/-- What a step is answered. -/
inductive ShelfReport (α : Type)
  | nothing
  /-- The step names something that is not there. -/
  | unknown
  | truth (b : Bool)
  /-- The value found, removed or replaced. -/
  | value (v : Option α)
  | number (n : Nat)

namespace Shelf

variable {α : Type}

def empty : Shelf α := ⟨.none, .empty, .empty, .empty⟩

instance : Inhabited (Shelf α) := ⟨empty⟩

/-- The ids that a new handle must not get. -/
def pinned (s : Shelf α) : List Nat :=
  (s.handles.entries ++ s.keys.entries).map (·.2.id) ++ s.store.slots.map (·.owner.id)

/-- A free id: the one wanted, or else one above all that are pinned. -/
def freeId (s : Shelf α) (wanted : Nat) : Nat :=
  if wanted ∈ s.pinned then s.pinned.foldl max 0 + 1 else wanted

def create (s : Shelf α) (name : String) (id : Nat) : Shelf α :=
  let (r, rs) := s.resources.createAt (s.freeId id)
  { s with
    resources := (s.handles.get? name).elim rs rs.drop
    handles := s.handles.insert name r }

/-- The shelf without a handle, which dies. -/
def drop (s : Shelf α) (name : String) : Shelf α :=
  { s with
    resources := (s.handles.get? name).elim s.resources s.resources.drop
    handles := s.handles.erase name }

/-- Does something with a handle, if there is one of the name. -/
def withHandle (s : Shelf α) (name : String) (f : Resource → ShelfReport α × Shelf α) :
    ShelfReport α × Shelf α :=
  (s.handles.get? name).elim (.unknown, s) f

/-- Does something with a key, if there is one of the name. -/
def withKey (s : Shelf α) (key : String) (f : Resource → ShelfReport α × Shelf α) :
    ShelfReport α × Shelf α :=
  (s.keys.get? key).elim (.unknown, s) f

/-- Removes what is attached to a resource. -/
def remove (s : Shelf α) (r : Resource) : ShelfReport α × Shelf α :=
  (.value (s.store.get? r), { s with store := s.store.erase r.id })

def step (s : Shelf α) : ShelfStep α → ShelfReport α × Shelf α
  | .create name id => (.nothing, s.create name id)
  | .drop name => (.truth (s.handles.get? name).isSome, s.drop name)
  | .remember name key =>
    s.withHandle name fun r => (.truth true, { s with keys := s.keys.insert key r })
  | .isAlive key => s.withKey key fun r => (.truth (s.resources.isAlive r), s)
  | .sameKey key other => s.withKey key fun r => (.truth (s.keys.get? other == some r), s)
  | .attach name value =>
    s.withHandle name fun r =>
      (.value (s.store.get? r), { s with store := s.store.attach r value })
  | .get name => s.withHandle name fun r => (.value (s.store.get? r), s)
  | .detach name => s.withHandle name s.remove
  | .getKey key =>
    s.withKey key fun r =>
      let (found, store) := s.store.getKey s.resources.isAlive r
      (.value found, { s with store := store })
  | .detachKey key => s.withKey key s.remove
  | .sweep =>
    let swept := s.store.sweep s.resources.isAlive
    (.number (s.store.size - swept.size), { s with store := swept })

end Shelf
end Turnstile.Capture
