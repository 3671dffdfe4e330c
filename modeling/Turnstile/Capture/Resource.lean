/-!
# Resources

The identity of a stream. A resource is alive while its handle is held; a key remembers it without
keeping it alive. Its id is unique among the resources that are alive or remembered, its birth among
all that ever were.
-/
namespace Turnstile.Capture

/-- The identity of a stream. -/
structure Resource where
  id : Nat
  /-- How many resources were made before it. -/
  birth : Nat
deriving DecidableEq, Repr

/-- The resources that are alive. -/
structure Resources where
  /-- How many have been made. -/
  born : Nat
  alive : List Resource
deriving Repr

namespace Resources

def none : Resources := ⟨0, []⟩

instance : Inhabited Resources := ⟨none⟩

/-- A new resource under an id that no one holds or remembers. -/
def createAt (rs : Resources) (id : Nat) : Resource × Resources :=
  let r : Resource := ⟨id, rs.born⟩
  (r, ⟨rs.born + 1, r :: rs.alive⟩)

/-- A new resource under an id that was never used. -/
def create (rs : Resources) : Resource × Resources := rs.createAt rs.born

/-- The resources after a handle was dropped. -/
def drop (rs : Resources) (r : Resource) : Resources :=
  { rs with alive := rs.alive.filter fun other => other ≠ r }

/-- Whether the resource's handle is held. -/
def isAlive (rs : Resources) (r : Resource) : Bool := rs.alive.contains r

end Resources
end Turnstile.Capture
