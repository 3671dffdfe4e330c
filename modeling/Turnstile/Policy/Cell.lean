import Turnstile.Policy.Snapshot
/-!
# The snapshot in force

A cell holds the current edition of the policy. An edition is a snapshot with a number of its own, so
two editions of equal content stay apart; it never changes once it is printed, and a newer one
replaces it whole.
-/
namespace Turnstile.Policy

/-- A published snapshot. -/
structure Edition where
  /-- Tells it from every other edition of its cell. -/
  number : Nat
  snapshot : Snapshot
deriving DecidableEq

/-- A holder of the current edition. -/
structure Cell where
  /-- How many editions have been printed. -/
  printed : Nat
  current : Option Edition

namespace Cell

def empty : Cell := ⟨0, none⟩

instance : Inhabited Cell := ⟨empty⟩

/-- A new edition of a snapshot. -/
def print (c : Cell) (snapshot : Snapshot) : Edition × Cell :=
  (⟨c.printed, snapshot⟩, { c with printed := c.printed + 1 })

def publish (c : Cell) (edition : Edition) : Cell := { c with current := some edition }

/-- The cell with a new edition of a snapshot in force. -/
def store (c : Cell) (snapshot : Snapshot) : Cell :=
  let (edition, c) := c.print snapshot
  c.publish edition

/-- The cell with a first edition in force, if there is one. -/
def ofSnapshot (snapshot : Option Snapshot) : Cell :=
  match snapshot with
  | none => empty
  | some snapshot => empty.store snapshot

def snapshot? (c : Cell) : Option Snapshot := c.current.map Edition.snapshot

def isEmpty (c : Cell) : Bool := c.current.isNone

end Cell
end Turnstile.Policy
