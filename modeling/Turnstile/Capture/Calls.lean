import Turnstile.Capture.CallDepth
/-!
# Calls under way

A run of calls with their guards, which may be dropped in any order; a depth may also be changed without
a guard.
-/
namespace Turnstile.Capture

/-- The calls under way on one thread. -/
structure Calls where
  depth : CallDepth
  /-- The guards in the order in which they were made; a dropped one leaves its place empty. -/
  guards : Array (Option Guard)

/-- Something done with the calls. -/
inductive CallStep
  /-- Begins a call without a guard. -/
  | enter (c : StreamKind)
  /-- Ends a call without a guard. -/
  | exit (c : StreamKind)
  | reset (c : StreamKind)
  /-- Begins a call with a guard. -/
  | hold (c : StreamKind)
  /-- Drops the guard at a place. -/
  | drop (place : Nat)
  /-- Begins so many calls one inside the other, and ends them in reverse order. -/
  | nest (c : StreamKind) (count : Nat)
deriving DecidableEq, Repr

/-- What a step is answered. -/
inductive CallReport
  | nothing
  | depth (n : Nat)
  | outermost (b : Bool)
  | wasHeld (b : Bool)
  /-- How many of the calls were outermost. -/
  | outermostCount (n : Nat)
deriving DecidableEq, Repr

namespace Calls

def idle : Calls := ⟨.idle, #[]⟩

/-- Nested calls. Counts those that were outermost. -/
def nest (c : StreamKind) : Nat → CallDepth → Nat × CallDepth
  | 0, d => (0, d)
  | n + 1, d =>
    let (g, d) := Guard.enter d c
    let (count, d) := nest c n d
    (if g.outermost then count + 1 else count, g.drop d)

def guard? (cs : Calls) (place : Nat) : Option Guard := (cs.guards[place]?).join

def step (cs : Calls) : CallStep → CallReport × Calls
  | .enter c => (.depth (cs.depth.depth c), { cs with depth := cs.depth.enter c })
  | .exit c => (.nothing, { cs with depth := cs.depth.exit c })
  | .reset c => (.nothing, { cs with depth := cs.depth.reset c })
  | .hold c =>
    let (g, d) := Guard.enter cs.depth c
    (.outermost g.outermost, ⟨d, cs.guards.push (some g)⟩)
  | .drop place =>
    match cs.guard? place with
    | none => (.wasHeld false, cs)
    | some g => (.wasHeld true, ⟨g.drop cs.depth, cs.guards.setIfInBounds place none⟩)
  | .nest c count =>
    let (n, d) := nest c count cs.depth
    (.outermostCount n, { cs with depth := d })

end Calls
end Turnstile.Capture
