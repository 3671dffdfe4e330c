import Turnstile.Text.Basic
/-!
# Content types worth capturing

A body is captured when its content type contains one of the allowed fragments, without regard to
letter case. A fragment of nothing but blanks allows nothing, and neither does a missing content
type.
-/
namespace Turnstile.Capture

open Text

/-- The fragments a content type may contain, trimmed, in lower case and none of them empty. -/
structure Gate where
  fragments : List String
deriving DecidableEq, Repr

namespace Gate

/-- The fragments allowed unless others are configured. -/
def defaultFragments : List String := ["json", "graphql", "xml", "x-www-form-urlencoded"]

/-- The gate for configured fragments. -/
def ofFragments (allowed : List String) : Gate :=
  ⟨(allowed.map fun s => lower (trim s)).filter fun s => !s.isEmpty⟩

/-- Whether a body of this content type is captured. -/
def admits (gate : Gate) (contentType : Option String) : Bool :=
  match contentType with
  | none => false
  | some text =>
    let chars := (lower text).toList
    gate.fragments.any fun fragment => occursIn fragment.toList chars

end Gate

/-- The length a header declares: decimal digits after an optional plus sign, below 2 ^ 64. -/
def declaredLength (value : Option String) : Option Nat :=
  value.bind fun text =>
    let cs := strip isBlank text.toList
    let digits := match cs with
      | '+' :: rest => rest
      | _ => cs
    if digits.isEmpty || !digits.all Char.isDigit then none
    else
      let n := digits.foldl (fun n c => n * 10 + (c.toNat - '0'.toNat)) 0
      if n < Nat.pow 2 64 then some n else none

/-- How much room to set aside for a body at first: the declared length, but never more than the
capacity. -/
def initialRoom (length : Option Nat) (capacity : Nat) : Nat :=
  match length with
  | none => capacity
  | some n => min n capacity

end Turnstile.Capture
