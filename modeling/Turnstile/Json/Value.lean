import Turnstile.Decimal.Binary64
import Turnstile.Table
/-!
# JSON values

A number is whole where it was written whole and fits 64 bits, signed or unsigned; any other number
is a binary floating point number. The members of an object stand in the order they are written in.
-/
namespace Turnstile

/-- A JSON number. -/
inductive Number
  /-- From -2 ^ 63 up to 2 ^ 64 - 1. -/
  | whole (n : Int)
  | real (x : Decimal.Binary64)
deriving Repr, DecidableEq

/-- A JSON value. -/
inductive Json
  | null
  | bool (b : Bool)
  | number (n : Number)
  | string (s : String)
  | array (items : List Json)
  | object (members : List (String × Json))

namespace Json

instance : Inhabited Json := ⟨.null⟩

/-- A natural number as a value. -/
def ofNat (n : Nat) : Json := .number (.whole n)

/-- A whole number as a value. -/
def ofInt (n : Int) : Json := .number (.whole n)

/-- A list of texts as a value. -/
def ofStrings (ss : List String) : Json := .array (ss.map .string)

/-- An object with the entries of a table. -/
def ofTable (t : Table String) : Json := .object (t.entries.map fun e => (e.1, .string e.2))

/-- The value of an object's first member of this name. -/
def member? (name : String) : Json → Option Json
  | .object members => members.lookup name
  | _ => none

end Json
end Turnstile
