import Turnstile.Shape
import Turnstile.Text.Basic
/-!
# Headers

A request's headers: names without regard to the case of their letters, each with the value inserted
last. Names are kept in lower case and ascending order.
-/
namespace Turnstile

/-- A set of headers. -/
structure Headers where
  /-- The values by name. -/
  table : Table String
  /-- Every name is kept in lower case, however it was spelled. -/
  spelled : ∀ e ∈ table.entries, ∃ spelling, e.1 = Text.lower spelling
deriving DecidableEq

namespace Headers

def empty : Headers := ⟨.empty, by simp [Table.empty]⟩

instance : Inhabited Headers := ⟨empty⟩

/-- The headers with one name set to a value. -/
def insert (h : Headers) (name value : String) : Headers where
  table := h.table.insert (Text.lower name) value
  spelled := fun e mem => by
    rcases Table.mem_insertInto mem with rfl | mem
    · exact ⟨name, rfl⟩
    · exact h.spelled e mem

def get? (h : Headers) (name : String) : Option String :=
  match h.table.get? name with
  | some value => some value
  | none => h.table.get? (Text.lower name)

def contains (h : Headers) (name : String) : Bool := (h.get? name).isSome

def size (h : Headers) : Nat := h.table.size

def isEmpty (h : Headers) : Bool := h.table.isEmpty

/-- Names and values in ascending order of the names. -/
def toList (h : Headers) : List (String × String) := h.table.entries

/-- The headers of pairs inserted in turn. -/
def ofList (pairs : List (String × String)) : Headers :=
  pairs.foldl (fun h p => h.insert p.1 p.2) empty

/-- The headers of a table, inserted in ascending order of the names as they are spelled there. -/
def ofTable (t : Table String) : Headers := ofList t.entries

def toJson (h : Headers) : Json := .ofTable h.table

/-- Headers written as an object of strings. Of names spelled alike the last one counts; of spellings
that differ in case only, the greatest. -/
def shape : Shape Headers :=
  fun t => (Shape.map Shape.string t).map fun pairs => ofTable (Table.ofList pairs)

end Headers
end Turnstile
