import Turnstile.Json.Value
/-!
# Written documents

A document as it was written: members repeat where the text repeats them, and a flaw in the text is a
leaf where the reading stopped. What is wrong with a part is known only to those who look at it:
skipping a part (`skipFlaw`) forgives it a string of unpaired surrogates, a number out of range and
any depth of nesting; making a value of it (`toJson`) does not. A number that is cut short is malformed
to those who skip it, and cut short to those who read it.
-/
namespace Turnstile

/-- What can be wrong with a text. -/
inductive Flaw
  /-- The text ends too early. -/
  | cutShort
  /-- The text is not of the form. -/
  | malformed
deriving Repr, DecidableEq

/-- A string as written. -/
structure Written where
  /-- The text it stands for. -/
  text : Except Flaw String
  /-- What stops a reader that only looks for its end. -/
  stop : Option Flaw

/-- A document as written. -/
inductive Tree
  | null
  | bool (b : Bool)
  | number (n : Except Flaw Number)
  | string (s : Written)
  /-- A text without quotes: it stands for whatever kind of value is asked for. -/
  | plain (s : String)
  /-- Items, and what stands in place of the closing bracket. -/
  | array (items : List Tree) (ending : Option Flaw)
  /-- Items of a list that cannot stand for a structure. -/
  | list (items : List Tree)
  /-- Members, and what stands in place of the closing brace. -/
  | object (members : List (Written × Tree)) (ending : Option Flaw)
  /-- The text ends inside a literal. -/
  | cutWord
  /-- The text ends inside a number. -/
  | cutNumber
  /-- Nothing could be read here. -/
  | broken (flaw : Flaw)

namespace Tree

instance : Inhabited Tree := ⟨.null⟩

/-- A string without flaws. -/
def ofString (s : String) : Tree := .string ⟨.ok s, none⟩

mutual

/-- What stops a reader that skips this part. -/
def skipFlaw : Tree → Option Flaw
  | .broken flaw => some flaw
  | .cutWord => some .cutShort
  | .cutNumber => some .malformed
  | .string s => s.stop
  | .array items ending => (itemsFlaw items).or ending
  | .list items => itemsFlaw items
  | .object members ending => (membersFlaw members).or ending
  | _ => none

/-- What stops a reader that skips the items. -/
def itemsFlaw : List Tree → Option Flaw
  | [] => none
  | item :: rest => (skipFlaw item).or (itemsFlaw rest)

/-- What stops a reader that skips the members. -/
def membersFlaw : List (Written × Tree) → Option Flaw
  | [] => none
  | (name, value) :: rest => (name.stop.or (skipFlaw value)).or (membersFlaw rest)

end

/-- How deep arrays and objects may nest in a value, one more than the deepest allowed. -/
def depthLimit : Nat := 128

mutual

/-- The value of a document, with `room` levels left. Of members with one name the last one counts;
they are put in ascending order. -/
def toJsonWithin (room : Nat) : Tree → Except Flaw Json
  | .null => .ok .null
  | .bool b => .ok (.bool b)
  | .number n => n.map .number
  | .string s => s.text.map .string
  | .plain s => .ok (.string s)
  | .array items ending =>
    if room ≤ 1 then .error .malformed
    else do
      let values ← itemsToJson (room - 1) items
      match ending with
      | some flaw => .error flaw
      | none => .ok (.array values)
  | .list items =>
    if room ≤ 1 then .error .malformed
    else (itemsToJson (room - 1) items).map .array
  | .cutWord | .cutNumber => .error .cutShort
  | .object members ending =>
    if room ≤ 1 then .error .malformed
    else do
      let values ← membersToJson (room - 1) members
      match ending with
      | some flaw => .error flaw
      | none => .ok (.object (Table.ofList values).entries)
  | .broken flaw => .error flaw

/-- The values of the items. -/
def itemsToJson (room : Nat) : List Tree → Except Flaw (List Json)
  | [] => .ok []
  | item :: rest => do
    let value ← toJsonWithin room item
    let values ← itemsToJson room rest
    .ok (value :: values)

/-- The names and values of the members. -/
def membersToJson (room : Nat) : List (Written × Tree) → Except Flaw (List (String × Json))
  | [] => .ok []
  | (name, item) :: rest => do
    let text ← name.text
    let value ← toJsonWithin room item
    let values ← membersToJson room rest
    .ok ((text, value) :: values)

end

def toJson (t : Tree) : Except Flaw Json := t.toJsonWithin depthLimit

end Tree

namespace Json

mutual

/-- The document of a value. -/
def toTree : Json → Tree
  | .null => .null
  | .bool b => .bool b
  | .number n => .number (.ok n)
  | .string s => .ofString s
  | .array items => .array (itemsToTree items) none
  | .object members => .object (membersToTree members) none

/-- The documents of the items. -/
def itemsToTree : List Json → List Tree
  | [] => []
  | item :: rest => toTree item :: itemsToTree rest

/-- The documents of the members. -/
def membersToTree : List (String × Json) → List (Written × Tree)
  | [] => []
  | (name, value) :: rest => (⟨.ok name, none⟩, toTree value) :: membersToTree rest

end

end Json
end Turnstile
