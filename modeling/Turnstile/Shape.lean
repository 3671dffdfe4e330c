import Turnstile.Decimal.Shortest
import Turnstile.Json.Reader
import Turnstile.Text.Basic
/-!
# Shapes of documents

A shape reads a typed value from a document, part by part in the order the document has them, and
reports the first part that does not fit (`Misfit`). `record` reads a structure from an object, or
from an array of its fields in order; a field that is absent keeps its default unless it is required.
-/
namespace Turnstile

/-- What stands where something else was wanted. -/
inductive Found
  | null
  | bool (b : Bool)
  | whole (n : Int)
  | real (x : Decimal.Binary64)
  | string (s : String)
  | sequence
  | map

/-- The description of what was found. -/
def Found.message : Found → String
  | .null => "null"
  | .bool b => "boolean `" ++ (if b then "true" else "false") ++ "`"
  | .whole n => "integer `" ++ toString n ++ "`"
  | .real x => "floating point `" ++ x.text ++ "`"
  | .string s => "string " ++ Text.quoted s
  | .sequence => "sequence"
  | .map => "map"

/-- Why a document does not fit a shape. -/
inductive Misfit
  /-- The text has a flaw in this place. -/
  | unreadable (flaw : Flaw)
  | wrongType (found : Found) (wanted : String)
  | wrongValue (found : Found) (wanted : String)
  | tooShort (length : Nat) (wanted : String)
  /-- An array goes on after the last field. -/
  | tooLong (length : Nat)
  /-- Neither a name nor an object of one member stands for a choice. -/
  | noChoice (found : Found)
  /-- An object that stands for a choice has no member, or several. What is wrong with the first of them
  is seen before the rest. -/
  | manyChoices (first : Option Misfit)
  | unknownChoice (name : String) (known : List String)
  | repeatedField (name : String)
  | missingField (name : String)
  /-- A text is not in the notation of its type. -/
  | badNotation

namespace Misfit

/-- The names of a choice, as diagnostics list them. -/
def oneOf : List String → String
  | [] => "there are no variants"
  | [a] => "expected `" ++ a ++ "`"
  | [a, b] => "expected `" ++ a ++ "` or `" ++ b ++ "`"
  | names => "expected one of " ++ ", ".intercalate (names.map fun n => "`" ++ n ++ "`")

def message : Misfit → String
  | .unreadable .cutShort => "unexpected end of text"
  | .unreadable .malformed => "malformed text"
  | .wrongType found wanted => "invalid type: " ++ found.message ++ ", expected " ++ wanted
  | .wrongValue found wanted => "invalid value: " ++ found.message ++ ", expected " ++ wanted
  | .tooShort length wanted => "invalid length " ++ toString length ++ ", expected " ++ wanted
  | .tooLong length => "invalid length " ++ toString length ++ ", expected fewer elements in array"
  | .noChoice found => "invalid type: " ++ found.message ++ ", expected string or map"
  | .manyChoices _ => "invalid value: map, expected map with a single key"
  | .unknownChoice name known => "unknown variant `" ++ name ++ "`, " ++ oneOf known
  | .repeatedField name => "duplicate field `" ++ name ++ "`"
  | .missingField name => "missing field `" ++ name ++ "`"
  | .badNotation => "invalid notation"

/-- What is wrong with a text that holds the document, if it is more than a value of another shape. A
text is read no further than its last field, so what goes on there is a flaw of the text. -/
def textFlaw : Misfit → Option Flaw
  | .unreadable flaw => some flaw
  | .tooLong _ | .noChoice _ | .manyChoices none => some .malformed
  | .manyChoices (some first) => first.textFlaw
  | _ => none

end Misfit

/-- What a part of a document is, for a diagnostic. -/
def Tree.found : Tree → Except Flaw Found
  | .null => .ok .null
  | .bool b => .ok (.bool b)
  | .number n => n.map fun
    | .whole n => .whole n
    | .real x => .real x
  | .string s => s.text.map .string
  | .plain s => .ok (.string s)
  | .array _ _ | .list _ => .ok .sequence
  | .object _ _ => .ok .map
  | .cutWord | .cutNumber => .error .cutShort
  | .broken flaw => .error flaw

/-- A reader of typed values from documents. -/
abbrev Shape (α : Type) := Tree → Except Misfit α

namespace Shape

variable {α β σ : Type}

/-- The report that a part is of another type than wanted. -/
def mismatch (wanted : String) (t : Tree) : Except Misfit α :=
  match t.found with
  | .ok found => .error (.wrongType found wanted)
  | .error flaw => .error (.unreadable flaw)

/-- A flaw of the text, if there is one. -/
def unlessFlaw (flaw : Option Flaw) (value : α) : Except Misfit α :=
  match flaw with
  | some flaw => .error (.unreadable flaw)
  | none => .ok value

/-- The text of a string. -/
def written (s : Written) : Except Misfit String :=
  s.text.mapError .unreadable

/-! ## Scalars -/

/-- The spellings of a truth value without quotes. -/
def plainBool? (s : String) : Option Bool :=
  if s ∈ ["true", "True", "TRUE"] then some true
  else if s ∈ ["false", "False", "FALSE"] then some false
  else none

/-- The spellings of no value without quotes. -/
def isPlainNull (s : String) : Bool :=
  s ∈ ["", "~", "null", "Null", "NULL"]

/-- The value of a digit in a base up to 16. -/
def digitIn? (base : Nat) (c : Char) : Option Nat :=
  let n :=
    if '0' ≤ c && c ≤ '9' then c.toNat - '0'.toNat
    else if 'a' ≤ c && c ≤ 'f' then c.toNat - 'a'.toNat + 10
    else if 'A' ≤ c && c ≤ 'F' then c.toNat - 'A'.toNat + 10
    else base
  if n < base then some n else none

/-- The number of a non-empty list of digits. -/
def digitsIn? (base : Nat) (cs : List Char) : Option Nat :=
  if cs.isEmpty then none
  else cs.foldlM (fun n c => (digitIn? base c).map (n * base + ·)) 0

/-- A natural number without quotes: decimal without leading zeros, or with the mark of another
base. -/
def plainNat? (s : String) : Option Nat :=
  let cs := match s.toList with
    | '+' :: rest => rest
    | cs => cs
  match cs with
  | '0' :: 'x' :: rest => digitsIn? 16 rest
  | '0' :: 'o' :: rest => digitsIn? 8 rest
  | '0' :: 'b' :: rest => digitsIn? 2 rest
  | '0' :: _ :: _ => none
  | cs => digitsIn? 10 cs

def bool : Shape Bool
  | .bool b => .ok b
  | .plain s =>
    match plainBool? s with
    | some b => .ok b
    | none => .error (.wrongType (.string s) "a boolean")
  | t => mismatch "a boolean" t

/-- A text, where diagnostics ask for `wanted`. -/
def text (wanted : String) : Shape String
  | .string s => written s
  | .plain s => .ok s
  | t => mismatch wanted t

def string : Shape String := text "a string"

/-- A whole number from `low` to `high`. -/
def integer (wanted : String) (low high : Int) : Shape Int
  | .number (.ok (.whole n)) =>
    if low ≤ n ∧ n ≤ high then .ok n else .error (.wrongValue (.whole n) wanted)
  | .plain s =>
    match plainNat? s with
    | some n =>
      if low ≤ (n : Int) ∧ (n : Int) ≤ high then .ok n
      else .error (.wrongValue (.whole n) wanted)
    | none => .error (.wrongType (.string s) wanted)
  | t => mismatch wanted t

/-- A natural number below 2 ^ 64. -/
def word (wanted : String) : Shape Nat :=
  fun t => (integer wanted 0 (Int.pow 2 64 - 1) t).map Int.toNat

def optional (shape : Shape α) : Shape (Option α)
  | .null => .ok none
  | .plain s => if isPlainNull s then .ok none else (shape (.plain s)).map some
  | t => (shape t).map some

/-! ## Lists, maps and choices -/

/-- The items of an array, each of one shape. -/
def list (shape : Shape α) : Shape (List α)
  | .array items ending => do
    let values ← items.mapM shape
    unlessFlaw ending values
  | .list items => items.mapM shape
  | .plain s => if s.isEmpty then .ok [] else mismatch "a sequence" (.plain s)
  | t => mismatch "a sequence" t

/-- The name and value of a member. -/
def member (shape : Shape α) (m : Written × Tree) : Except Misfit (String × α) := do
  let name ← written m.1
  let value ← shape m.2
  .ok (name, value)

/-- The members of an object in order, each value of one shape. -/
def map (shape : Shape α) : Shape (List (String × α))
  | .object members ending => do
    let values ← members.mapM (member shape)
    unlessFlaw ending values
  | .plain s => if s.isEmpty then .ok [] else mismatch "a map" (.plain s)
  | t => mismatch "a map" t

/-- No value, which only quotes around texts tell from a text. -/
def nothing : Shape Unit
  | .null => .ok ()
  | t => mismatch "unit" t

/-- The meaning of a name, one of those known. -/
def known (choices : List (String × α)) (name : String) : Except Misfit α :=
  match choices.lookup name with
  | some value => .ok value
  | none => .error (.unknownChoice name (choices.map Prod.fst))

/-- The value that a member names; it holds nothing else. -/
def namedBy (choices : List (String × α)) (m : Written × Tree) : Except Misfit α := do
  let value ← known choices (← written m.1)
  nothing m.2
  .ok value

/-- One of several named values: its name, or an object with the name as its only member. -/
def choice (choices : List (String × α)) : Shape α
  | .string s => do known choices (← written s)
  | .plain s => known choices s
  | .object [m] ending => do unlessFlaw ending (← namedBy choices m)
  | .object [] _ => .error (.manyChoices none)
  | .object (m :: _) _ =>
    match namedBy choices m with
    | .ok _ => .error (.manyChoices none)
    | .error first => .error (.manyChoices (some first))
  | .cutWord | .cutNumber => .error (.unreadable .malformed)
  | t =>
    match t.found with
    | .ok found => .error (.noChoice found)
    | .error flaw => .error (.unreadable flaw)

/-! ## Records -/

/-- One field of a structure that is being read. -/
structure Field (σ : Type) where
  name : String
  /-- Further names a document may use. -/
  aliases : List String
  /-- A document has to have it. -/
  required : Bool
  /-- Whether it has been read. -/
  given : σ → Bool
  /-- Reads it into the structure. -/
  read : Tree → σ → Except Misfit σ

/-- The field that `get` and `set` reach. -/
def field (name : String) (aliases : List String) (required : Bool) (shape : Shape α)
    (get : σ → Option α) (set : σ → α → σ) : Field σ where
  name := name
  aliases := aliases
  required := required
  given s := (get s).isSome
  read t s := (shape t).map (set s)

/-- Whether the field goes by this name. -/
def Field.answersTo (f : Field σ) (name : String) : Bool :=
  f.name == name || f.aliases.contains name

/-- Reads the members of an object into a structure. A field comes at most once; a member of no
field is skipped. -/
def fillMembers (fields : List (Field σ)) : List (Written × Tree) → σ → Except Misfit σ
  | [], s => .ok s
  | (name, value) :: rest, s => do
    let name ← written name
    match fields.find? (·.answersTo name) with
    | none => do
      unlessFlaw value.skipFlaw ()
      fillMembers fields rest s
    | some f =>
      if f.given s then .error (.repeatedField f.name)
      else do
        let s ← f.read value s
        fillMembers fields rest s

/-- The first required field that has not been read. -/
def missing? (fields : List (Field σ)) (s : σ) : Option String :=
  (fields.find? fun f => f.required && !f.given s).map Field.name

/-- The length of an array that holds every field. -/
def fullLength (wanted : String) (count : Nat) : String :=
  wanted ++ " with " ++ toString count ++ (if count = 1 then " element" else " elements")

/-- Reads the items of an array into the fields of a structure, in order. -/
def fillItems (tooShort : Nat → Misfit) (length : Nat) (ending : Option Flaw) :
    List (Field σ) → Nat → List Tree → σ → Except Misfit σ
  | [], _, [], s => unlessFlaw ending s
  | [], _, _ :: _, _ => .error (.tooLong length)
  | f :: fields, index, [], s => do
    unlessFlaw ending ()
    if f.required then .error (tooShort index)
    else fillItems tooShort length ending fields (index + 1) [] s
  | f :: fields, index, item :: items, s => do
    let s ← f.read item s
    fillItems tooShort length ending fields (index + 1) items s

/-- A structure, from an object or from an array. -/
def record (wanted : String) (fields : List (Field σ)) (start : σ) : Shape σ
  | .object members ending => do
    let s ← fillMembers fields members start
    unlessFlaw ending ()
    match missing? fields s with
    | some name => .error (.missingField name)
    | none => .ok s
  | .array items ending =>
    fillItems (fun index => .tooShort index (fullLength wanted fields.length)) items.length ending
      fields 0 items start
  | .plain s =>
    if s.isEmpty then
      match missing? fields start with
      | some name => .error (.missingField name)
      | none => .ok start
    else mismatch wanted (.plain s)
  | t => mismatch wanted t

end Shape

/-! ## Reading -/

namespace Shape

variable {α : Type}

/-- The typed value a text holds; blanks apart, nothing may follow it. -/
def ofText (shape : Shape α) (document : Document) : Except Misfit α := do
  let value ← shape document.tree
  if document.trailing then .error (.unreadable .malformed) else .ok value

/-- The typed value a JSON value holds. -/
def ofJson (shape : Shape α) (v : Json) : Except Misfit α := shape v.toTree

end Shape
end Turnstile
