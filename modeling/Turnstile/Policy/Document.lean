import Turnstile.Json.Pointer
import Turnstile.Json.Reader
import Turnstile.Policy.Snapshot
/-!
# Policy documents

A snapshot as JSON. A document is loaded whole or not at all: `Snapshot.ofDocument` takes the value at
a pointer and refuses it when any entry has another shape.
-/
namespace Turnstile.Policy

/-- An entry as an object; an entry without expiry has no such member. -/
def Entry.toJson (e : Entry) : Json :=
  .object (("values", .ofStrings e.values.toList) ::
    match e.expiry with
    | some expiry => [("expiry", .ofInt expiry)]
    | none => [])

/-- The fields of an entry that have been read. -/
structure EntryFields where
  values : Option NameSet := none
  expiry : Option (Option Int) := none

/-- An entry, with its values under either of two names. -/
def Entry.shape : Shape Entry := fun t => do
  let fields ← Shape.record "struct TtlEntry" [
    Shape.field "values" ["ipAddress"] false (fun t => (Shape.list Shape.string t).map NameSet.ofList)
      EntryFields.values fun s v => { s with values := some v },
    Shape.field "expiry" [] false (Shape.optional (Shape.integer "i64" (-Int.pow 2 63) (Int.pow 2 63 - 1)))
      EntryFields.expiry fun s v => { s with expiry := some v }] {} t
  .ok ⟨fields.values.getD .empty, fields.expiry.getD none⟩

/-- The fields of a snapshot that have been read. -/
structure SnapshotFields where
  allow : Option (List Entry) := none
  deny : Option (List Entry) := none

/-- A snapshot, with either list under one of two names. -/
def Snapshot.shape : Shape Snapshot := fun t => do
  let fields ← Shape.record "struct SnapshotDocument" [
    Shape.field "allowlist" ["allow_list"] false (Shape.list Entry.shape)
      SnapshotFields.allow fun s v => { s with allow := some v },
    Shape.field "denylist" ["deny_list"] false (Shape.list Entry.shape)
      SnapshotFields.deny fun s v => { s with deny := some v }] {} t
  .ok ⟨fields.allow.getD [], fields.deny.getD []⟩

def Snapshot.toJson (s : Snapshot) : Json :=
  .object [("allowlist", .array (s.allow.map Entry.toJson)),
    ("denylist", .array (s.deny.map Entry.toJson))]

/-- Why a policy document gives no snapshot. -/
inductive DocumentError
  /-- The pointer addresses nothing. -/
  | missingPath (pointer : String)
  /-- The text is no JSON. -/
  | unreadable (flaw : Flaw)
  /-- The value is of another shape. -/
  | misfit (cause : Misfit)

def DocumentError.message : DocumentError → String
  | .missingPath pointer => "document path '" ++ pointer ++ "' not found in policy document"
  | .unreadable flaw => "invalid policy document: " ++ (Misfit.unreadable flaw).message
  | .misfit cause => "invalid policy document: " ++ cause.message

/-- The snapshot at a pointer inside a document. -/
def Snapshot.ofDocument (document : Json) (pointer : String) : Except DocumentError Snapshot :=
  match document.atPointer? pointer with
  | none => .error (.missingPath pointer)
  | some node => (Snapshot.shape.ofJson node).mapError .misfit

def Snapshot.ofText (text : String) : Except DocumentError Snapshot := do
  let document ← (Json.parse text).mapError .unreadable
  Snapshot.ofDocument document ""

end Turnstile.Policy
