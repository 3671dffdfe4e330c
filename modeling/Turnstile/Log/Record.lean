import Turnstile.Json.Printer
import Turnstile.Log.Identifier
import Turnstile.Log.Instant
import Turnstile.Policy.Verdict
import Turnstile.Text.Utf8
/-!
# Span records

A finished span as one line of the log. A record without a verdict, and a verdict without a reason,
leave the member out, so a record has exactly one written form.
-/
namespace Turnstile.Log

open Policy

/-- What a record keeps of a verdict. -/
structure Ruling where
  blocked : Bool
  /-- A status code below 2 ^ 16. -/
  status : Nat
  reason : String
deriving DecidableEq, Repr

/-- A finished span. -/
structure Record where
  id : Identifier
  name : String
  startedAt : Instant
  endedAt : Instant
  attributes : Table String
  ruling : Option Ruling
deriving DecidableEq

/-- What tells one span from all others: its id and its times. -/
structure Stamp where
  id : Identifier
  startedAt : Instant
  endedAt : Instant
deriving DecidableEq

instance : Inhabited Stamp := ⟨⟨.zero, .epoch, .epoch⟩⟩

namespace Ruling

/-- What is kept of a verdict. -/
def ofVerdict (v : Verdict) : Ruling := ⟨v.blocked, v.status.code, v.reason⟩

def toJson (r : Ruling) : Json :=
  .object ([("blocked", .bool r.blocked), ("status", .ofNat r.status)] ++
    if r.reason.isEmpty then [] else [("reason", .string r.reason)])

/-- The ruling that has been read. -/
structure Fields where
  blocked : Option Bool := none
  status : Option Nat := none
  reason : Option String := none

/-- A ruling; only the reason may be left out. -/
def shape : Shape Ruling := fun t => do
  let fields ← Shape.record "struct VerdictRecord" [
    Shape.field "blocked" [] true Shape.bool Fields.blocked fun s v => { s with blocked := some v },
    Shape.field "status" [] true (fun t => (Shape.integer "u16" 0 (Int.pow 2 16 - 1) t).map Int.toNat)
      Fields.status fun s v => { s with status := some v },
    Shape.field "reason" [] false Shape.string Fields.reason
      fun s v => { s with reason := some v }] {} t
  match fields.blocked, fields.status with
  | none, _ => .error (.missingField "blocked")
  | _, none => .error (.missingField "status")
  | some blocked, some status => .ok ⟨blocked, status, fields.reason.getD ""⟩

end Ruling

namespace Record

/-- The record of a span. -/
def ofSpan (stamp : Stamp) (name : String) (attributes : Table String) (verdict : Option Verdict) :
    Record where
  id := stamp.id
  name := name
  startedAt := stamp.startedAt
  endedAt := stamp.endedAt
  attributes := attributes
  ruling := verdict.map Ruling.ofVerdict

def toJson (r : Record) : Json :=
  .object ([("id", .string r.id.text), ("name", .string r.name),
    ("started_at", .string r.startedAt.text), ("ended_at", .string r.endedAt.text),
    ("attributes", .ofTable r.attributes)] ++
    match r.ruling with
    | some ruling => [("verdict", ruling.toJson)]
    | none => [])

/-- The record that has been read. -/
structure Fields where
  id : Option Identifier := none
  name : Option String := none
  startedAt : Option Instant := none
  endedAt : Option Instant := none
  attributes : Option (Table String) := none
  ruling : Option (Option Ruling) := none

/-- A record; only the verdict may be left out. -/
def shape : Shape Record := fun t => do
  let fields ← Shape.record "struct SpanRecord" [
    Shape.field "id" [] true Identifier.shape Fields.id fun s v => { s with id := some v },
    Shape.field "name" [] true Shape.string Fields.name fun s v => { s with name := some v },
    Shape.field "started_at" [] true Instant.shape Fields.startedAt
      fun s v => { s with startedAt := some v },
    Shape.field "ended_at" [] true Instant.shape Fields.endedAt
      fun s v => { s with endedAt := some v },
    Shape.field "attributes" [] true (fun t => (Shape.map Shape.string t).map Table.ofList)
      Fields.attributes fun s v => { s with attributes := some v },
    Shape.field "verdict" [] false (Shape.optional Ruling.shape) Fields.ruling
      fun s v => { s with ruling := some v }] {} t
  match fields.id, fields.name, fields.startedAt, fields.endedAt, fields.attributes with
  | some id, some name, some startedAt, some endedAt, some attributes =>
    .ok ⟨id, name, startedAt, endedAt, attributes, fields.ruling.getD none⟩
  | none, _, _, _, _ => .error (.missingField "id")
  | _, none, _, _, _ => .error (.missingField "name")
  | _, _, none, _, _ => .error (.missingField "started_at")
  | _, _, _, none, _ => .error (.missingField "ended_at")
  | _, _, _, _, none => .error (.missingField "attributes")

/-- The characters of a record's line, with the line break at its end. -/
def lineChars (r : Record) : List Char := r.toJson.chars ++ ['\n']

/-- A record's line. -/
def line (r : Record) : Bytes := Text.Utf8.encode r.lineChars

/-- Reads a record back from a line without its line break. -/
def ofLine? (bytes : Bytes) : Option Record := do
  let cs ← Text.Utf8.decode? bytes
  (Shape.ofText shape (Document.ofText (String.ofList cs))).toOption

end Record
end Turnstile.Log
