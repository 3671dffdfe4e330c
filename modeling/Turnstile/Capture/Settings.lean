import Turnstile.Capture.ContentType
import Turnstile.Shape
/-!
# Capture settings

What is captured and how much of it. A field that a document leaves out keeps its default.
-/
namespace Turnstile.Capture

/-- Whether something is captured, on either side of the exchange. -/
structure Toggles where
  request : Bool
  response : Bool
deriving DecidableEq, Repr

/-- What is captured. -/
structure Settings where
  /-- The capacity of a body buffer, in bytes or, for streams of text, in characters. -/
  bodyLimit : Nat
  /-- Fragments of the content types whose bodies are captured. -/
  contentTypes : List String
  headers : Toggles
  bodies : Toggles
deriving DecidableEq, Repr

namespace Toggles

def default : Toggles := ⟨true, true⟩

instance : Inhabited Toggles := ⟨default⟩

def toJson (t : Toggles) : Json :=
  .object [("request", .bool t.request), ("response", .bool t.response)]

/-- The toggles that have been read. -/
structure Fields where
  request : Option Bool := none
  response : Option Bool := none

/-- Toggles; a side that is left out is captured. -/
def shape : Shape Toggles := fun t => do
  let fields ← Shape.record "struct CaptureToggles" [
    Shape.field "request" [] false Shape.bool Fields.request fun s v => { s with request := some v },
    Shape.field "response" [] false Shape.bool Fields.response
      fun s v => { s with response := some v }] {} t
  .ok ⟨fields.request.getD true, fields.response.getD true⟩

end Toggles

namespace Settings

/-- Everything is captured, up to 128 KiB of a body. -/
def default : Settings := ⟨131072, Gate.defaultFragments, .default, .default⟩

instance : Inhabited Settings := ⟨default⟩

/-- The gate that content types have to pass. -/
def gate (s : Settings) : Gate := Gate.ofFragments s.contentTypes

def toJson (s : Settings) : Json :=
  .object [("body_max_size_bytes", .ofNat s.bodyLimit),
    ("allowed_content_types", .ofStrings s.contentTypes),
    ("http_headers", s.headers.toJson), ("http_body", s.bodies.toJson)]

/-- The settings that have been read. -/
structure Fields where
  bodyLimit : Option Nat := none
  contentTypes : Option (List String) := none
  headers : Option Toggles := none
  bodies : Option Toggles := none

/-- Settings; whatever is left out has its default. -/
def shape : Shape Settings := fun t => do
  let fields ← Shape.record "struct CaptureSettings" [
    Shape.field "body_max_size_bytes" [] false (Shape.word "usize") Fields.bodyLimit
      fun s v => { s with bodyLimit := some v },
    Shape.field "allowed_content_types" [] false (Shape.list Shape.string) Fields.contentTypes
      fun s v => { s with contentTypes := some v },
    Shape.field "http_headers" [] false Toggles.shape Fields.headers
      fun s v => { s with headers := some v },
    Shape.field "http_body" [] false Toggles.shape Fields.bodies
      fun s v => { s with bodies := some v }] {} t
  .ok {
    bodyLimit := fields.bodyLimit.getD default.bodyLimit
    contentTypes := fields.contentTypes.getD default.contentTypes
    headers := fields.headers.getD default.headers
    bodies := fields.bodies.getD default.bodies }

end Settings
end Turnstile.Capture
