import Turnstile.Headers
/-!
# Recorded exchanges

One request as a recording has it, with the response it was given. Whatever a recording leaves out is
absent or empty.
-/
namespace Turnstile

/-- A recorded response. -/
structure Reply where
  headers : Headers
  body : Option String
deriving DecidableEq

/-- A recorded request with its response. -/
structure Exchange where
  name : Option String
  headers : Headers
  body : Option String
  /-- The parameters of a form, which count instead of the body. -/
  form : Option (Table String)
  reply : Option Reply
deriving DecidableEq

namespace Reply

/-- The reply that has been read. -/
structure Fields where
  headers : Option Headers := none
  body : Option (Option String) := none

def shape : Shape Reply := fun t => do
  let fields ← Shape.record "struct ResponseRecord" [
    Shape.field "headers" [] false Headers.shape Fields.headers
      fun s v => { s with headers := some v },
    Shape.field "body" [] false (Shape.optional Shape.string) Fields.body
      fun s v => { s with body := some v }] {} t
  .ok ⟨fields.headers.getD .empty, fields.body.getD none⟩

end Reply

namespace Exchange

/-- A request without headers and body, and no response. -/
def empty : Exchange := ⟨none, .empty, none, none, none⟩

instance : Inhabited Exchange := ⟨empty⟩

/-- The exchange that has been read. -/
structure Fields where
  name : Option (Option String) := none
  headers : Option Headers := none
  body : Option (Option String) := none
  form : Option (Option (Table String)) := none
  reply : Option (Option Reply) := none

/-- The parameters of a form. -/
def formShape : Shape (Table String) := fun t => (Shape.map Shape.string t).map Table.ofList

def shape : Shape Exchange := fun t => do
  let fields ← Shape.record "struct RequestRecord" [
    Shape.field "name" [] false (Shape.optional Shape.string) Fields.name
      fun s v => { s with name := some v },
    Shape.field "headers" [] false Headers.shape Fields.headers
      fun s v => { s with headers := some v },
    Shape.field "body" [] false (Shape.optional Shape.string) Fields.body
      fun s v => { s with body := some v },
    Shape.field "form" [] false (Shape.optional formShape) Fields.form
      fun s v => { s with form := some v },
    Shape.field "response" [] false (Shape.optional Reply.shape) Fields.reply
      fun s v => { s with reply := some v }] {} t
  .ok {
    name := fields.name.getD none
    headers := fields.headers.getD .empty
    body := fields.body.getD none
    form := fields.form.getD none
    reply := fields.reply.getD none }

/-- The exchange a text holds. -/
def ofText (text : String) : Except Misfit Exchange := Shape.ofText shape (Document.ofText text)

/-- The name a request goes by when the recording has none. -/
def defaultName : String := "request"

end Exchange
end Turnstile
