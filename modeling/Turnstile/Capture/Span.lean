import Turnstile.Table
import Turnstile.Text.Basic
/-!
# Spans

The attributes written while a request is handled. A span keeps every write; of the writes under one
key the last one counts.
-/
namespace Turnstile.Capture

/-- An attribute and its value. -/
abbrev Write := String × String

def requestBodyKey : String := "http.request.body"

def responseBodyKey : String := "http.response.body"

def requestHeaderKey (name : String) : String := "http.request.header." ++ Text.lower name

def responseHeaderKey (name : String) : String := "http.response.header." ++ Text.lower name

/-- The writes to a span, in order. -/
structure Span where
  writes : Array Write
deriving DecidableEq, Repr

namespace Span

def empty : Span := ⟨#[]⟩

instance : Inhabited Span := ⟨empty⟩

/-- The span after a write. -/
def set (s : Span) (key value : String) : Span := ⟨s.writes.push (key, value)⟩

/-- The span after several writes. -/
def setAll (s : Span) (writes : List Write) : Span := ⟨s.writes ++ writes.toArray⟩

/-- The last value of every key. -/
def attributes (s : Span) : Table String := Table.ofList s.writes.toList

def get? (s : Span) (key : String) : Option String := s.attributes.get? key

def count (s : Span) (key : String) : Nat :=
  (s.writes.toList.filter fun write => write.1 == key).length

end Span
end Turnstile.Capture
