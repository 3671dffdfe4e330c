import Mathlib.Data.List.Find
import Turnstile.Capture.Span
import Turnstile.Proofs.Headers
/-!
# The attributes of a span

A key shows what it was written for: its `origin`. So writes of one origin never stand over those of
another, whatever names the headers have.
-/
namespace Turnstile

namespace Capture

/-! ## Keys -/

/-- What an attribute is written for. -/
inductive Origin
  | requestHeader
  | responseHeader
  | requestBody
  | responseBody
  /-- An evaluator has given it. -/
  | evaluator
deriving DecidableEq

/-- What all keys of request headers start with. -/
def requestHeaderPrefix : String := "http.request.header."

/-- What all keys of response headers start with. -/
def responseHeaderPrefix : String := "http.response.header."

theorem requestHeaderKey_eq (name : String) :
    requestHeaderKey name = requestHeaderPrefix ++ Text.lower name := rfl

theorem responseHeaderKey_eq (name : String) :
    responseHeaderKey name = responseHeaderPrefix ++ Text.lower name := rfl

theorem requestHeaderKey_inj (n name : String) :
    requestHeaderKey n = requestHeaderKey name ↔ Text.lower n = Text.lower name := by
  simp [requestHeaderKey_eq]

theorem responseHeaderKey_inj (n name : String) :
    responseHeaderKey n = responseHeaderKey name ↔ Text.lower n = Text.lower name := by
  simp [responseHeaderKey_eq]

/-- What an attribute under this key is written for. -/
def Origin.ofKey (key : String) : Origin :=
  if requestHeaderPrefix.toList <+: key.toList then .requestHeader
  else if responseHeaderPrefix.toList <+: key.toList then .responseHeader
  else if key = requestBodyKey then .requestBody
  else if key = responseBodyKey then .responseBody
  else .evaluator

namespace Origin

theorem ofKey_of_requestHeaderPrefix {key : String}
    (starts : requestHeaderPrefix.toList <+: key.toList) : ofKey key = .requestHeader := by
  rw [ofKey, if_pos starts]

/-- No key starts as both kinds of header do. -/
theorem ofKey_of_responseHeaderPrefix {key : String}
    (starts : responseHeaderPrefix.toList <+: key.toList) : ofKey key = .responseHeader := by
  have apart : ¬ requestHeaderPrefix.toList <+: key.toList := by
    intro other
    have nested := List.prefix_of_prefix_length_le other starts (by decide)
    exact absurd nested (by decide)
  rw [ofKey, if_neg apart, if_pos starts]

theorem ofKey_requestHeaderKey (name : String) : ofKey (requestHeaderKey name) = .requestHeader := by
  apply ofKey_of_requestHeaderPrefix
  rw [requestHeaderKey_eq, String.toList_append]
  exact List.prefix_append _ _

theorem ofKey_responseHeaderKey (name : String) :
    ofKey (responseHeaderKey name) = .responseHeader := by
  apply ofKey_of_responseHeaderPrefix
  rw [responseHeaderKey_eq, String.toList_append]
  exact List.prefix_append _ _

theorem ofKey_requestBodyKey : ofKey requestBodyKey = .requestBody := by decide

theorem ofKey_responseBodyKey : ofKey responseBodyKey = .responseBody := by decide

end Origin

/-- Writes of one origin are kept or dropped together. -/
theorem filter_of_origin {writes : List Write} {origin : Origin}
    (all : ∀ e ∈ writes, Origin.ofKey e.1 = origin) (o : Origin) :
    writes.filter (Origin.ofKey ·.1 = o) = if origin = o then writes else [] := by
  by_cases same : origin = o
  · rw [if_pos same, List.filter_eq_self]
    intro e mem
    simpa using (all e mem).trans same
  · rw [if_neg same, List.filter_eq_nil_iff]
    intro e mem
    simpa [all e mem] using same

/-- The value under a key is one of its own origin. -/
theorem lastValue?_filter_origin (writes : List Write) (key : String) :
    Table.lastValue? (writes.filter (Origin.ofKey ·.1 = Origin.ofKey key)) key =
      Table.lastValue? writes key := by
  rw [Table.lastValue?, ← List.filter_reverse, List.find?_filter, Table.lastValue?]
  congr 1
  apply List.find?_congr
  intro e _
  by_cases same : e.1 = key <;> simp [same]

end Capture

namespace Headers

/-- Headers written under keys that tell their names apart have their own values there. -/
theorem lastValue?_map (h : Headers) {key : String → String}
    (folds : ∀ n name, key n = key name ↔ Text.lower n = Text.lower name) (name : String) :
    Table.lastValue? (h.toList.map fun e => (key e.1, e.2)) (key name) = h.get? name := by
  rw [get?_eq, ← Table.lastValue?_entries, Table.lastValue?, Table.lastValue?, ← List.map_reverse,
    List.find?_map, Option.map_map]
  congr 1
  apply List.find?_congr
  intro e mem
  have folded := h.folded e (List.mem_reverse.mp mem)
  simp [folds, folded]

end Headers
end Turnstile
