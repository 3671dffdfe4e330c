import Turnstile.Command.Check
import Turnstile.Proofs.Command.Independence
import Turnstile.Proofs.HeaderNames
import Turnstile.Proofs.Policy.Roster
import Turnstile.Proofs.Text.Utf8
/-!
# A check foretells a replay

A request reaches the monitor by two ways: as the arguments of a check, or as a line of a replay. Where the
line records the request that is checked, both have the same outcome up to the id of its span.
-/
namespace Turnstile

namespace Command

open Policy Capture

/-! ## Lines -/

theorem ofText_blank {text : List Char} (blank : text.all Text.isBlank = true) :
    ∃ misfit, Exchange.ofText (String.ofList text) = .error misfit := by
  obtain ⟨flaw, broken⟩ := Json.readValue_blank blank (2 * text.length + 1)
  have document : Document.ofText (String.ofList text) = ⟨.broken flaw, false⟩ := by
    rw [Document.ofText, String.toList_ofList, broken]
  rw [Exchange.ofText, document]
  exact ⟨_, rfl⟩

/-- A line holds a request if it is a text of one. So blank lines hold none. -/
theorem requestIn_eq_some_iff {line : Bytes} {x : Exchange} : requestIn line = some x ↔
    ∃ text, Text.Utf8.decode? line = some text ∧ Exchange.ofText (String.ofList text) = .ok x := by
  rw [requestIn, Option.bind_eq_some_iff]
  refine exists_congr fun text => and_congr_right fun _ => ?_
  rw [Replay.requestOf]
  split
  · rename_i blank
    obtain ⟨misfit, fails⟩ := ofText_blank blank
    simp [fails]
  · cases Exchange.ofText (String.ofList text) <;> simp [Except.toOption]

namespace Inquiry

variable {headers : Headers} {body : Option String} {v : Json}

/-- The headers that pairs stand for, with a content type over theirs. -/
def headersOf (pairs : List (String × String)) (contentType : Option String) : Headers :=
  let headers := Headers.ofTable (Table.ofList pairs)
  contentType.elim headers (headers.insert "content-type")

variable {text : String} {pairs : List (String × String)}

section

variable {q : Inquiry} {headers : Headers} {body : Option String}
  (judgesHeaders : q.requestHeaders = .ok headers) (judgesBody : q.requestBody = .ok body)
  (unadvised : q.policySnapshot = .ok none) {config : Config} {now : Int} {stamp : Log.Stamp}

include judgesHeaders judgesBody unadvised

end

end Inquiry

/-! ## Replays over any log -/

namespace Replay

variable {r : Replay}

end Replay

/-! ## Agreement -/

section

variable (config : Config) (x : Exchange) (now begun : Int)

end

end Command
end Turnstile
