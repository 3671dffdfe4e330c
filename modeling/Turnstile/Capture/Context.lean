import Turnstile.Capture.Buffer
import Turnstile.Capture.Span
import Turnstile.Json.Printer
import Turnstile.Policy.Chain
/-!
# Capture contexts

What is known of one body while it streams: where it is to be recorded, what has been buffered, and
whether it has been recorded yet. Recording happens once in a cycle, from one reset to the next: the
first `capture` writes the body to the span and, for a request, has the chain judge it; later ones do
nothing. A form is recorded in the same way, as the JSON text of its parameters.
-/
namespace Turnstile.Capture

open Policy

/-- What follows the recording of a body. -/
inductive Stage
  /-- The chain judges it together with the request's headers. -/
  | request (headers : Headers)
  /-- Nothing. -/
  | response
deriving DecidableEq

/-- What a request for recording did. -/
inductive Finish
  | recorded
  /-- An earlier one had done it. -/
  | alreadyCaptured
deriving DecidableEq, Repr

/-- What a capture does: the writes to the span, the request it has the chain judge, and its result.
The error is the verdict that blocks. -/
structure Effect (α : Type) where
  writes : List Write
  judged : Option Request
  result : Except Verdict α

/-- The effect of a verdict: its attributes are written, and it stops the request if it blocks. -/
def verdictEffect (request : Request) (v : Verdict) : Effect Verdict where
  writes := v.attributes.entries
  judged := some request
  result := if v.blocked then .error v else .ok v

/-- The effect of recording a body under a key and having the chain judge it. -/
def recordEffect (chain : Chain) (moment : Moment) (key body : String) (stage : Stage) :
    Effect Finish :=
  match stage with
  | .response => ⟨[(key, body)], none, .ok .recorded⟩
  | .request headers =>
    let request : Request := ⟨headers, some body⟩
    let e := verdictEffect request (chain.judge moment request)
    ⟨(key, body) :: e.writes, e.judged, e.result.map fun _ => .recorded⟩

/-- The effect of a capture that comes too late. -/
def idleEffect : Effect Finish := ⟨[], none, .ok .alreadyCaptured⟩

/-- A body that is being captured. -/
structure Context where
  /-- The span it is recorded in, by number. -/
  span : Nat
  key : String
  buffer : BodyBuffer
  charset : Charset
  stage : Stage
  captured : Bool

namespace Context

/-- The context after bytes streamed by; they count only until the body is recorded. -/
def writeBytes (c : Context) (bytes : Bytes) : Context :=
  if c.captured then c else { c with buffer := c.buffer.writeBytes bytes c.charset }

/-- The context after text streamed by; it counts only until the body is recorded. -/
def writeText (c : Context) (s : String) : Context :=
  if c.captured then c else { c with buffer := c.buffer.writeText s }

def render (c : Context) : String := c.buffer.render c.charset

/-- The context at the start of another cycle. -/
def reset (c : Context) : Context := { c with buffer := c.buffer.reset, captured := false }

def captureAs (chain : Chain) (moment : Moment) (key : String) (c : Context) :
    Context × Effect Finish :=
  if c.captured then (c, idleEffect)
  else ({ c with captured := true }, recordEffect chain moment key c.render c.stage)

def capture (chain : Chain) (moment : Moment) (c : Context) : Context × Effect Finish :=
  c.captureAs chain moment c.key

def stageText : Stage → String
  | .response => "Response"
  | .request headers =>
    "Request(RequestHeaders \x7b entries: \x7b" ++ ", ".intercalate (headers.toList.map fun e =>
      Text.quoted e.1 ++ ": " ++ Text.quoted e.2) ++ "\x7d \x7d)"

def debugText (c : Context) : String :=
  "CaptureContext \x7b attribute_key: " ++ Text.quoted c.key ++ ", charset: " ++
    c.charset.identifier ++ ", buffered: " ++ toString c.buffer.length ++ ", stage: " ++
    stageText c.stage ++ ", captured: " ++ (if c.captured then "true" else "false") ++ ", .. \x7d"

end Context

/-- A form whose parameters are recorded once. -/
structure Form where
  /-- The span it is recorded in, by number. -/
  span : Nat
  key : String
  headers : Headers
  captured : Bool

namespace Form

/-- The text the parameters are recorded as. -/
def bodyText (params : Table String) : String := (Json.ofTable params).render

def capture (chain : Chain) (moment : Moment) (params : Table String) (f : Form) :
    Form × Effect Finish :=
  if f.captured then (f, idleEffect)
  else ({ f with captured := true },
    recordEffect chain moment f.key (bodyText params) (.request f.headers))

def debugText (f : Form) : String :=
  "FormCapture \x7b attribute_key: " ++ Text.quoted f.key ++ ", captured: " ++
    (if f.captured then "true" else "false") ++ ", .. \x7d"

end Form
end Turnstile.Capture
