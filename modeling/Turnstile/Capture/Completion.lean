import Turnstile.Capture.Monitor
/-!
# Completion

The end of a request that completes asynchronously. Of the signals that report success or failure the
first one records the tracked responses and the response headers and detaches all that is tracked; the
others do nothing. A timeout never does anything, and leaves it to a later signal.
-/
namespace Turnstile.Capture

/-- What one request has to have finished and detached. Copies share the number. -/
structure Listener where
  /-- The place of its flag in the monitor. -/
  number : Nat
  span : Nat
  /-- The resources to detach, in order. -/
  tracked : List Resource
  /-- The responses to record before, in order. -/
  responses : List (StoreKey × Resource)

/-- What is reported about a request. -/
inductive Signal
  | complete (headers : Headers)
  | error (headers : Headers)
  | timeout

/-- What a signal did. -/
inductive Completion
  /-- It was the first one, and so many bodies were recorded. -/
  | finalized (bodies : Nat)
  | alreadyHandled
  | timedOut
deriving DecidableEq, Repr

namespace Monitor

/-- A listener for requests to detach and responses to record. -/
def listen (m : Monitor) (span : Nat) (requests : List Resource)
    (responses : List (StoreKey × Resource)) : Listener × Monitor :=
  (⟨m.handled.size, span, requests ++ responses.map Prod.snd, responses⟩,
    { m with handled := m.handled.push false })

/-- Whether a listener's request has been handled. -/
def isHandled (m : Monitor) (l : Listener) : Bool := (m.handled[l.number]?).getD false

/-- Records one tracked response, and tells whether there was one that had not been recorded. One that
is blocked is recorded all the same. -/
def recordResponse (m : Monitor) (store : StoreKey) (key : Resource) : Bool × Monitor :=
  match m.lookUp store key with
  | (none, m) => (false, m)
  | (some i, m) =>
    match m.captureContext i none with
    | (.ok .alreadyCaptured, m) => (false, m)
    | (.ok .recorded, m) => (true, m)
    | (.error _, m) => (true, m)

/-- Records tracked responses in order, and counts them. -/
def recordResponses (m : Monitor) (count : Nat) :
    List (StoreKey × Resource) → Nat × Monitor
  | [] => (count, m)
  | (store, key) :: rest =>
    let (recorded, m) := m.recordResponse store key
    m.recordResponses (if recorded then count + 1 else count) rest

/-- Handles the completion of a request, once. -/
def handle (m : Monitor) (l : Listener) (headers : Headers) : Completion × Monitor :=
  if m.isHandled l then (.alreadyHandled, m)
  else
    let m := { m with handled := m.handled.setIfInBounds l.number true }
    let (bodies, m) := m.recordResponses 0 l.responses
    let m := m.responseHeaders l.span headers
    (.finalized bodies, l.tracked.foldl detachAll m)

def signal (m : Monitor) (l : Listener) : Signal → Completion × Monitor
  | .complete headers => m.handle l headers
  | .error headers => m.handle l headers
  | .timeout => (.timedOut, m)

def listenerText (m : Monitor) (l : Listener) : String :=
  "CompletionListener \x7b handled: " ++ (if m.isHandled l then "true" else "false") ++
    ", tracked: " ++ toString l.tracked.length ++ " \x7d"

end Monitor
end Turnstile.Capture
