import Turnstile.Config
import Turnstile.Exchange.Course
/-!
# Checking one request

One request is judged by a policy snapshot from a file, or by none.
-/
namespace Turnstile.Command

open Policy Capture Turnstile.Stream

/-- A request to judge. Of a file, `none` stands for content that cannot be read. -/
structure Inquiry where
  /-- The headers, as an object of strings. -/
  headers : String
  contentType : Option String
  /-- The path and the content of the body's file. -/
  body : Option (String × Option Bytes)
  /-- The content of the snapshot's file. -/
  snapshot : Option (Option Bytes)

/-- Why there is no outcome. -/
inductive CheckError
  | headers (cause : Misfit)
  | body (path : String)
  /-- The snapshot's file cannot be read. -/
  | snapshotFile
  | snapshot (cause : DocumentError)
  | course (cause : Failure)

def CheckError.message : CheckError → String
  | .headers _ => "--headers must be a JSON object of strings"
  | .body path => "failed to read body file " ++ path
  | .snapshotFile | .snapshot _ => "failed to load snapshot"
  | .course cause => cause.message

/-- The exit code of a check that ends so. -/
def CheckError.exitCode : CheckError → Nat
  | .course cause => cause.exitCode
  | _ => 1

namespace Inquiry

def textOf (content : Option Bytes) : Option String :=
  content.bind fun bytes => (Text.Utf8.decode? bytes).map String.ofList

/-- The headers of the request; a content type that is given counts instead of theirs. -/
def requestHeaders (q : Inquiry) : Except CheckError Headers := do
  let headers ← (Shape.ofText Headers.shape (Document.ofText q.headers)).mapError .headers
  .ok (match q.contentType with
    | none => headers
    | some contentType => headers.insert "content-type" contentType)

def requestBody (q : Inquiry) : Except CheckError (Option String) :=
  match q.body with
  | none => .ok none
  | some (path, content) =>
    match textOf content with
    | none => .error (.body path)
    | some text => .ok (some text)

def policySnapshot (q : Inquiry) : Except CheckError (Option Snapshot) :=
  match q.snapshot with
  | none => .ok none
  | some content =>
    match textOf content with
    | none => .error .snapshotFile
    | some text => (Snapshot.ofText text).mapError .snapshot |>.map some

def exchange (headers : Headers) (body : Option String) : Exchange :=
  { Exchange.empty with name := some "check", headers := headers, body := body }

def run (q : Inquiry) (config : Config) (now : Int) (stamp : Log.Stamp) :
    Except CheckError Outcome := do
  let headers ← q.requestHeaders
  let body ← q.requestBody
  let snapshot ← q.policySnapshot
  let monitor := Monitor.start config.capture config.filters.chain ⟨snapshot, now⟩
  match ((exchange headers body).process stamp .unlimited monitor).1 with
  | .ok (outcome, _) => .ok outcome
  | .error cause => .error (.course cause)

end Inquiry

/-- The exit code after an outcome. -/
def exitCode (outcome : Outcome) : Nat := if outcome.blocked then 2 else 0

end Turnstile.Command
