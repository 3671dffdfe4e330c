import Turnstile.Policy.Cell
import Turnstile.Policy.Document
import Turnstile.Policy.Status
import Turnstile.Text.Basic
import Turnstile.Text.Utf8
/-!
# The policy poller

A poller fetches a policy document again and again and puts what it finds there in force. Only a
document that is fetched with success and gives a snapshot is published; after any failure the cell
holds what it held before.
-/
namespace Turnstile.Policy

/-- Where and how often to poll. -/
structure PollerSettings where
  endpoint : String
  /-- Shown to the endpoint, and never printed. -/
  token : Option String
  /-- Whether certificates that do not verify are accepted. -/
  skipVerify : Bool
  /-- The seconds between two polls. -/
  interval : Nat
  /-- The seconds until a request is given up. -/
  timeout : Nat
  /-- The pointer to the snapshot inside the document. -/
  documentPath : String
  /-- What is appended to the endpoint. -/
  dataPath : String
deriving DecidableEq, Repr

namespace PollerSettings

/-- A policy service on this machine, polled twice a minute. -/
def default : PollerSettings where
  endpoint := "http://localhost:8181"
  token := none
  skipVerify := false
  interval := 30
  timeout := 10
  documentPath := "/result/capture/http/request"
  dataPath := "/v1/data"

instance : Inhabited PollerSettings := ⟨default⟩

/-- Settings as an object, without the token. -/
def toJson (s : PollerSettings) : Json :=
  .object [("endpoint", .string s.endpoint), ("skip_verify", .bool s.skipVerify),
    ("poll_interval_secs", .ofNat s.interval), ("request_timeout_secs", .ofNat s.timeout),
    ("document_path", .string s.documentPath), ("data_path", .string s.dataPath)]

/-- The settings that have been read. -/
structure Fields where
  endpoint : Option String := none
  token : Option (Option String) := none
  skipVerify : Option Bool := none
  interval : Option Nat := none
  timeout : Option Nat := none
  documentPath : Option String := none
  dataPath : Option String := none

/-- Settings; whatever is left out has its default. -/
def shape : Shape PollerSettings := fun t => do
  let fields ← Shape.record "struct PollerConfig" [
    Shape.field "endpoint" [] false Shape.string Fields.endpoint
      fun s v => { s with endpoint := some v },
    Shape.field "auth_token" [] false (Shape.optional Shape.string) Fields.token
      fun s v => { s with token := some v },
    Shape.field "skip_verify" [] false Shape.bool Fields.skipVerify
      fun s v => { s with skipVerify := some v },
    Shape.field "poll_interval_secs" [] false (Shape.word "u64") Fields.interval
      fun s v => { s with interval := some v },
    Shape.field "request_timeout_secs" [] false (Shape.word "u64") Fields.timeout
      fun s v => { s with timeout := some v },
    Shape.field "document_path" [] false Shape.string Fields.documentPath
      fun s v => { s with documentPath := some v },
    Shape.field "data_path" [] false Shape.string Fields.dataPath
      fun s v => { s with dataPath := some v }] {} t
  .ok {
    endpoint := fields.endpoint.getD default.endpoint
    token := fields.token.getD default.token
    skipVerify := fields.skipVerify.getD default.skipVerify
    interval := fields.interval.getD default.interval
    timeout := fields.timeout.getD default.timeout
    documentPath := fields.documentPath.getD default.documentPath
    dataPath := fields.dataPath.getD default.dataPath }

end PollerSettings

/-- What came of one request. -/
inductive Fetched
  /-- There was no answer. -/
  | lost
  | answered (status : Status) (body : Bytes)

/-- Why a poll publishes nothing. -/
inductive PollError
  /-- There was no answer, or its body is no JSON. -/
  | transport
  /-- The answer reports no success. -/
  | status (status : Status)
  | document (cause : DocumentError)

def PollError.message : PollError → String
  | .transport => "policy fetch failed"
  | .status s => "policy endpoint returned status " ++ s.text
  | .document cause => cause.message

/-- Why there can be no poller. -/
inductive PollerError
  /-- The token cannot stand in a header. -/
  | invalidToken
deriving DecidableEq, Repr

def PollerError.message : PollerError → String
  | .invalidToken => "auth token is not a valid header value"

/-- A reader of policy documents. -/
structure Poller where
  url : String
  /-- The microseconds between two polls. -/
  interval : Nat
  documentPath : String
  /-- The value of the authorization header, if one is sent. -/
  authorization : Option String
deriving DecidableEq, Repr

namespace Poller

/-- Whether a header's value may hold a character: no control but the tab. -/
def isHeaderChar (c : Char) : Bool := c = '\t' || (0x20 ≤ c.toNat && c.toNat ≠ 0x7F)

/-- The text without the slashes at its end. -/
def withoutSlashes (s : String) : String :=
  String.ofList (Text.dropEndWhile (· = '/') s.toList)

/-- The authorization header for a token; an empty token is none. -/
def authorizationOf (token : Option String) : Except PollerError (Option String) :=
  match token with
  | none => .ok none
  | some token =>
    if token.isEmpty then .ok none
    else if token.toList.all isHeaderChar then .ok (some ("Bearer " ++ token))
    else .error .invalidToken

/-- The poller for settings. It polls at most once a second. -/
def ofSettings (s : PollerSettings) : Except PollerError Poller := do
  let authorization ← authorizationOf s.token
  .ok {
    url := withoutSlashes s.endpoint ++ s.dataPath
    interval := max s.interval 1 * 1000000
    documentPath := s.documentPath
    authorization := authorization }

/-- The poller with another interval, in microseconds: at least one millisecond. -/
def withInterval (p : Poller) (interval : Nat) : Poller :=
  { p with interval := max interval 1000 }

/-- The characters of a URL that stand for themselves; the others are written by their bytes. -/
def standsInUrl (c : Char) : Bool :=
  0x20 < c.toNat && c.toNat < 0x7F && c ∉ ['"', '<', '>', '\x60', '\x7b', '\x7d']

/-- A character as it is sent inside a URL. -/
def escapeUrl (c : Char) : List Char :=
  if standsInUrl c then [c]
  else (Text.Utf8.encode [c]).flatMap fun b =>
    ['%', (Nat.digitChar (b.toNat / 16)).toUpper, (Nat.digitChar (b.toNat % 16)).toUpper]

/-- What a URL has after its scheme. -/
def afterScheme : List Char → List Char
  | [] => []
  | '/' :: '/' :: rest => rest
  | _ :: rest => afterScheme rest

/-- What a request asks the endpoint's server for. -/
def target (p : Poller) : String :=
  let path := (afterScheme p.url.toList).dropWhile fun c => c ≠ '/' && c ≠ '?' && c ≠ '#'
  let path := (path.takeWhile (· ≠ '#')).flatMap escapeUrl
  String.ofList (if path.head? = some '/' then path else '/' :: path)

/-- The snapshot an answer gives. -/
def snapshotOf (p : Poller) : Fetched → Except PollError Snapshot
  | .lost => .error .transport
  | .answered status body =>
    if !status.isSuccess then .error (.status status)
    else
      match Text.Utf8.decode? body with
      | none => .error .transport
      | some text =>
        match Json.parse (String.ofList text) with
        | .error _ => .error .transport
        | .ok document => (Snapshot.ofDocument document p.documentPath).mapError .document

/-- Takes what came of a request, and publishes the snapshot it gives. -/
def poll (p : Poller) (cell : Cell) (fetched : Fetched) : Except PollError Edition × Cell :=
  match p.snapshotOf fetched with
  | .error cause => (.error cause, cell)
  | .ok snapshot =>
    let (edition, cell) := cell.print snapshot
    (.ok edition, cell.publish edition)

/-- The cell after a run of requests. -/
def run (p : Poller) (cell : Cell) (answers : List Fetched) : Cell :=
  answers.foldl (fun cell fetched => (p.poll cell fetched).2) cell

end Poller
end Turnstile.Policy
