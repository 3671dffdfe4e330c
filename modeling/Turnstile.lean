import Turnstile.Capture.Calls
import Turnstile.Capture.Shelf
import Turnstile.Main
import Turnstile.Policy.Rule
import Turnstile.Session.Step
import Turnstile.Proofs.Capture.Monitor
import Turnstile.Proofs.Stream.Frame
import Turnstile.Proofs.Capture.Buffer
import Turnstile.Proofs.Capture.Cycle
import Turnstile.Proofs.Capture.Completion
import Turnstile.Proofs.Exchange.Isolation
import Turnstile.Proofs.Stream.Instrumented
import Turnstile.Proofs.Exchange.Enforcement
import Turnstile.Proofs.Command.Replay
import Turnstile.Proofs.Stream.Delivery
import Turnstile.Proofs.Stream.Transparency
import Turnstile.Proofs.Stream.Tower
import Turnstile.Proofs.Capture.Shelf
import Turnstile.Proofs.Capture.Ledger
import Turnstile.Proofs.Capture.Span
import Turnstile.Proofs.Exchange.Exposure
import Turnstile.Proofs.Command.Independence
import Turnstile.Proofs.Policy.Verdict
import Turnstile.Proofs.Log.Flush
import Turnstile.Proofs.Policy.Poller
import Turnstile.Proofs.Json.RoundTrip
import Turnstile.Proofs.Text.Utf8
import Turnstile.Proofs.HeaderNames
import Turnstile.Proofs.Headers
import Turnstile.Proofs.Command.Agreement
import Turnstile.Proofs.NameSet
import Turnstile.Proofs.Policy.Address
import Turnstile.Proofs.Policy.Resolution
import Turnstile.Proofs.Policy.Revision
import Turnstile.Proofs.Capture.Truncation
import Turnstile.Proofs.Capture.Calls
import Turnstile.Proofs.Capture.Chunks
import Turnstile.Proofs.Stream.Traffic
import Turnstile.Proofs.Stream.Lines
import Turnstile.Proofs.Stream.Writing
import Turnstile.Proofs.Charset
import Turnstile.Proofs.Capture.Offered
import Turnstile.Proofs.Capture.ContentType
import Turnstile.Proofs.Capture.Attaching
import Turnstile.Proofs.Policy.Document
import Turnstile.Proofs.Configuration
import Turnstile.Proofs.Log.Record
import Turnstile.Proofs.Capture.Form
import Turnstile.Proofs.Policy.Extraction
import Turnstile.Proofs.Declaration
import Turnstile.Proofs.Log.Stamp
import Turnstile.Proofs.Log.Torn
import Turnstile.Proofs.Command.Skipping
