import Turnstile.Policy.Verdict
/-!
# Stream faults

Why a read, a write or a flush fails. A verdict that blocks travels as a fault too.
-/
namespace Turnstile.Stream

open Policy

/-- The kinds of faults that a stream below reports. -/
inductive FaultKind
  | interrupted
  | brokenPipe
  | unexpectedEnd
  | connectionReset
  | timedOut
  | wouldBlock
  | invalidData
  | permissionDenied
  | writeZero
  | other
deriving DecidableEq, Repr

namespace FaultKind

/-- Every kind with its name. -/
def names : List (String × FaultKind) :=
  [("Interrupted", .interrupted), ("BrokenPipe", .brokenPipe), ("UnexpectedEof", .unexpectedEnd),
   ("ConnectionReset", .connectionReset), ("TimedOut", .timedOut), ("WouldBlock", .wouldBlock),
   ("InvalidData", .invalidData), ("PermissionDenied", .permissionDenied),
   ("WriteZero", .writeZero), ("Other", .other)]

def name (k : FaultKind) : String :=
  ((names.find? fun e => decide (e.2 = k)).map Prod.fst).getD "Other"

def ofName? (name : String) : Option FaultKind := names.lookup name

end FaultKind

def FaultKind.message : FaultKind → String
  | .interrupted => "operation interrupted"
  | .brokenPipe => "broken pipe"
  | .unexpectedEnd => "unexpected end of file"
  | .connectionReset => "connection reset"
  | .timedOut => "timed out"
  | .wouldBlock => "operation would block"
  | .invalidData => "invalid data"
  | .permissionDenied => "permission denied"
  | .writeZero => "write zero"
  | .other => "other error"

/-- Why an operation on a stream fails. -/
inductive Fault
  | failed (kind : FaultKind)
  /-- A line is no UTF-8. -/
  | notText
  /-- A stream took none of the bytes that were to be written. -/
  | nothingTaken
  /-- The request was blocked. -/
  | blocked (v : Verdict)
deriving DecidableEq

namespace Fault

def kind : Fault → FaultKind
  | .failed kind => kind
  | .notText => .invalidData
  | .nothingTaken => .writeZero
  | .blocked _ => .other

def message : Fault → String
  | .failed kind => kind.message
  | .notText => "stream did not contain valid UTF-8"
  | .nothingTaken => "failed to write whole buffer"
  | .blocked v => v.refusal

/-- Whether the operation is simply tried again. -/
def isTransient (f : Fault) : Bool := f = .failed .interrupted

end Fault
end Turnstile.Stream
