import Turnstile.Capture.Settings
import Turnstile.Policy.Poller
import Turnstile.Policy.Roster
import Turnstile.Yaml.Reader
/-!
# Configuration

The settings of the whole program. A file that does not exist, and any part that a file leaves out,
means the defaults; a file that cannot be read whole is refused.
-/
namespace Turnstile

open Policy Capture

/-- What is written about the run. -/
structure Logging where
  level : String
  /-- Where the span log is kept. -/
  spanLogPath : String
deriving DecidableEq, Repr

namespace Logging

/-- The usual messages, and a span log in the working directory. -/
def default : Logging := ⟨"info", "spans.jsonl"⟩

instance : Inhabited Logging := ⟨default⟩

/-- The settings that have been read. -/
structure Fields where
  level : Option String := none
  spanLogPath : Option String := none

/-- Settings; whatever is left out has its default. -/
def shape : Shape Logging := fun t => do
  let fields ← Shape.record "struct LoggingConfig" [
    Shape.field "level" [] false Shape.string Fields.level fun s v => { s with level := some v },
    Shape.field "span_log_path" [] false (Shape.text "path string") Fields.spanLogPath
      fun s v => { s with spanLogPath := some v }] {} t
  .ok ⟨fields.level.getD default.level, fields.spanLogPath.getD default.spanLogPath⟩

def toJson (l : Logging) : Json :=
  .object [("level", .string l.level), ("span_log_path", .string l.spanLogPath)]

end Logging

/-- The settings of the program. -/
structure Config where
  capture : Settings
  policy : PollerSettings
  filters : Roster
  logging : Logging

namespace Config

/-- Every setting has its default. -/
def default : Config := ⟨.default, .default, .default, .default⟩

instance : Inhabited Config := ⟨default⟩

/-- The settings that have been read. -/
structure Fields where
  capture : Option Settings := none
  policy : Option PollerSettings := none
  filters : Option Roster := none
  logging : Option Logging := none

/-- A configuration; whatever is left out has its default. -/
def shape : Shape Config := fun t => do
  let fields ← Shape.record "struct Config" [
    Shape.field "capture" [] false Settings.shape Fields.capture
      fun s v => { s with capture := some v },
    Shape.field "policy" [] false PollerSettings.shape Fields.policy
      fun s v => { s with policy := some v },
    Shape.field "filters" [] false Roster.shape Fields.filters
      fun s v => { s with filters := some v },
    Shape.field "logging" [] false Logging.shape Fields.logging
      fun s v => { s with logging := some v }] {} t
  .ok {
    capture := fields.capture.getD .default
    policy := fields.policy.getD .default
    filters := fields.filters.getD .default
    logging := fields.logging.getD .default }

/-! ## Files -/

/-- What stands under the path of a configuration file. -/
inductive File
  /-- Nothing. -/
  | missing
  /-- Something that cannot be read. -/
  | unreadable
  | content (bytes : Bytes)

/-- Where a configuration comes from. -/
inductive Source
  | file
  | defaults
deriving DecidableEq, Repr

def Source.name : Source → String
  | .file => "File"
  | .defaults => "Defaults"

/-- Why there is no configuration. -/
inductive LoadError
  | unreadable
  /-- The text is no configuration. -/
  | malformed
deriving DecidableEq, Repr

/-- The diagnostic, which the path of the file follows. -/
def LoadError.message : LoadError → String
  | .unreadable => "failed to read config file"
  | .malformed => "failed to parse config file"

def ofText? (text : String) : Option Config :=
  match Yaml.parse text with
  | none => none
  | some tree => (shape tree).toOption

def load : File → Except LoadError (Config × Source)
  | .missing => .ok (default, .defaults)
  | .unreadable => .error .unreadable
  | .content bytes =>
    match Text.Utf8.decode? bytes with
    | none => .error .unreadable
    | some text =>
      match ofText? (String.ofList text) with
      | none => .error .malformed
      | some config => .ok (config, .file)

/-- The configuration with settings from elsewhere in place of its own. -/
def override (c : Config) (endpoint token spanLogPath : Option String) : Config where
  capture := c.capture
  policy := { c.policy with
    endpoint := endpoint.getD c.policy.endpoint
    token := token.or c.policy.token }
  filters := c.filters
  logging := { c.logging with spanLogPath := spanLogPath.getD c.logging.spanLogPath }

end Config
end Turnstile
