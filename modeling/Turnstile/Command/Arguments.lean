import Turnstile.Command.Switches
/-!
# The command line

The arguments of the program: switches that replace settings of the configuration, and one of two
commands.
-/
namespace Turnstile.Command

/-- What `check` is asked to judge. -/
structure CheckArguments where
  /-- The headers, as an object of strings. -/
  headers : String
  /-- The path of the body. -/
  body : Option String
  contentType : Option String
  /-- The path of the policy snapshot. -/
  snapshot : Option String
deriving DecidableEq, Repr

/-- What the program is asked to do. -/
inductive Task
  /-- Judge one request. -/
  | check (arguments : CheckArguments)
  /-- Judge the requests that arrive as lines. -/
  | replay
deriving DecidableEq, Repr

/-- The arguments of the program. -/
structure Arguments where
  /-- The path of the configuration file. -/
  config : String
  policyEndpoint : Option String
  policyToken : Option String
  spanLog : Option String
  task : Task
deriving DecidableEq, Repr

namespace Arguments

/-- The path of the configuration file, unless another is given. -/
def defaultConfig : String := "config.yaml"

/-- The arguments before the command. -/
def programGrammar : Grammar where
  switches := [⟨"config", some 'c', true⟩, ⟨"policy-endpoint", none, false⟩,
    ⟨"policy-token", none, false⟩, ⟨"span-log", none, true⟩]
  versioned := true
  commands := ["check", "replay", "help"]

/-- The arguments of `check`. -/
def checkGrammar : Grammar where
  switches := [⟨"headers", none, false⟩, ⟨"body", none, true⟩, ⟨"content-type", none, false⟩,
    ⟨"snapshot", none, true⟩]
  versioned := false
  commands := []

/-- The arguments of `replay`. -/
def replayGrammar : Grammar := ⟨[], false, []⟩

/-- Reads all arguments of a command that has no commands of its own. -/
def readAll (g : Grammar) (args : List String) : Except ArgumentError Reading := do
  let (r, _) ← g.read false .none args
  r.resolve

/-- The task of a command with its arguments. -/
def taskOf (command : String) (args : List String) : Except ArgumentError Task := do
  if command = "help" then
    match args with
    | [] => .error .help
    | [name] => .error (if programGrammar.commands.contains name then .help else .unknownCommand)
    | _ => .error .unknownCommand
  else if command = "check" then
    let r ← readAll checkGrammar args
    match r.get? "headers" with
    | none => .error .missingArgument
    | some headers =>
      .ok (.check ⟨headers, r.get? "body", r.get? "content-type", r.get? "snapshot"⟩)
  else
    let _ ← readAll replayGrammar args
    .ok .replay

/-- Reads the arguments of the program. What is wrong after the command's name is reported first. -/
def parse (args : List String) : Except ArgumentError Arguments := do
  let (r, command) ← programGrammar.read false .none args
  let chosen ← command.mapM fun (name, rest) => taskOf name rest
  let r ← r.resolve
  match chosen with
  | none => .error (if r.given.isEmpty then .helpForNothing else .missingCommand)
  | some chosen =>
    .ok {
      config := (r.get? "config").getD defaultConfig
      policyEndpoint := r.get? "policy-endpoint"
      policyToken := r.get? "policy-token"
      spanLog := r.get? "span-log"
      task := chosen }

end Arguments
end Turnstile.Command
