/-!
# Switches

The arguments of a command: switches with values, in long and short form, and the names of commands
that take over the arguments after them. A value may follow its switch as the next argument; it is
settled when the next switch comes or the arguments end, so a flaw shows up in that order.
-/
namespace Turnstile.Command

/-- What is wrong with arguments, or asked for in place of a run. -/
inductive ArgumentError
  | unknownArgument
  | invalidValue
  | tooManyValues
  | unknownCommand
  /-- A switch is given twice. -/
  | conflict
  | missingArgument
  | missingCommand
  | help
  /-- There are no arguments at all. -/
  | helpForNothing
  | version
deriving DecidableEq, Repr

/-- A switch with a value. -/
structure Switch where
  name : String
  short : Option Char
  /-- The value is a path, which may not be empty. -/
  path : Bool
deriving DecidableEq, Repr

/-- The arguments that a command knows. -/
structure Grammar where
  switches : List Switch
  /-- Whether its version can be asked for. -/
  versioned : Bool
  commands : List String

/-- What an argument of a known form means. -/
inductive Meaning
  | switch (s : Switch)
  | help
  | version

namespace Grammar

def ofLong? (g : Grammar) (name : String) : Option Meaning :=
  match g.switches.find? (·.name == name) with
  | some s => some (.switch s)
  | none =>
    if name = "help" then some .help
    else if name = "version" && g.versioned then some .version
    else none

def ofShort? (g : Grammar) (c : Char) : Option Meaning :=
  match g.switches.find? (·.short == some c) with
  | some s => some (.switch s)
  | none =>
    if c = 'h' then some .help
    else if c = 'V' && g.versioned then some .version
    else none

end Grammar

/-- The switches that have been read. -/
structure Reading where
  /-- The settled values, by the names of the switches. -/
  given : List (String × String)
  /-- The last switch, with the value that followed it. -/
  pending : Option (Switch × Option String)

namespace Reading

def none : Reading := ⟨[], .none⟩

def get? (r : Reading) (name : String) : Option String := r.given.lookup name

/-- Whether the last switch still has no value. -/
def isWaiting (r : Reading) : Bool :=
  match r.pending with
  | some (_, .none) => true
  | _ => false

/-- Settles a value. -/
def settle (r : Reading) (s : Switch) (value : String) : Except ArgumentError Reading :=
  if (r.get? s.name).isSome then .error .conflict
  else if s.path && value.isEmpty then .error .invalidValue
  else .ok ⟨(s.name, value) :: r.given, .none⟩

/-- Settles the last switch. -/
def resolve (r : Reading) : Except ArgumentError Reading :=
  match r.pending with
  | .none => .ok r
  | some (_, .none) => .error .invalidValue
  | some (s, some value) => settle { r with pending := .none } s value

/-- Takes a switch, with a value if one is attached to it. -/
def take (r : Reading) (m : Meaning) (attached : Option String) : Except ArgumentError Reading := do
  let r ← match m, attached with
    | .switch _, _ | _, .none => r.resolve
    | _, some _ => .error .tooManyValues
  match m, attached with
  | .help, _ => .error .help
  | .version, _ => .error .version
  | .switch s, some value => r.settle s value
  | .switch s, .none => .ok { r with pending := some (s, .none) }

end Reading

/-- A long form without its hyphens: the name, and what follows an equals sign. -/
def splitLong (cs : List Char) : String × Option String :=
  let name := cs.takeWhile (· ≠ '=')
  (String.ofList name,
    match cs.drop name.length with
    | [] => none
    | _ :: value => some (String.ofList value))

/-- The value attached to a short form, with or without an equals sign. -/
def attachedValue : List Char → Option String
  | [] => none
  | '=' :: value => some (String.ofList value)
  | value => some (String.ofList value)

namespace Grammar

def takeLong (g : Grammar) (r : Reading) (cs : List Char) : Except ArgumentError Reading :=
  let (name, attached) := splitLong cs
  match g.ofLong? name with
  | none => .error .unknownArgument
  | some m => r.take m attached

def takeShort (g : Grammar) (r : Reading) (c : Char) (rest : List Char) :
    Except ArgumentError Reading :=
  match g.ofShort? c with
  | none => .error .unknownArgument
  | some (.switch s) => r.take (.switch s) (attachedValue rest)
  | some m => r.take m none

/-- The error for an argument that is no switch. -/
def strayError (g : Grammar) (arg : String) (trailing : Bool) : ArgumentError :=
  if g.commands.isEmpty || (trailing && g.commands.contains arg) then .unknownArgument
  else .unknownCommand

/-- Reads arguments up to the name of a command. Gives what has been read, and the command with the
arguments after it. After two hyphens (`trailing`) no switch is read any more. -/
def read (g : Grammar) (trailing : Bool) (r : Reading) :
    List String → Except ArgumentError (Reading × Option (String × List String))
  | [] => .ok (r, none)
  | arg :: rest =>
    if trailing then .error (g.strayError arg true)
    else if !r.isWaiting && g.commands.contains arg then .ok (r, some (arg, rest))
    else
      match arg.toList with
      | ['-', '-'] => g.read true r rest
      | '-' :: '-' :: cs => do g.read false (← g.takeLong r cs) rest
      | '-' :: c :: cs => do g.read false (← g.takeShort r c cs) rest
      | _ =>
        match r.pending with
        | some (s, none) => g.read false { r with pending := some (s, some arg) } rest
        | _ => .error (g.strayError arg false)

end Grammar
end Turnstile.Command
