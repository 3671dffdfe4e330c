/-!
# Call depth

How many instrumented calls of each kind of stream are under way. Only the outermost one captures;
a guard marks one call from its start to its end.
-/
namespace Turnstile.Capture

/-- A kind of stream: bytes or characters, in or out. -/
inductive StreamKind
  | byteInput
  | charInput
  | byteOutput
  | charOutput
deriving DecidableEq, Repr

namespace StreamKind

/-- Every kind, in order. -/
def all : List StreamKind := [.byteInput, .charInput, .byteOutput, .charOutput]

def index : StreamKind → Fin 4
  | .byteInput => 0
  | .charInput => 1
  | .byteOutput => 2
  | .charOutput => 3

theorem index_inj {c d : StreamKind} (same : c.index = d.index) : c = d := by
  cases c <;> cases d <;> first | rfl | exact absurd same (by decide)

def name : StreamKind → String
  | .byteInput => "ByteInput"
  | .charInput => "CharInput"
  | .byteOutput => "ByteOutput"
  | .charOutput => "CharOutput"

def ofName? (name : String) : Option StreamKind := all.find? fun c => c.name == name

/-- Whether streams of the kind carry characters. -/
def isText : StreamKind → Bool
  | .charInput | .charOutput => true
  | .byteInput | .byteOutput => false

end StreamKind

/-- The number of calls under way, by kind. -/
structure CallDepth where
  byteInput : Nat
  charInput : Nat
  byteOutput : Nat
  charOutput : Nat
deriving DecidableEq, Repr

namespace CallDepth

def idle : CallDepth := ⟨0, 0, 0, 0⟩

instance : Inhabited CallDepth := ⟨idle⟩

def depth (d : CallDepth) : StreamKind → Nat
  | .byteInput => d.byteInput
  | .charInput => d.charInput
  | .byteOutput => d.byteOutput
  | .charOutput => d.charOutput

def set (d : CallDepth) (c : StreamKind) (n : Nat) : CallDepth :=
  match c with
  | .byteInput => { d with byteInput := n }
  | .charInput => { d with charInput := n }
  | .byteOutput => { d with byteOutput := n }
  | .charOutput => { d with charOutput := n }

/-- The depth after a call of the kind began. -/
def enter (d : CallDepth) (c : StreamKind) : CallDepth := d.set c (d.depth c + 1)

/-- The depth after a call of the kind ended; an idle kind stays idle. -/
def exit (d : CallDepth) (c : StreamKind) : CallDepth := d.set c (d.depth c - 1)

def reset (d : CallDepth) (c : StreamKind) : CallDepth := d.set c 0

/-- Setting a kind leaves the others as they were. -/
theorem depth_set (d : CallDepth) (c c' : StreamKind) (n : Nat) :
    (d.set c n).depth c' = if c = c' then n else d.depth c' := by
  cases c <;> cases c' <;> rfl

end CallDepth

/-- One call under way. -/
structure Guard where
  kind : StreamKind
  /-- No other call of the kind was under way when it began. -/
  outermost : Bool
deriving DecidableEq, Repr

namespace Guard

/-- The guard of a call that begins, and the depth inside it. -/
def enter (d : CallDepth) (c : StreamKind) : Guard × CallDepth :=
  (⟨c, d.depth c == 0⟩, d.enter c)

/-- The depth after the call ends. The outermost one leaves its kind idle, whatever happened
inside it. -/
def drop (g : Guard) (d : CallDepth) : CallDepth :=
  if g.outermost then d.reset g.kind else d.exit g.kind

end Guard
end Turnstile.Capture
