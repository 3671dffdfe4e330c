import Turnstile.Charset
/-!
# Bounded buffers

Buffers that keep what fits and drop the rest without complaint: one counts bytes, the other
characters. A body is held in either; what is written in the other form is converted first.
-/
namespace Turnstile.Capture

/-- Something done with a buffer that takes texts made of units. -/
inductive BufferStep (text unit : Type)
  | write (whole : text)
  | writeOne (one : unit)
  /-- Writes as to a stream, which takes everything. -/
  | stream (whole : text)
  | reset
deriving DecidableEq, Repr

/-- What a step is answered. -/
inductive BufferReport
  | nothing
  /-- How many units were taken. -/
  | count (n : Nat)
  | fitted (b : Bool)
deriving DecidableEq, Repr

/-- The most bytes that can be set aside at once. No more is ever granted, however much memory there is. -/
def roomLimit : Nat := Nat.pow 2 63 - 1

/-- The first bytes of a body. -/
structure ByteBuffer where
  capacity : Nat
  charset : Charset
  data : Array UInt8
  bounded : data.size ≤ capacity

namespace ByteBuffer

/-- A buffer that holds nothing yet, with memory set aside for so many bytes, but not beyond the capacity. -/
def withRoom (capacity room : Nat) (charset : Charset) : ByteBuffer where
  capacity := capacity
  charset := charset
  data := .emptyWithCapacity (min room capacity)
  bounded := by simp

/-- A buffer that holds nothing yet, if the memory to be set aside is granted. -/
def allocate (capacity room : Nat) (charset : Charset) : Option ByteBuffer :=
  if min room capacity ≤ roomLimit then some (withRoom capacity room charset) else none

def empty (capacity : Nat) (charset : Charset) : ByteBuffer := withRoom capacity 0 charset

def remaining (b : ByteBuffer) : Nat := b.capacity - b.data.size

def isFull (b : ByteBuffer) : Bool := b.remaining == 0

/-- The buffer with as many of the bytes as fit, in order. -/
def write (b : ByteBuffer) (bytes : Bytes) : ByteBuffer where
  capacity := b.capacity
  charset := b.charset
  data := b.data ++ (bytes.take b.remaining).toArray
  bounded := by
    have := b.bounded
    simp only [Array.size_append, List.size_toArray, List.length_take, remaining]
    omega

/-- How many of the bytes a write keeps. -/
def accepted (b : ByteBuffer) (bytes : Bytes) : Nat := min bytes.length b.remaining

def bytes (b : ByteBuffer) : Bytes := b.data.toList

/-- The text of the bytes held, in a given character set. -/
def renderAs (b : ByteBuffer) (charset : Charset) : String := charset.decode b.bytes

/-- The text of the bytes held, in the buffer's own character set. -/
def render (b : ByteBuffer) : String := b.renderAs b.charset

def reset (b : ByteBuffer) : ByteBuffer := { b with data := #[], bounded := by simp }

def step (b : ByteBuffer) : BufferStep Bytes UInt8 → BufferReport × ByteBuffer
  | .write bytes => (.count (b.accepted bytes), b.write bytes)
  | .writeOne byte => (.fitted (b.accepted [byte] == 1), b.write [byte])
  | .stream bytes => (.count bytes.length, b.write bytes)
  | .reset => (.nothing, b.reset)

/-- Takes several steps, in order. -/
def run (b : ByteBuffer) (steps : List (BufferStep Bytes UInt8)) : ByteBuffer :=
  steps.foldl (fun b step => (b.step step).2) b

end ByteBuffer

/-- The first characters of a body. -/
structure CharBuffer where
  capacity : Nat
  text : String
  /-- How many characters the text has. -/
  count : Nat
  counted : count = text.length
  bounded : count ≤ capacity

namespace CharBuffer

def empty (capacity : Nat) : CharBuffer := ⟨capacity, "", 0, rfl, Nat.zero_le _⟩

/-- A buffer that holds nothing yet, if the memory to be set aside is granted. It is counted in bytes. -/
def allocate (capacity room : Nat) : Option CharBuffer :=
  if min room capacity ≤ roomLimit then some (empty capacity) else none

def remaining (b : CharBuffer) : Nat := b.capacity - b.count

/-- The characters that fit, and how many they are: all of them, unless there is one that no longer fits. -/
def fitting (cs : List Char) (room : Nat) : List Char × Nat :=
  match cs[room]? with
  | some _ => (cs.take room, room)
  | none => (cs, cs.length)

/-- What fits are the first characters. -/
theorem fitting_eq (cs : List Char) (room : Nat) : fitting cs room = (cs.take room, min cs.length room) := by
  rw [fitting]
  split
  · rename_i beyond
    obtain ⟨more, -⟩ := List.getElem?_eq_some_iff.mp beyond
    rw [Nat.min_eq_right (Nat.le_of_lt more)]
  · rename_i none
    have within : cs.length ≤ room := List.getElem?_eq_none_iff.mp none
    rw [List.take_of_length_le within, Nat.min_eq_left within]

/-- The buffer with as many of the characters as fit, in order. -/
def writeChars (b : CharBuffer) (cs : List Char) : CharBuffer where
  capacity := b.capacity
  text := b.text ++ String.ofList (fitting cs b.remaining).1
  count := b.count + (fitting cs b.remaining).2
  counted := by rw [fitting_eq, String.length_append, ← b.counted, String.length_ofList, List.length_take,
    Nat.min_comm]
  bounded := by
    have := b.bounded
    rw [fitting_eq, remaining]
    omega

/-- The buffer with as much of the text as fits. -/
def write (b : CharBuffer) (s : String) : CharBuffer := b.writeChars s.toList

/-- How many of the characters a write keeps. -/
def accepted (b : CharBuffer) (s : String) : Nat := (fitting s.toList b.remaining).2

/-- Whether a character fits, and the buffer with it if it does. -/
def writeChar (b : CharBuffer) (c : Char) : Bool × CharBuffer :=
  if full : b.remaining = 0 then (false, b)
  else (true, { b with
    text := b.text.push c
    count := b.count + 1
    counted := by rw [String.length_push, b.counted]
    bounded := by
      rw [remaining] at full
      omega })

def reset (b : CharBuffer) : CharBuffer :=
  { b with text := "", count := 0, counted := rfl, bounded := Nat.zero_le _ }

def step (b : CharBuffer) : BufferStep String Char → BufferReport × CharBuffer
  | .write s => (.count (b.accepted s), b.write s)
  | .writeOne c =>
    let (fitted, b) := b.writeChar c
    (.fitted fitted, b)
  | .stream s => (.nothing, b.write s)
  | .reset => (.nothing, b.reset)

/-- Takes several steps, in order. -/
def run (b : CharBuffer) (steps : List (BufferStep String Char)) : CharBuffer :=
  steps.foldl (fun b step => (b.step step).2) b

end CharBuffer

/-- The first part of a body, counted in bytes or in characters. -/
inductive BodyBuffer
  | bytes (b : ByteBuffer)
  | chars (b : CharBuffer)

namespace BodyBuffer

/-- Bytes written to a buffer of characters are decoded first, each write for itself. -/
def writeBytes (b : BodyBuffer) (bytes : Bytes) (charset : Charset) : BodyBuffer :=
  match b with
  | .bytes b => .bytes (b.write bytes)
  | .chars b => .chars (b.writeChars (charset.decodeChars bytes))

/-- Text written to a buffer of bytes is stored as UTF-8. -/
def writeText (b : BodyBuffer) (s : String) : BodyBuffer :=
  match b with
  | .bytes b => .bytes (b.write (Text.Utf8.encode s.toList))
  | .chars b => .chars (b.write s)

/-- The text held; bytes are decoded in the given character set. -/
def render (b : BodyBuffer) (charset : Charset) : String :=
  match b with
  | .bytes b => b.renderAs charset
  | .chars b => b.text

/-- How many bytes or characters are held. -/
def length : BodyBuffer → Nat
  | .bytes b => b.data.size
  | .chars b => b.count

def reset : BodyBuffer → BodyBuffer
  | .bytes b => .bytes b.reset
  | .chars b => .chars b.reset

end BodyBuffer
end Turnstile.Capture
