import Turnstile.Capture.Buffer
/-!
# What a bounded buffer holds

A buffer holds the first part of all that was written to it, however the writes were cut.
-/
namespace Turnstile.Capture

/-- What is cut off once may as well be cut off at the end. -/
theorem take_take_append {α : Type} (n : Nat) (xs ys : List α) :
    (xs.take n ++ ys).take n = (xs ++ ys).take n := by
  rw [List.take_append, List.take_append, List.take_take, Nat.min_self, List.length_take]
  by_cases fits : xs.length ≤ n
  · rw [Nat.min_eq_right fits]
  · have full : n - min n xs.length = 0 := by omega
    have none : n - xs.length = 0 := by omega
    rw [full, none]

namespace ByteBuffer

/-- Memory that is set aside is not seen in what a buffer holds. -/
theorem allocate_eq (capacity room : Nat) (charset : Charset) : allocate capacity room charset =
    if min room capacity ≤ roomLimit then some (empty capacity charset) else none := rfl

theorem bytes_length (b : ByteBuffer) : b.bytes.length ≤ b.capacity := by
  rw [bytes, Array.length_toList]
  exact b.bounded

theorem bytes_take (b : ByteBuffer) : b.bytes.take b.capacity = b.bytes :=
  List.take_of_length_le b.bytes_length

theorem bytes_write (b : ByteBuffer) (bytes : Bytes) :
    (b.write bytes).bytes = (b.bytes ++ bytes).take b.capacity := by
  have size : b.bytes.length = b.data.size := Array.length_toList
  rw [List.take_append, b.bytes_take, size]
  simp [write, ByteBuffer.bytes, remaining]

theorem write_nil (b : ByteBuffer) : b.write [] = b := by
  cases b
  simp [write]

/-- Two writes are one of both. -/
theorem write_write (b : ByteBuffer) (first second : Bytes) :
    (b.write first).write second = b.write (first ++ second) := by
  have same : ((b.write first).write second).bytes = (b.write (first ++ second)).bytes := by
    have room : (b.write first).capacity = b.capacity := rfl
    rw [bytes_write, bytes_write, bytes_write, room, take_take_append, List.append_assoc]
  have data : ((b.write first).write second).data = (b.write (first ++ second)).data :=
    Array.toList_inj.mp same
  simp only [write, mk.injEq, true_and] at data ⊢
  exact data

end ByteBuffer

namespace CharBuffer

theorem toList_take (b : CharBuffer) : b.text.toList.take b.capacity = b.text.toList := by
  apply List.take_of_length_le
  rw [String.length_toList, ← b.counted]
  exact b.bounded

theorem toList_writeChars (b : CharBuffer) (cs : List Char) :
    (b.writeChars cs).text.toList = (b.text.toList ++ cs).take b.capacity := by
  rw [List.take_append, b.toList_take, String.length_toList, ← b.counted]
  simp [writeChars, fitting_eq, remaining]

end CharBuffer
end Turnstile.Capture
