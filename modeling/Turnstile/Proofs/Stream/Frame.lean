import Turnstile.Proofs.Stream.Layer
import Turnstile.Stream.Writer
/-!
# The frame of reading and writing

Whatever is read from or written to a stream, through any layers and at any depth of calls, the monitor is
`Kept`: only the contexts attached to the stream's own probes change. The loops that read or write on keep
whatever one read or write keeps.
-/
namespace Turnstile.Stream

open Policy Capture

/-! ## Loops -/

section Loops

variable {σ : Type} {Inv : σ → Monitor → Prop}

theorem readSingly_preserves {read : σ → Nat → Monitor → Answer Bytes σ}
    (step : ∀ s n m, Inv s m → Inv (read s n m).2.1 (read s n m).2.2) (n : Nat) (done : Bytes) (s : σ)
    (m : Monitor) (holds : Inv s m) :
    Inv (readSingly read n done s m).2.1 (readSingly read n done s m).2.2 := by
  induction n generalizing done s m with
  | zero => exact holds
  | succ n ih =>
    have next := step s 1 m holds
    rw [readSingly]
    split
    · rename_i eq
      rw [eq] at next
      exact next
    · rename_i eq
      rw [eq] at next
      exact next
    · rename_i eq
      rw [eq] at next
      exact ih _ _ _ next

theorem readOn_preserves {read : σ → Nat → Monitor → Answer Bytes σ}
    (step : ∀ s n m, Inv s m → Inv (read s n m).2.1 (read s n m).2.2) (fuel : Nat) (room : Room)
    (done : Bytes) (s : σ) (m : Monitor) (holds : Inv s m) :
    Inv (readOn read fuel room done s m).2.2.1 (readOn read fuel room done s m).2.2.2 := by
  induction fuel generalizing room done s m with
  | zero => exact holds
  | succ fuel ih =>
    have next := step s room.widened.request m holds
    rw [readOn]
    split
    · rename_i eq
      rw [eq] at next
      split
      · exact ih _ _ _ _ next
      · exact next
    · rename_i eq
      rw [eq] at next
      exact next
    · rename_i eq
      rw [eq] at next
      exact ih _ _ _ _ next

theorem readAll_preserves {read : σ → Nat → Monitor → Answer Bytes σ}
    (step : ∀ s n m, Inv s m → Inv (read s n m).2.1 (read s n m).2.2) (fuel : Nat) (s : σ)
    (m : Monitor) (holds : Inv s m) :
    Inv (readAll read fuel s m).2.2.1 (readAll read fuel s m).2.2.2 := by
  induction fuel generalizing s m with
  | zero => exact holds
  | succ fuel ih =>
    have next := step s 32 m holds
    rw [readAll]
    split
    · rename_i eq
      rw [eq] at next
      split
      · exact ih _ _ next
      · exact next
    · rename_i eq
      rw [eq] at next
      exact next
    · rename_i eq
      rw [eq] at next
      exact readOn_preserves step _ _ _ _ _ next

theorem writeOn_preserves {write : σ → Bytes → Monitor → Answer Nat σ}
    (step : ∀ s bytes m, Inv s m → Inv (write s bytes m).2.1 (write s bytes m).2.2) (fuel : Nat)
    (bytes : Bytes) (s : σ) (m : Monitor) (holds : Inv s m) :
    Inv (writeOn write fuel bytes s m).2.1 (writeOn write fuel bytes s m).2.2 := by
  induction fuel generalizing bytes s m with
  | zero =>
    cases bytes with
    | nil => exact holds
    | cons b bs => exact holds
  | succ fuel ih =>
    cases bytes with
    | nil => exact holds
    | cons b bs =>
      have next := step s (b :: bs) m holds
      rw [writeOn]
      split
      · rename_i eq
        rw [eq] at next
        split
        · exact ih _ _ _ next
        · exact next
      · rename_i eq
        rw [eq] at next
        exact next
      · rename_i eq
        rw [eq] at next
        exact ih _ _ _ next

theorem writeSingly_preserves {writeByte : σ → UInt8 → Monitor → Answer Unit σ}
    (step : ∀ s b m, Inv s m → Inv (writeByte s b m).2.1 (writeByte s b m).2.2) (bytes : Bytes) (s : σ)
    (m : Monitor) (holds : Inv s m) :
    Inv (writeSingly writeByte bytes s m).2.1 (writeSingly writeByte bytes s m).2.2 := by
  induction bytes generalizing s m with
  | nil => exact holds
  | cons b bs ih =>
    have next := step s b m holds
    rw [writeSingly]
    split
    · rename_i eq
      rw [eq] at next
      exact next
    · rename_i eq
      rw [eq] at next
      exact ih _ _ next

end Loops

/-! ## Readers -/

namespace Reader

/-- A reader with these probes, beside a monitor that calls on it may have led to. -/
def Reached (probes : List Probe) (m : Monitor) {depth : Nat} (r : Reader depth) (m' : Monitor) : Prop :=
  r.probes = probes ∧ Monitor.Kept probes m m'

theorem Reached.trans {probes : List Probe} {m m' m'' : Monitor} {depth : Nat} {r r' : Reader depth}
    (first : Reached probes m r m') (second : Reached r.probes m' r' m'') : Reached probes m r' m'' := by
  obtain ⟨rfl, kept⟩ := first
  exact ⟨second.1, kept.trans second.2⟩

/-- A read changes nothing but the contexts attached to the reader's own probes. -/
theorem read_reached {depth : Nat} (r : Reader depth) (n : Nat) (m : Monitor) :
    Reached r.probes m (r.read n m).2.1 (r.read n m).2.2 := by
  -- The depth carries the induction: a layer that goes byte by byte meets other readers of its depth.
  induction depth generalizing n m with
  | zero =>
    cases r with
    | script s => exact ⟨rfl, .refl _ m⟩
  | succ depth ih =>
    cases r with
    | single inner =>
      have step : ∀ (r : Reader depth) n m', Reached inner.probes m r m' →
          Reached inner.probes m (r.read n m').2.1 (r.read n m').2.2 :=
        fun r n m' reached => reached.trans (ih r n m')
      exact readSingly_preserves step n [] inner m ⟨rfl, .refl _ m⟩
    | probed p inner =>
      obtain ⟨same, kept⟩ := ih inner n (m.enter .byteInput).2
      have left : (p.read (fun r => r.read) inner n m).2.1 = (inner.read n (m.enter .byteInput).2).2.1 :=
        p.around_stream _ _ _ _ m
      have within : Monitor.Kept (p :: inner.probes) m (p.read (fun r => r.read) inner n m).2.2 :=
        p.around_kept _ _ _ kept
      refine ⟨?_, within⟩
      show p :: (p.read (fun r => r.read) inner n m).2.1.probes = p :: inner.probes
      rw [left, same]

/-- So does reading to the end. -/
theorem readToEnd_kept {depth : Nat} (r : Reader depth) (m : Monitor) :
    Monitor.Kept r.probes m (r.readToEnd m).2.2.2 := by
  have step : ∀ (s : Reader depth) n m', Reached r.probes m s m' →
      Reached r.probes m (s.read n m').2.1 (s.read n m').2.2 :=
    fun s n m' reached => reached.trans (read_reached s n m')
  exact (readAll_preserves step (r.length + 1) r m ⟨rfl, .refl _ m⟩).2

end Reader

/-! ## Writers -/

namespace Writer

/-- A writer with these probes, beside a monitor that calls on it may have led to. -/
def Reached (probes : List Probe) (m : Monitor) {depth : Nat} (w : Writer depth) (m' : Monitor) : Prop :=
  w.probes = probes ∧ Monitor.Kept probes m m'

theorem Reached.trans {probes : List Probe} {m m' m'' : Monitor} {depth : Nat} {w w' : Writer depth}
    (first : Reached probes m w m') (second : Reached w.probes m' w' m'') : Reached probes m w' m'' := by
  obtain ⟨rfl, kept⟩ := first
  exact ⟨second.1, kept.trans second.2⟩

/-- A write changes nothing but the contexts attached to the writer's own probes. -/
theorem write_reached {depth : Nat} (w : Writer depth) (bytes : Bytes) (m : Monitor) :
    Reached w.probes m (w.write bytes m).2.1 (w.write bytes m).2.2 := by
  induction depth generalizing bytes m with
  | zero =>
    cases w with
    | sink s => exact ⟨rfl, .refl _ m⟩
  | succ depth ih =>
    cases w with
    | single inner =>
      have step : ∀ (w : Writer depth) bytes m', Reached inner.probes m w m' →
          Reached inner.probes m (w.write bytes m').2.1 (w.write bytes m').2.2 :=
        fun w bytes m' reached => reached.trans (ih w bytes m')
      exact writeSingly_preserves (fun w b m' held => writeOn_preserves step (length w + 1) [b] w m' held)
        bytes inner m ⟨rfl, .refl _ m⟩
    | probed p inner =>
      obtain ⟨same, kept⟩ := ih inner bytes (m.enter .byteOutput).2
      have left : (p.write (fun w => w.write) inner bytes m).2.1 =
          (inner.write bytes (m.enter .byteOutput).2).2.1 := p.around_stream _ _ _ _ m
      have within : Monitor.Kept (p :: inner.probes) m (p.write (fun w => w.write) inner bytes m).2.2 :=
        p.around_kept _ _ _ kept
      refine ⟨?_, within⟩
      show p :: (p.write (fun w => w.write) inner bytes m).2.1.probes = p :: inner.probes
      rw [left, same]

/-- So does writing all of something. -/
theorem writeAll_kept {depth : Nat} (w : Writer depth) (bytes : Bytes) (m : Monitor) :
    Monitor.Kept w.probes m (w.writeAll bytes m).2.2 := by
  have step : ∀ (v : Writer depth) bytes m', Reached w.probes m v m' →
      Reached w.probes m (v.write bytes m').2.1 (v.write bytes m').2.2 :=
    fun v bytes m' reached => reached.trans (write_reached v bytes m')
  exact (writeOn_preserves step (w.length + bytes.length + 1) bytes w m ⟨rfl, .refl _ m⟩).2

end Writer
end Turnstile.Stream
