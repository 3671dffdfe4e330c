import Turnstile.Proofs.Capture.Buffer
import Turnstile.Proofs.Stream.Layer
import Turnstile.Stream.Writer
/-!
# One instrumented layer

Reading to the end through one layer over a body that arrives in one piece shows all of the body to the
attached context, however the reads cut it, and then has it recorded. Writing through a layer gives what
the sink gives, and shows the context what the sink has taken.
-/
namespace Turnstile.Capture

namespace Probe

/-- Whatever is attached to the probe counts bytes. -/
def Bytewise (p : Probe) (m : Monitor) : Prop :=
  ∀ i c, m.attached? p.store p.resource = some i → m.contexts[i]? = some c →
    ∃ b, c.buffer = .bytes b

end Probe

namespace Context

theorem writeBytes_nil {c : Context} {b : ByteBuffer} (counts : c.buffer = .bytes b) :
    c.writeBytes [] = c := by
  rw [writeBytes, counts]
  simp only [BodyBuffer.writeBytes, b.write_nil, ← counts, ite_self]

/-- Two writes are one of both. -/
theorem writeBytes_writeBytes {c : Context} {b : ByteBuffer} (counts : c.buffer = .bytes b)
    (first second : Bytes) :
    (c.writeBytes first).writeBytes second = c.writeBytes (first ++ second) := by
  cases done : c.captured with
  | true => simp [writeBytes, done]
  | false => simp [writeBytes, done, counts, BodyBuffer.writeBytes, b.write_write]

theorem buffer_writeBytes {c : Context} {b : ByteBuffer} (counts : c.buffer = .bytes b)
    (bytes : Bytes) : ∃ b', (c.writeBytes bytes).buffer = .bytes b' := by
  cases done : c.captured with
  | true => exact ⟨b, by simp [writeBytes, done, counts]⟩
  | false => exact ⟨b.write bytes, by simp [writeBytes, done, counts, BodyBuffer.writeBytes]⟩

end Context

namespace Probe.Bytewise

variable {p : Probe} {m : Monitor}

theorem record_nil (bytewise : p.Bytewise m) : p.record m (·.writeBytes []) = m := by
  cases here : m.attached? p.store p.resource with
  | none => simp only [record, here]
  | some i =>
    simp only [record, here]
    apply Monitor.updateContext_same
    intro c held
    obtain ⟨b, counts⟩ := bytewise i c here held
    exact Context.writeBytes_nil counts

theorem record_record (bytewise : p.Bytewise m) (first second : Bytes) :
    p.record (p.record m (·.writeBytes first)) (·.writeBytes second) =
      p.record m (·.writeBytes (first ++ second)) := by
  cases here : m.attached? p.store p.resource with
  | none => simp only [record, here]
  | some i =>
    have still : (m.updateContext i (·.writeBytes first)).attached? p.store p.resource = some i := here
    simp only [record, here, still]
    rw [Monitor.updateContext_updateContext]
    apply Monitor.updateContext_congr
    intro c held
    obtain ⟨b, counts⟩ := bytewise i c here held
    exact Context.writeBytes_writeBytes counts first second

theorem record (bytewise : p.Bytewise m) (bytes : Bytes) :
    p.Bytewise (p.record m (·.writeBytes bytes)) := by
  cases here : m.attached? p.store p.resource with
  | none =>
    rw [Probe.record, here]
    exact bytewise
  | some i =>
    rw [Probe.record, here]
    intro j c here' held
    cases Option.some.inj (here.symm.trans here')
    rw [Monitor.contexts_updateContext, if_pos rfl] at held
    obtain ⟨c₀, held₀, rfl⟩ := Option.map_eq_some_iff.mp held
    obtain ⟨b, counts⟩ := bytewise i c₀ here held₀
    exact Context.buffer_writeBytes counts bytes

end Probe.Bytewise
end Turnstile.Capture

namespace Turnstile.Stream

open Policy Capture

/-! ## Reading a body that arrives in one piece -/

namespace Script

/-- What is left of a body. -/
def rest (bytes : Bytes) : Script := if bytes.isEmpty then [] else [.chunk bytes]

theorem read_chunk (bytes : Bytes) {n : Nat} (asked : n ≠ 0) :
    Script.read n [.chunk bytes] = (.ok (bytes.take n), rest (bytes.drop n)) := by
  simp only [Script.read, if_neg asked, rest]

end Script

namespace Reader

section

variable {m : Monitor} {s s' : Script} {n : Nat}

theorem read_layer {depth : Nat} (p : Probe) (inner : Reader depth) (n : Nat) (m : Monitor) :
    (Reader.probed p inner).read n m =
      let (result, inner, m) := p.read (fun r => r.read) inner n m
      (result, .probed p inner, m) := rfl

/-- An outermost read that gives something shows it to the context. -/
theorem read_probed (idle : m.depth.depth .byteInput = 0) {bytes : Bytes}
    (script : s.read n = (.ok bytes, s')) (arrived : bytes ≠ []) (p : Probe) :
    (Reader.probed p (.script s)).read n m =
      (.ok bytes, .probed p (.script s'), p.record m (·.writeBytes bytes)) := by
  have some : bytes.isEmpty = false := by simpa using arrived
  have told : Notice.ofRead n bytes = .bytes bytes := by simp [Notice.ofRead, some]
  have came : (Reader.script s).read n (m.enter .byteInput).2 =
      (.ok bytes, .script s', (m.enter .byteInput).2) := by simp only [Reader.read, script]
  rw [read_layer, p.read_outermost idle came, told]
  rfl

/-- An outermost read at the end has the body recorded. -/
theorem read_probed_end (idle : m.depth.depth .byteInput = 0) (script : s.read n = (.ok [], s'))
    (asked : n ≠ 0) (p : Probe) :
    (Reader.probed p (.script s)).read n m =
      (((p.finalize m).1.mapError .blocked).map fun _ => [], .probed p (.script s'),
        (p.finalize m).2) := by
  have told : Notice.ofRead n [] = .ended := by simp [Notice.ofRead, asked]
  have came : (Reader.script s).read n (m.enter .byteInput).2 =
      (.ok [], .script s', (m.enter .byteInput).2) := by simp only [Reader.read, script]
  rw [read_layer, p.read_outermost idle came, told]
  rfl

end

/-- How the reading of a body ends that has been shown to the context: it is recorded. -/
def bodyEnd (p : Probe) (m : Monitor) : Except Fault Unit × Monitor :=
  (((p.finalize m).1.mapError .blocked).map fun _ => (), (p.finalize m).2)

theorem most_widened (room : Room) : room.widened.most = room.most := by
  rw [Room.widened]
  split <;> rfl

theorem request_widened {room : Room} (most : 0 < room.most) : room.widened.request ≠ 0 := by
  have free : room.widened.held + 32 ≤ room.widened.capacity := by
    rw [Room.widened]
    split
    · simp only [Room.grown]
      omega
    · omega
  rw [Room.request, most_widened]
  omega

theorem most_filled {room : Room} (most : 0 < room.most) (n : Nat) : 0 < (room.filled n).most := by
  show 0 < if room.most ≤ room.request && n = room.request then 2 * room.most else room.most
  split <;> omega

/-- A read at the end of a body ends the reading of it. -/
theorem readOn_end {p : Probe} {m : Monitor} {fuel : Nat} {room : Room} {s s' : Script}
    (idle : m.depth.depth .byteInput = 0) (most : 0 < room.most)
    (script : s.read room.widened.request = (.ok [], s')) (done : Bytes) :
    let answer := readOn (fun r => r.read) (fuel + 1) room done (.probed p (.script s) : Reader 1) m
    (answer.1, answer.2.2.2) = bodyEnd p m := by
  have last := read_probed_end idle script (request_widened most) p
  rw [bodyEnd]
  rcases ended : p.finalize m with ⟨_ | finish, m₁⟩ <;>
  · rw [ended] at last
    simp only [readOn, last]
    rfl

/-- What a read takes of the rest of a body is shown to the context, which then waits for what is left. -/
theorem read_shown {p : Probe} {m : Monitor} (idle : m.depth.depth .byteInput = 0)
    (bytewise : p.Bytewise m) (n : Nat) (b : UInt8) (bs : Bytes) :
    ∃ m', (Reader.probed p (.script [.chunk (b :: bs)])).read (n + 1) m =
        (.ok (b :: bs.take n), .probed p (.script (Script.rest (bs.drop n))), m') ∧
      m'.depth.depth .byteInput = 0 ∧ p.Bytewise m' ∧
      p.record m' (·.writeBytes (bs.drop n)) = p.record m (·.writeBytes (b :: bs)) := by
  have script := Script.read_chunk (b :: bs) (Nat.succ_ne_zero n)
  rw [List.take_succ_cons, List.drop_succ_cons] at script
  have shown := p.record_kept m fun c => c.span_writeBytes (b :: bs.take n)
  refine ⟨_, read_probed idle script (by simp) p, ?_, bytewise.record _, ?_⟩
  · rw [shown.depth]
    exact idle
  · rw [bytewise.record_record, List.cons_append, List.take_append_drop]

/-- However the reads cut what is left of a body, the context is shown all of it. -/
theorem readOn_rest (p : Probe) (fuel : Nat) (room : Room) (done bytes : Bytes) (m : Monitor)
    (enough : bytes.length < fuel) (most : 0 < room.most) (idle : m.depth.depth .byteInput = 0)
    (bytewise : p.Bytewise m) :
    let answer := readOn (fun r => r.read) fuel room done
      (.probed p (.script (Script.rest bytes)) : Reader 1) m
    (answer.1, answer.2.2.2) = bodyEnd p (p.record m (·.writeBytes bytes)) := by
  induction fuel generalizing room done bytes m with
  | zero => omega
  | succ fuel ih =>
    cases bytes with
    | nil =>
      rw [bytewise.record_nil]
      exact readOn_end (s := []) idle most rfl done
    | cons b bs =>
      obtain ⟨n, size⟩ := Nat.exists_eq_add_one_of_ne_zero (request_widened most)
      obtain ⟨m', next, still, counts, all⟩ := read_shown idle bytewise n b bs
      have shorter : (bs.drop n).length < fuel := by
        rw [List.length_drop]
        rw [List.length_cons] at enough
        omega
      have filled : 0 < (room.widened.filled ((bs.take n).length + 1)).most :=
        most_filled ((most_widened room).symm ▸ most) _
      have later := ih _ ((bs.take n).reverse ++ b :: done) (bs.drop n) m' shorter filled still counts
      rw [all] at later
      have rest : Script.rest (b :: bs) = [.chunk (b :: bs)] := rfl
      simp only [readOn, rest, size, next]
      exact later

/-- Reading a body to the end shows the context all of it, and has it recorded. -/
theorem readToEnd_chunk (p : Probe) (bytes : Bytes) {m : Monitor}
    (idle : m.depth.depth .byteInput = 0) (bytewise : p.Bytewise m) :
    let answer := (Reader.probed p (.script [.chunk bytes]) : Reader 1).readToEnd m
    (answer.1, answer.2.2.2) = bodyEnd p (p.record m (·.writeBytes bytes)) := by
  cases bytes with
  | nil =>
    have last := read_probed_end idle (Script.read_chunk [] (n := 32) (by decide)) (by decide) p
    rw [bytewise.record_nil, bodyEnd]
    rcases ended : p.finalize m with ⟨_ | finish, m₁⟩ <;>
    · rw [ended] at last
      simp only [readToEnd, readAll, last]
      rfl
  | cons b bs =>
    obtain ⟨m', next, still, counts, all⟩ := read_shown idle bytewise 31 b bs
    have enough : (bs.drop 31).length <
        (Reader.probed p (.script [.chunk (b :: bs)])).length := by
      have size : (Reader.probed p (.script [.chunk (b :: bs)])).length = bs.length + 2 := rfl
      rw [size, List.length_drop]
      omega
    have most : 0 < (Room.none.probed (b :: bs.take 31).length).most := by
      show 0 < 8192
      omega
    have later := readOn_rest p _ _ (b :: bs.take 31).reverse (bs.drop 31) m' enough most still counts
    rw [all] at later
    simp only [readToEnd, readAll, next]
    exact later

end Reader

/-! ## Writing to a sink -/

namespace Sink

/-- How a sink `s` that was written to has become `s'`: either it has taken everything, or the last
answer it gave was a fault, or to take nothing. -/
def Answered (s : Sink) (bytes : Bytes) (answer : Except Fault Unit) (s' : Sink) : Prop :=
  match answer with
  | .ok _ => s'.taken = s.taken ++ bytes.toArray
  | .error f => ∃ before last, s.intakes = before ++ last :: s'.intakes ∧
    (last = .fault f ∧ f.isTransient = false ∨ last = .upTo 0 ∧ f = .nothingTaken)

theorem Answered.after {s s₁ s' : Sink} (bytes : Bytes) {more : Bytes} {answer : Except Fault Unit}
    (intakes : s₁.intakes <:+ s.intakes) (taken : s₁.taken = s.taken ++ bytes.toArray)
    (rest : s₁.Answered more answer s') : s.Answered (bytes ++ more) answer s' := by
  cases answer with
  | ok done =>
    have all : s'.taken = s₁.taken ++ more.toArray := rest
    show s'.taken = s.taken ++ (bytes ++ more).toArray
    rw [all, taken]
    simp
  | error f =>
    obtain ⟨before, last, listed, cause⟩ := rest
    obtain ⟨earlier, split⟩ := intakes
    exact ⟨earlier ++ before, last, by rw [← split, listed, List.append_assoc], cause⟩

/-- All that can come of an offer: the sink takes some of the bytes, or none, or fails. Only when its script is
exhausted does it give no answer away, and then it takes everything. -/
theorem write_cases (s : Sink) (b : UInt8) (bs : Bytes) :
    (∃ n s', s.write (b :: bs) = (.ok (n + 1), s') ∧
      s'.taken = s.taken ++ ((b :: bs).take (n + 1)).toArray ∧ s'.intakes <:+ s.intakes ∧
      ((b :: bs).drop (n + 1) ≠ [] → s'.intakes.length < s.intakes.length)) ∨
    (∃ s', s.write (b :: bs) = (.ok 0, s') ∧ s.intakes = .upTo 0 :: s'.intakes) ∨
    ∃ f s', s.write (b :: bs) = (.error f, s') ∧ s'.taken = s.taken ∧
      s.intakes = .fault f :: s'.intakes := by
  rw [write]
  rcases intakes : s.intakes with _ | ⟨n | f, later⟩
  · exact .inl ⟨bs.length, _, rfl, rfl, by simp [take, intakes], fun more => absurd (by simp) more⟩
  · cases n with
    | zero =>
      exact .inr (.inl ⟨{ s with intakes := later }.take 0 (b :: bs), by simp only [Nat.zero_min], rfl⟩)
    | succ n =>
      refine .inl ⟨min n bs.length, { s with intakes := later }.take (n + 1) (b :: bs), ?_, ?_,
        List.suffix_cons _ later, fun _ => Nat.lt_succ_self later.length⟩
      · simp only [List.length_cons, Nat.succ_min_succ]
      · have same : (b :: bs).take (min n bs.length + 1) = (b :: bs).take (n + 1) := by
          rw [List.take_eq_take_iff, List.length_cons]
          omega
        rw [same]
        rfl
  · exact .inr (.inr ⟨f, _, rfl, rfl, rfl⟩)

end Sink

namespace Writer

theorem write_layer {depth : Nat} (p : Probe) (inner : Writer depth) (bytes : Bytes) (m : Monitor) :
    (Writer.probed p inner).write bytes m =
      let (result, inner, m) := p.write (fun w => w.write) inner bytes m
      (result, .probed p inner, m) := rfl

/-- A layer answers what the sink answers. -/
theorem write_probed (p : Probe) (s : Sink) (bytes : Bytes) (m : Monitor) :
    ∃ m', (Writer.probed p (.sink s)).write bytes m =
      ((s.write bytes).1, .probed p (.sink (s.write bytes).2), m') := by
  have below : ∀ m : Monitor, (Writer.sink s).write bytes m =
      ((s.write bytes).1, .sink (s.write bytes).2, m) := fun _ => rfl
  obtain ⟨m', passed⟩ := p.write_answered (fun w : Writer 0 => w.write) below m
  rw [write_layer, passed]
  exact ⟨m', rfl⟩

theorem writeOn_answered (p : Probe) (fuel : Nat) (bytes : Bytes) (s : Sink) (m : Monitor)
    (enough : bytes ≠ [] → s.intakes.length < fuel) :
    let a := writeOn (fun w => w.write) fuel bytes (.probed p (.sink s) : Writer 1) m
    s.Answered bytes a.1 a.2.1.bottom := by
  have nothing : s.taken = s.taken ++ ([] : Bytes).toArray := by simp
  induction fuel generalizing bytes s m with
  | zero =>
    cases bytes with
    | nil => exact nothing
    | cons b bs => exact absurd (enough (List.cons_ne_nil b bs)) (Nat.not_lt_zero _)
  | succ fuel ih =>
    cases bytes with
    | nil => exact nothing
    | cons b bs =>
      have room : s.intakes.length < fuel + 1 := enough (List.cons_ne_nil b bs)
      obtain ⟨m₁, wrote⟩ := write_probed p s (b :: bs) m
      obtain ⟨n, s₁, answer, taken, suffix, fewer⟩ | ⟨s₁, answer, intakes⟩ | ⟨f, s₁, answer, taken, intakes⟩ :=
        s.write_cases b bs
      · rw [answer] at wrote
        simp only [writeOn, wrote]
        have rest := ih ((b :: bs).drop (n + 1)) s₁ m₁
          (fun more => Nat.lt_of_lt_of_le (fewer more) (Nat.le_of_lt_succ room)) (by simp)
        have whole := rest.after ((b :: bs).take (n + 1)) suffix taken
        rwa [List.take_append_drop] at whole
      · rw [answer] at wrote
        simp only [writeOn, wrote]
        exact ⟨[], .upTo 0, intakes, .inr ⟨rfl, rfl⟩⟩
      · rw [answer] at wrote
        simp only [writeOn, wrote]
        cases transient : f.isTransient with
        | true =>
          rw [intakes, List.length_cons] at room
          have rest := ih (b :: bs) s₁ m₁ (fun _ => Nat.lt_of_succ_lt_succ room) (by simp)
          have suffix : s₁.intakes <:+ s.intakes := intakes ▸ List.suffix_cons _ _
          exact rest.after [] suffix (by simp [taken])
        | false => exact ⟨[], .fault f, intakes, .inl ⟨rfl, transient⟩⟩

/-- Writing all of something through a layer ends as the sink has it. -/
theorem writeAll_answered (p : Probe) (s : Sink) (bytes : Bytes) (m : Monitor) :
    let a := (Writer.probed p (.sink s) : Writer 1).writeAll bytes m
    s.Answered bytes a.1 a.2.1.bottom := by
  have enough : s.intakes.length < s.intakes.length + bytes.length + 1 := by omega
  exact writeOn_answered p _ bytes s m fun _ => enough

section

variable {p : Probe} {s s' : Sink} {m : Monitor} {bytes : Bytes}

/-- An outermost write shows the context what the sink has taken. -/
theorem write_taken (idle : m.depth.depth .byteOutput = 0) {n : Nat}
    (took : s.write bytes = (.ok n, s')) :
    (Writer.probed p (.sink s)).write bytes m =
      (.ok n, .probed p (.sink s'), p.record m (·.writeBytes (bytes.take n))) := by
  have came : (Writer.sink s).write bytes (m.enter .byteOutput).2 =
      (.ok n, .sink s', (m.enter .byteOutput).2) := by simp only [Writer.write, took]
  have told : p.write (fun w : Writer 0 => w.write) (.sink s) bytes m = _ := p.write_eq came
  rw [Notice.heard, if_pos idle] at told
  rw [write_layer, told]
  rfl

/-- A write that fails shows nothing. -/
theorem write_failed {f : Fault} (refused : s.write bytes = (.error f, s')) :
    (Writer.probed p (.sink s)).write bytes m = (.error f, .probed p (.sink s'), m) := by
  have came : (Writer.sink s).write bytes (m.enter .byteOutput).2 =
      (.error f, .sink s', (m.enter .byteOutput).2) := by simp only [Writer.write, refused]
  have told : p.write (fun w : Writer 0 => w.write) (.sink s) bytes m = _ := p.write_eq came
  rw [write_layer, told]
  rfl

end

/-- However the sink cuts what it takes in the end, the context is shown all of it. -/
theorem writeOn_shown (p : Probe) (fuel : Nat) (bytes : Bytes) (s : Sink) (m : Monitor)
    (enough : bytes ≠ [] → s.intakes.length < fuel) (idle : m.depth.depth .byteOutput = 0)
    (bytewise : p.Bytewise m) {w : Writer 1} {m' : Monitor}
    (wrote : writeOn (fun w => w.write) fuel bytes (.probed p (.sink s) : Writer 1) m = (.ok (), w, m')) :
    m' = p.record m (·.writeBytes bytes) := by
  induction fuel generalizing bytes s m with
  | zero =>
    cases bytes with
    | nil =>
      rw [bytewise.record_nil]
      exact (congrArg (·.2.2) wrote).symm
    | cons b bs => exact absurd (enough (List.cons_ne_nil b bs)) (Nat.not_lt_zero _)
  | succ fuel ih =>
    cases bytes with
    | nil =>
      rw [bytewise.record_nil]
      exact (congrArg (·.2.2) wrote).symm
    | cons b bs =>
      have room : s.intakes.length < fuel + 1 := enough (List.cons_ne_nil b bs)
      obtain ⟨n, s₁, took, -, -, fewer⟩ | ⟨s₁, took, -⟩ | ⟨f, s₁, refused, -, intakes⟩ := s.write_cases b bs
      · -- A sink that has taken some of the bytes is offered the rest.
        have shown := p.record_kept m fun c => c.span_writeBytes ((b :: bs).take (n + 1))
        have still : (p.record m (·.writeBytes ((b :: bs).take (n + 1)))).depth.depth .byteOutput = 0 := by
          rw [shown.depth]
          exact idle
        simp only [writeOn, write_taken (p := p) idle took] at wrote
        have later := ih _ s₁ _ (fun more => Nat.lt_of_lt_of_le (fewer more) (Nat.le_of_lt_succ room)) still
          (bytewise.record _) wrote
        rwa [bytewise.record_record, List.take_append_drop] at later
      · simp only [writeOn, write_taken (p := p) idle took] at wrote
        cases congrArg Prod.fst wrote
      · rw [intakes, List.length_cons] at room
        simp only [writeOn, write_failed (p := p) refused] at wrote
        cases transient : f.isTransient with
        | true =>
          rw [if_pos transient] at wrote
          exact ih _ _ _ (fun _ => Nat.lt_of_succ_lt_succ room) idle bytewise wrote
        | false =>
          rw [if_neg (by simp [transient])] at wrote
          cases congrArg Prod.fst wrote

/-- Once all of something has been written through a layer, its context has been shown all of it. -/
theorem writeAll_shown {p : Probe} {s : Sink} {bytes : Bytes} {m m' : Monitor} {w : Writer 1}
    (idle : m.depth.depth .byteOutput = 0) (bytewise : p.Bytewise m)
    (wrote : (Writer.probed p (.sink s) : Writer 1).writeAll bytes m = (.ok (), w, m')) :
    m' = p.record m (·.writeBytes bytes) := by
  have enough : s.intakes.length < s.intakes.length + bytes.length + 1 := by omega
  exact writeOn_shown p _ bytes s m (fun _ => enough) idle bytewise wrote

end Writer
end Turnstile.Stream
