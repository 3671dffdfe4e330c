import Turnstile.Proofs.Stream.Traffic
import Turnstile.Proofs.Text.Utf8
import Turnstile.Stream.LineReader
/-!
# Lines that are read are recorded

A layer over any stream of lines records the text of the lines it hands out, up to the end of the stream. Text that
a call leaves in its line although it fails is not among it (`lines_recorded`).
-/
namespace Turnstile.Stream

open Capture

/-- Any stream of lines below a layer. -/
structure LineSource (σ : Type) where
  /-- The result, what the line has become, and the stream. -/
  readLine : σ → String → Except Fault Nat × String × σ
  /-- Text is only ever appended, also by a call that fails. -/
  appends : ∀ s line, line.toList <+: (readLine s line).2.1.toList
  /-- At the end of the stream the line stays as it is. -/
  ends : ∀ s line, (readLine s line).1 = .ok 0 → (readLine s line).2.1 = line

namespace Buffered

theorem readLine_appends (b : Buffered) (line : String) : line.toList <+: (b.readLine line).2.1.toList := by
  rw [readLine]
  rcases b.takeLine b.length [] with ⟨f | _, bytes, b'⟩ <;>
    cases text : Text.Utf8.decode? bytes <;> simp [text]

theorem readLine_ends (b : Buffered) (line : String) (ended : (b.readLine line).1 = .ok 0) :
    (b.readLine line).2.1 = line := by
  rw [readLine] at ended ⊢
  rcases taken : b.takeLine b.length [] with ⟨f | _, bytes, b'⟩
  · simp only [taken] at ended
    cases text : Text.Utf8.decode? bytes <;> simp [text] at ended
  · simp only [taken] at ended ⊢
    cases text : Text.Utf8.decode? bytes with
    | none => rfl
    | some cs =>
      simp only [text, Except.ok.injEq, List.length_eq_zero_iff] at ended
      subst ended
      cases text.symm.trans (Text.Utf8.decode?_encode [])
      exact String.append_empty

/-- A buffered stream as a stream of lines below. -/
def lines : LineSource Buffered where
  readLine := readLine
  appends := readLine_appends
  ends := readLine_ends

end Buffered

/-- A call for a line: the text before it, its result, and the text after it. -/
structure LineCall where
  before : String
  result : Except Fault Nat
  after : String
deriving DecidableEq

namespace LineCall

/-- What the call appended to the text. -/
def appended (call : LineCall) : List Char := call.after.toList.drop call.before.length

/-- What it appended, if it did not fail. -/
def returned (call : LineCall) : List Char :=
  match call.result with
  | .ok _ => call.appended
  | .error _ => []

theorem flatMap_returned {journal : List LineCall}
    (whole : ∀ call ∈ journal, ∀ f, call.result = .error f → call.appended = []) :
    journal.flatMap returned = journal.flatMap appended := by
  rw [List.flatMap_def, List.flatMap_def]
  refine congrArg List.flatten (List.map_congr_left fun call mem => ?_)
  rw [returned]
  split
  · rfl
  · rename_i f failed
    exact (whole call mem f failed).symm

end LineCall

namespace LineSource

variable {σ : Type} (src : LineSource σ)

/-- Lines that are read through a layer, with a journal of the calls. What streams by is what the calls append that
do not fail. -/
def traffic : Traffic (σ × List LineCall) String Char where
  call := fun p ((s, journal), m) line =>
    let (result, (after, s), m) := p.readLine src.readLine s line m
    ((s, journal ++ [⟨line, result, after⟩]), m)
  Ends := fun (s, _) line => (src.readLine s line).1 = .ok 0
  body := fun (_, journal) => journal.flatMap LineCall.returned

instance (src : LineSource σ) (t : σ × List LineCall) (line : String) : Decidable (src.traffic.Ends t line) :=
  inferInstanceAs (Decidable ((src.readLine t.1 line).1 = .ok 0))

variable {src} {p : Probe} {m : Monitor} {i : Nat}

/-- What comes of a line is what comes of it below, unless that is the end of a body which is blocked. -/
theorem traffic_call (src : LineSource σ) (p : Probe) (s : σ) (journal : List LineCall) (m : Monitor)
    (line : String) :
    let came := src.readLine s line
    let told := p.notify m (.heard (m.depth.depth .charInput = 0) (.ofLine line · came.2.1) came.1)
    src.traffic.call p ((s, journal), m) line =
      ((came.2.2, journal ++ [⟨line, (told.1.mapError .blocked).bind fun _ => came.1, came.2.1⟩]), told.2) := by
  intro came told
  have whole : p.readLine src.readLine s line m = _ := p.readLine_eq rfl
  simp only [traffic, whole]
  rfl

theorem tells (src : LineSource σ) (p : Probe) (charset : Charset) :
    src.traffic.Tells p .charInput (ContextStep.asChars charset) where
  goesOn := by
    rintro i ⟨⟨s, journal⟩, m⟩ line listens goesOn
    have called := src.traffic_call p s journal m line
    simp only [listens.idle] at called
    rcases came : src.readLine s line with ⟨f | n, after, s'⟩
    · simp only [came] at called
      rw [called]
      refine ⟨[], by simp, ?_, rfl⟩
      simp [traffic, LineCall.returned, Notice.heard, Probe.notify, Except.mapError, Except.bind]
    · have some : n ≠ 0 := by
        rintro rfl
        exact goesOn (congrArg Prod.fst came)
      simp only [came] at called
      rw [called]
      refine ⟨[.writeText (String.ofList (after.toList.drop line.length))], by simp [ContextStep.isCapture], ?_, ?_⟩
      · simp [traffic, LineCall.returned, LineCall.appended, Notice.heard, Notice.ofLine, some, Probe.notify,
          Except.mapError, Except.bind, ContextStep.asChars]
      · simp only [Notice.heard, if_true, Notice.ofLine, some, if_false]
        exact p.notify_attached listens.here _
  ends := by
    rintro i ⟨⟨s, journal⟩, m⟩ line listens ended
    have called := src.traffic_call p s journal m line
    rcases came : src.readLine s line with ⟨result, after, s'⟩
    cases (congrArg Prod.fst came).symm.trans ended
    simp only [listens.idle, came] at called
    rw [called]
    exact p.notify_attached listens.here .ended

/-- Every call in the journal has appended to its text. -/
theorem run_appends (src : LineSource σ) (p : Probe) (t : (σ × List LineCall) × Monitor) (lines : List String)
    (kept : ∀ call ∈ t.1.2, call.before.toList ++ call.appended = call.after.toList) :
    ∀ call ∈ (src.traffic.run p t lines).1.2, call.before.toList ++ call.appended = call.after.toList := by
  refine List.foldlRecOn lines (src.traffic.call p)
    (motive := fun t => ∀ call ∈ t.1.2, call.before.toList ++ call.appended = call.after.toList) kept ?_
  rintro ⟨⟨s, journal⟩, m⟩ kept line - call mem
  rw [src.traffic_call] at mem
  rcases List.mem_append.mp mem with earlier | new
  · exact kept call earlier
  · obtain ⟨rest, appended⟩ := src.appends s line
    rw [List.mem_singleton.mp new, LineCall.appended]
    simp only [← appended, ← String.length_toList, List.drop_left]

/-- The call that comes to the end of the stream appends nothing. -/
theorem body_end (src : LineSource σ) (p : Probe) (t : (σ × List LineCall) × Monitor) {line : String}
    (ended : (src.readLine t.1.1 line).1 = .ok 0) :
    src.traffic.body (src.traffic.call p t line).1 = src.traffic.body t.1 := by
  obtain ⟨⟨s, journal⟩, m⟩ := t
  -- The call may be refused here, but with either result the text is as it was.
  have nothing : ∀ result : Except Fault Nat, LineCall.returned ⟨line, result, line⟩ = [] := by
    rintro (f | n) <;> simp [LineCall.returned, LineCall.appended, ← String.length_toList]
  rw [src.traffic_call, src.ends s line ended]
  simp only [traffic, List.flatMap_append, List.flatMap_singleton, nothing, List.append_nil]

/-- Lines that are read through a layer over any stream of lines: nothing is recorded before the first call that
comes to the end of the stream. At that call the first characters of all the text is recorded that was appended by
calls which did not fail, and nothing after it. Where no call that failed has appended anything, this is all the
text that was appended. -/
theorem lines_recorded (src : LineSource σ) {p : Probe} {m : Monitor} {i capacity : Nat} {c : Context}
    (awaits : p.Awaits m i .charInput c) (room : c.buffer = .chars (.empty capacity)) (s : σ) :
    let start : (σ × List LineCall) × Monitor := ((s, []), m)
    (∀ lines, src.traffic.Unended p start lines →
      (src.traffic.run p start lines).2.spans = m.spans ∧ (src.traffic.run p start lines).2.judged = m.judged) ∧
    ∀ earlier last later, src.traffic.Unended p start earlier →
      (src.readLine (src.traffic.run p start earlier).1.1 last).1 = .ok 0 →
      let journal := (src.traffic.run p start (earlier ++ [last])).1.2
      let after := (src.traffic.run p start (earlier ++ last :: later)).2
      (∀ call ∈ journal, call.before.toList ++ call.appended = call.after.toList) ∧
      m.TextRecorded c (String.ofList ((journal.flatMap LineCall.returned).take capacity)) after ∧
      ((∀ call ∈ journal, ∀ f, call.result = .error f → call.appended = []) →
        m.TextRecorded c (String.ofList ((journal.flatMap LineCall.appended).take capacity)) after) := by
  intro start
  have reads : ∀ steps, c.buffer.textAfter c.charset steps =
      String.ofList ((steps.flatMap (ContextStep.asChars c.charset)).take capacity) := by
    intro steps
    rw [room]
    rfl
  have records : src.traffic.Records p start c fun cs => String.ofList (cs.take capacity) :=
    Traffic.recorded (src.tells p c.charset) awaits reads
  refine ⟨records.unended, ?_⟩
  intro earlier last later unended ended journal after
  obtain ⟨streamed, body, recorded⟩ := records.ended earlier last later unended ended
  have kept := src.run_appends p start (earlier ++ [last]) (List.forall_mem_nil _)
  have returned : journal.flatMap LineCall.returned = streamed := by
    have atEnd := src.body_end p (src.traffic.run p start earlier) ended
    rw [body] at atEnd
    have step := src.traffic.run_append p start earlier [last]
    exact (congrArg (fun t => src.traffic.body t.1) step).trans atEnd
  subst returned
  refine ⟨kept, recorded, fun whole => ?_⟩
  rw [← LineCall.flatMap_returned whole]
  exact recorded

/-- Of a line that is torn by a fault, the part that is read again is recorded, as far as there is room. -/
theorem lines_recorded_past_a_fault :
    let c : Context := ⟨0, "body", .chars (.empty 3), .utf8, .response, false⟩
    let m := (Monitor.start .default .empty ⟨none, 0⟩).newSpan.2
    let p : Probe := ⟨m.newResource.1, ⟨.charInput, .response⟩⟩
    let start : (Buffered × List LineCall) × Monitor :=
      ((⟨[], [.chunk [97], .fault (.failed .timedOut), .chunk [98, 10, 0xC2, 0xB5, 10]]⟩, []),
        (m.attachNew p.store p.resource c).2)
    p.Awaits start.2 0 .charInput c ∧
    Buffered.lines.traffic.Unended p start ["", "x", ""] ∧
    (Buffered.lines.traffic.run p start ["", "x", "", "z", "z"]).2.span 0 = ⟨#[("body", "b\nµ")]⟩ := by
  intro c m p start
  have awaits : p.Awaits start.2 0 .charInput c := ⟨⟨rfl, rfl⟩, rfl, by decide, rfl⟩
  have unended : Buffered.lines.traffic.Unended p start ["", "x", ""] := by decide +kernel
  have ended : (Buffered.lines.readLine (Buffered.lines.traffic.run p start ["", "x", ""]).1.1 "z").1 = .ok 0 := by decide +kernel
  obtain ⟨-, recorded⟩ := lines_recorded Buffered.lines awaits rfl start.1.1
  obtain ⟨-, once, -⟩ := recorded ["", "x", ""] "z" ["z"] unended ended
  exact ⟨awaits, unended, (once.span 0).trans (by decide +kernel)⟩

/-- What a call that fails has appended is missing in the record. -/
theorem failed_line_missing : ¬ ∀ (σ : Type) (src : LineSource σ) (p : Probe) (m : Monitor) (i capacity : Nat)
    (c : Context) (s : σ) (earlier : List String) (last : String),
    p.Awaits m i .charInput c → c.buffer = .chars (.empty capacity) →
    src.traffic.Unended p ((s, []), m) earlier →
    (src.readLine (src.traffic.run p ((s, []), m) earlier).1.1 last).1 = .ok 0 →
    let ((_, journal), after) := src.traffic.run p ((s, []), m) (earlier ++ [last])
    m.TextRecorded c (String.ofList ((journal.flatMap LineCall.appended).take capacity)) after := by
  intro all
  let c : Context := ⟨0, "body", .chars (.empty 8), .utf8, .response, false⟩
  let m := (Monitor.start .default .empty ⟨none, 0⟩).newSpan.2
  let p : Probe := ⟨m.newResource.1, ⟨.charInput, .response⟩⟩
  let attached := (m.attachNew p.store p.resource c).2
  let source : Buffered := ⟨[], [.chunk [97, 98], .fault (.failed .timedOut), .chunk [99, 100, 10]]⟩
  have unended : Buffered.lines.traffic.Unended p ((source, []), attached) ["", "ab"] := by decide +kernel
  have recorded := all Buffered Buffered.lines p attached 0 8 c source ["", "ab"] "abcd\n"
    ⟨⟨rfl, rfl⟩, rfl, by decide, rfl⟩ rfl unended (by decide +kernel)
  have torn : (Buffered.lines.traffic.run p ((source, []), attached) ["", "ab", "abcd\n"]).2.span 0 =
      ⟨#[("body", "cd\n")]⟩ := by decide +kernel
  have whole : (Buffered.lines.traffic.run p ((source, []), attached) ["", "ab", "abcd\n"]).2.span 0 =
      ⟨#[("body", "abcd\n")]⟩ := (recorded.span 0).trans (by decide +kernel)
  exact absurd (torn.symm.trans whole) (by simp)

end LineSource
end Turnstile.Stream
