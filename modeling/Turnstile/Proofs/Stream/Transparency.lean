import Turnstile.Proofs.Capture.Cycle
import Turnstile.Proofs.Stream.Delivery
/-!
# Capture does not disturb the stream

Two runs of the same calls through a layer, one with a context attached to it and one with none: the
stream below is asked the same in both, and the callers are answered the same, save where a body is
recorded that the chain blocks. That happens once in a capture cycle.
-/
namespace Turnstile.Stream

open Capture Policy

/-! ## Calls on a layer -/

/-- What a stream below a layer is asked. -/
inductive Ask
  | read (n : Nat)
  | readLine (line : String)
  | write (bytes : Bytes)
  | writeText (piece : String)
  | flush
deriving DecidableEq

/-- All that a stream has been asked, in order. -/
abbrev History := List Ask

/-- Any stream below a layer. Its answers may depend on all that it has been asked before. -/
structure Below where
  read : History → Nat → Except Fault Bytes
  /-- The result, and what the line has become. -/
  readLine : History → String → Except Fault Nat × String
  write : History → Bytes → Except Fault Nat
  writeText : History → String → Bool
  flush : History → Except Fault Unit

/-- A call on a layer: each kind of stream has its own. -/
inductive Call
  | read (n : Nat)
  | readLine (line : String)
  | write (bytes : Bytes)
  | flush
  | finish
  | writeText (piece : String)
  | finishText

/-- What a call asks the stream. -/
def Call.asks : Call → History
  | .read n => [.read n]
  | .readLine line => [.readLine line]
  | .write bytes => [.write bytes]
  | .flush | .finish => [.flush]
  | .writeText piece => [.writeText piece]
  | .finishText => []

/-- What a call is answered. -/
inductive CallResult
  | bytes (result : Except Fault Bytes)
  | line (result : Except Fault Nat) (line : String)
  | count (result : Except Fault Nat)
  | flushed (result : Except Fault Unit)
  | accepted (ok : Bool)
  | finished (result : Except Fault (Option Finish))

namespace CallResult

/-- The answer, whatever a `finish` reports of the recording. -/
def plain : CallResult → CallResult
  | .finished result => .finished (result.map fun _ => none)
  | r => r

/-- The answer if the recording that came of the call is blocked: nothing else about it changes. -/
def refused (v : Verdict) : CallResult → CallResult
  | .bytes _ => .bytes (.error (.blocked v))
  | .line _ after => .line (.error (.blocked v)) after
  | .finished _ => .finished (.error (.blocked v))
  | r => r

/-- The answer after a recording. -/
def recorded (r : CallResult) : Except Verdict (Option Finish) → CallResult
  | .error v => r.refused v
  | .ok reported =>
    match r with
    | .finished (.ok _) => .finished (.ok reported)
    | r => r

theorem bytes_recorded (r : Except Fault Bytes) (t : Except Verdict (Option Finish)) :
    CallResult.bytes ((t.mapError .blocked).bind fun _ => r) = (CallResult.bytes r).recorded t := by
  cases t <;> rfl

theorem line_recorded (r : Except Fault Nat) (after : String) (t : Except Verdict (Option Finish)) :
    CallResult.line ((t.mapError .blocked).bind fun _ => r) after =
      (CallResult.line r after).recorded t := by
  cases t <;> rfl

theorem finished_recorded (t : Except Verdict (Option Finish)) :
    CallResult.finished (t.mapError .blocked) = (CallResult.finished (.ok none)).recorded t := by
  cases t <;> rfl

theorem refused_recorded (r : CallResult) (v : Verdict) (reported : Option Finish) :
    (r.recorded (.ok reported)).refused v = r.refused v := by
  rcases r with _ | _ | _ | _ | _ | _ | _ <;> rfl

theorem plain_recorded (r : CallResult) (reported : Option Finish) :
    (r.recorded (.ok reported)).plain = r.plain := by
  rcases r with _ | _ | _ | _ | _ | _ | _ <;> rfl

end CallResult

theorem Notice.heard_eq_ended_iff {ε α : Type} {outermost : Prop} [Decidable outermost]
    {notice : α → Notice} {result : Except ε α} :
    Notice.heard outermost notice result = .ended ↔
      outermost ∧ ∃ a, result = .ok a ∧ notice a = .ended := by
  cases result with
  | error f => simp [heard]
  | ok a => by_cases idle : outermost <;> simp [heard, idle]

namespace Below

variable (b : Below) (h : History)

/-! What a layer passes on leaves the monitor alone. -/

def askRead (h : History) (n : Nat) (m : Monitor) : Answer Bytes History :=
  (b.read h n, h ++ [.read n], m)

def askLine (h : History) (line : String) : Except Fault Nat × String × History :=
  let (result, after) := b.readLine h line
  (result, after, h ++ [.readLine line])

def askWrite (h : History) (bytes : Bytes) (m : Monitor) : Answer Nat History :=
  (b.write h bytes, h ++ [.write bytes], m)

def askText (h : History) (piece : String) (m : Monitor) : Bool × History × Monitor :=
  (b.writeText h piece, h ++ [.writeText piece], m)

def askFlush (h : History) : Except Fault Unit × History := (b.flush h, h ++ [.flush])

/-- What comes of a call by the stream alone. -/
def reply : Call → CallResult
  | .read n => .bytes (b.read h n)
  | .readLine line => .line (b.readLine h line).1 (b.readLine h line).2
  | .write bytes => .count (b.write h bytes)
  | .flush => .flushed (b.flush h)
  | .finish => .finished ((b.flush h).map fun _ => none)
  | .writeText piece => .accepted (b.writeText h piece)
  | .finishText => .finished (.ok none)

/-- The call comes to the end of the body: an outermost read of nothing although there is room, an
outermost line of nothing, or a `finish`. -/
def Ends (depth : CallDepth) : Call → Prop
  | .read n => depth.depth .byteInput = 0 ∧ n ≠ 0 ∧ b.read h n = .ok []
  | .readLine line => depth.depth .charInput = 0 ∧ (b.readLine h line).1 = .ok 0
  | .finish => b.flush h = .ok ()
  | .finishText => True
  | .write _ | .flush | .writeText _ => False

/-- What the context is told of a call. -/
def notice (depth : CallDepth) : Call → Notice
  | .read n => .heard (depth.depth .byteInput = 0) (.ofRead n) (b.read h n)
  | .readLine line =>
    .heard (depth.depth .charInput = 0) (.ofLine line · (b.readLine h line).2) (b.readLine h line).1
  | .write bytes =>
    .heard (depth.depth .byteOutput = 0) (fun n => .bytes (bytes.take n)) (b.write h bytes)
  | .writeText piece =>
    .heard (depth.depth .charOutput = 0) (fun _ => .text piece)
      (if b.writeText h piece then .ok () else .error ())
  | .finish => .heard True (fun _ => .ended) (b.flush h)
  | .finishText => .ended
  | .flush => .nothing

theorem notice_eq_ended_iff (depth : CallDepth) (c : Call) :
    b.notice h depth c = .ended ↔ b.Ends h depth c := by
  cases c with
  | read n =>
    rw [notice, Ends, Notice.heard_eq_ended_iff]
    simp only [Notice.ofRead_eq_ended_iff]
    constructor
    · rintro ⟨idle, bytes, came, asked, rfl⟩
      exact ⟨idle, asked, came⟩
    · rintro ⟨idle, asked, came⟩
      exact ⟨idle, [], came, asked, rfl⟩
  | readLine line =>
    rw [notice, Ends, Notice.heard_eq_ended_iff]
    constructor
    · rintro ⟨idle, n, came, ended⟩
      by_cases none : n = 0
      · exact ⟨idle, none ▸ came⟩
      · simp [Notice.ofLine, none] at ended
    · rintro ⟨idle, came⟩
      exact ⟨idle, 0, came, rfl⟩
  | write bytes => simp [notice, Ends, Notice.heard_eq_ended_iff]
  | flush => simp [notice, Ends]
  | finish =>
    rw [notice, Ends, Notice.heard_eq_ended_iff]
    constructor
    · rintro ⟨-, ⟨⟩, came, -⟩
      exact came
    · intro came
      exact ⟨trivial, (), came, rfl⟩
  | writeText piece => simp [notice, Ends, Notice.heard_eq_ended_iff]
  | finishText => simp [notice, Ends]

end Below

/-- Something that happens to a layer, or between its calls. -/
inductive Event
  | call (c : Call)
  /-- Something is done with a context, attached to the layer or not. -/
  | touch (i : Nat) (step : ContextStep)
  /-- The layer's resource is removed from its store. -/
  | detach
  | policy (snapshot : Snapshot)
  /-- Other calls begin or end around those that follow. -/
  | nest (depth : CallDepth)

end Turnstile.Stream

namespace Turnstile.Capture

open Policy Turnstile.Stream

namespace Probe

variable (p : Probe) (b : Below)

/-! ## What comes of a call -/

/-- A call on a layer over the stream. -/
def call (h : History) (m : Monitor) : Call → CallResult × History × Monitor
  | .read n =>
    let (result, h, m) := p.read b.askRead h n m
    (.bytes result, h, m)
  | .readLine line =>
    let (result, (line, h), m) := p.readLine b.askLine h line m
    (.line result line, h, m)
  | .write bytes =>
    let (result, h, m) := p.write b.askWrite h bytes m
    (.count result, h, m)
  | .flush =>
    let (result, h) := b.askFlush h
    (.flushed result, h, m)
  | .finish =>
    let (result, h, m) := p.finish b.askFlush h m
    (.finished result, h, m)
  | .writeText piece =>
    let (ok, h, m) := p.writeText b.askText h piece m
    (.accepted ok, h, m)
  | .finishText =>
    let (result, m) := p.finalize m
    (.finished (result.mapError .blocked), h, m)

/-- What comes of a call by the stream alone comes of it through the layer, unless the recording that it
ends in is blocked. -/
theorem call_eq (h : History) (m : Monitor) (c : Call) :
    let told := p.notify m (b.notice h m.depth c)
    p.call b h m c = ((b.reply h c).recorded told.1, h ++ c.asks, told.2) := by
  intro told
  cases c with
  | read n =>
    have whole : p.read b.askRead h n m = _ := p.read_eq rfl
    rw [call, whole]
    exact Prod.ext (CallResult.bytes_recorded _ told.1) rfl
  | readLine line =>
    have whole : p.readLine b.askLine h line m = _ := p.readLine_eq rfl
    rw [call, whole]
    exact Prod.ext (CallResult.line_recorded _ _ told.1) rfl
  | write bytes =>
    have whole : p.write b.askWrite h bytes m = _ := p.write_eq rfl
    have fine : told.1 = .ok none :=
      p.notify_fst m (mt (b.notice_eq_ended_iff h m.depth (.write bytes)).mp id)
    rw [call, whole]
    show (CallResult.count ((told.1.mapError Fault.blocked).bind fun _ => b.write h bytes), _, told.2) =
      ((CallResult.count (b.write h bytes)).recorded told.1, _, told.2)
    rw [fine]
    rfl
  | flush => rfl
  | finish =>
    rw [call, Probe.finish]
    cases came : b.flush h with
    | error f =>
      have none : told = (.ok none, m) := by
        simp only [told, Below.notice, came, Notice.heard]
        rfl
      simp only [Below.askFlush, came, none, Below.reply]
      rfl
    | ok done =>
      have ended : told = p.finalize m := by
        simp only [told, Below.notice, came, Notice.heard, if_true]
        rfl
      simp only [Below.askFlush, came, Below.reply, ← ended]
      exact Prod.ext (CallResult.finished_recorded told.1) rfl
  | writeText piece =>
    have whole : p.writeText b.askText h piece m = _ := p.writeText_eq rfl
    have fine : told.1 = .ok none :=
      p.notify_fst m (mt (b.notice_eq_ended_iff h m.depth (.writeText piece)).mp id)
    rw [call, whole, fine]
    rfl
  | finishText =>
    exact Prod.ext (CallResult.finished_recorded told.1) (Prod.ext (List.append_nil h).symm rfl)

/-! ## Refusals -/

/-- The verdict that keeps the attached body from being recorded without complaint: it is a request's,
it has not been recorded yet, and the chain blocks what it is. -/
def blocking? (m : Monitor) : Option Verdict :=
  (m.attached? p.store p.resource).bind fun i =>
    m.contexts[i]?.bind fun c =>
      if c.captured then none
      else (c.stage.verdict? m.chain m.moment c.render).filter Verdict.blocked

/-- The call comes to the end of a body that is blocked. -/
def Refuses (h : History) (m : Monitor) (c : Call) (v : Verdict) : Prop :=
  b.Ends h m.depth c ∧ p.blocking? m = some v

theorem answer_eq (stage : Stage) (chain : Chain) (moment : Moment) (text : String) :
    stage.answer chain moment text =
      match (stage.verdict? chain moment text).filter Verdict.blocked with
      | some v => .error v
      | none => .ok .recorded := by
  rw [Stage.answer]
  cases stage.verdict? chain moment text with
  | none => rfl
  | some v => by_cases blocked : v.blocked <;> simp [Option.filter, blocked]

theorem finalize_fst (m : Monitor) : ∃ reported, (p.finalize m).1 =
    match p.blocking? m with
    | some v => .error v
    | none => .ok reported := by
  cases here : m.attached? p.store p.resource with
  | none => exact ⟨none, by simp [finalize, blocking?, here]⟩
  | some i =>
    simp only [finalize, blocking?, here, Option.bind_some]
    cases held : m.contexts[i]? with
    | none =>
      rw [Monitor.captureContext_absent held]
      exact ⟨_, rfl⟩
    | some c =>
      cases done : c.captured with
      | true =>
        rw [Monitor.captureContext_captured held done]
        exact ⟨_, by simp [done, Except.map]; rfl⟩
      | false =>
        rw [Monitor.captureContext_open held done]
        simp only [Monitor.perform, answer_eq, Option.bind_some, done, Bool.false_eq_true, if_false]
        refine ⟨some .recorded, ?_⟩
        cases (c.stage.verdict? m.chain m.moment c.render).filter Verdict.blocked <;> rfl

theorem notify_bare {m : Monitor} (bare : m.attached? p.store p.resource = none) (notice : Notice) :
    p.notify m notice = (.ok none, m) := by
  cases notice with
  | nothing => rfl
  | bytes data => simp only [notify, record, bare]
  | text s => simp only [notify, record, bare]
  | ended => simp only [notify, finalize, bare]

/-- A call with a context attached, beside the same call with none. -/
theorem call_transparent (h : History) (m : Monitor) {m' : Monitor}
    (bare : m'.attached? p.store p.resource = none) (c : Call) :
    let a := p.call b h m c
    let a' := p.call b h m' c
    a.2.1 = a'.2.1 ∧ a'.2.2 = m' ∧ (∀ v, p.Refuses b h m c v → a.1 = a'.1.refused v) ∧
      ((∀ v, ¬ p.Refuses b h m c v) → a.1.plain = a'.1.plain) := by
  intro a a'
  have whole : a = _ := p.call_eq b h m c
  have whole' : a' = _ := p.call_eq b h m' c
  rw [p.notify_bare bare] at whole'
  rw [whole, whole']
  refine ⟨rfl, rfl, ?_, ?_⟩
  · rintro v ⟨ends, blocks⟩
    obtain ⟨reported, answer⟩ := p.finalize_fst m
    rw [blocks] at answer
    have told : (p.notify m (b.notice h m.depth c)).1 = .error v := by
      rw [(b.notice_eq_ended_iff h m.depth c).mpr ends]
      exact answer
    simp only [told, CallResult.refused_recorded]
    rfl
  · intro free
    obtain ⟨reported, told⟩ : ∃ reported, (p.notify m (b.notice h m.depth c)).1 = .ok reported := by
      by_cases ends : b.Ends h m.depth c
      · rw [(b.notice_eq_ended_iff h m.depth c).mpr ends]
        obtain ⟨reported, answer⟩ := p.finalize_fst m
        cases blocks : p.blocking? m with
        | some v => exact absurd ⟨ends, blocks⟩ (free v)
        | none =>
          rw [blocks] at answer
          exact ⟨reported, answer⟩
      · exact ⟨none, p.notify_fst m (mt (b.notice_eq_ended_iff h m.depth c).mp ends)⟩
    simp only [told, CallResult.plain_recorded]

/-! ## Runs -/

/-- What an event does to the stream below and to the monitor. -/
def act (t : History × Monitor) : Event → History × Monitor
  | .call c => (p.call b t.1 t.2 c).2
  | .touch i step => (t.1, (t.2.contextStep i step).2)
  | .detach => (t.1, t.2.detach p.store p.resource)
  | .policy snapshot => (t.1, t.2.withSnapshot snapshot)
  | .nest depth => (t.1, { t.2 with depth := depth })

/-- What several events do, in order. -/
def play (t : History × Monitor) (events : List Event) : History × Monitor :=
  events.foldl (p.act b) t

theorem attached?_detach (m : Monitor) :
    (m.detach p.store p.resource).attached? p.store p.resource = none := by
  rw [Monitor.detach, Monitor.attached?, Registry.detach, Registry.store_setStore, if_pos rfl]
  exact (Store.lacks_erase _ _).get?_eq_none

theorem attached?_contextStep (m : Monitor) (i : Nat) (step : ContextStep) :
    (m.contextStep i step).2.attached? p.store p.resource = m.attached? p.store p.resource := by
  rw [Monitor.attached?, Monitor.contextStep_registry, Monitor.attached?]

/-- A run beside one with nothing attached to the layer: the stream below has been asked the same. -/
structure Beside (t t' : History × Monitor) : Prop where
  asked : t.1 = t'.1
  bare : t'.2.attached? p.store p.resource = none

namespace Beside

variable {p b} {t t' : History × Monitor}

theorem call (beside : p.Beside t t') (c : Call) :
    let a := p.call b t.1 t.2 c
    let a' := p.call b t'.1 t'.2 c
    p.Beside a.2 a'.2 ∧ (∀ v, p.Refuses b t.1 t.2 c v → a.1 = a'.1.refused v) ∧
      ((∀ v, ¬ p.Refuses b t.1 t.2 c v) → a.1.plain = a'.1.plain) := by
  intro a a'
  obtain ⟨h, m⟩ := t
  obtain ⟨h', m'⟩ := t'
  obtain ⟨rfl, bare⟩ := beside
  obtain ⟨asked, same, answers⟩ := p.call_transparent b h m bare c
  refine ⟨⟨asked, ?_⟩, answers⟩
  rw [same]
  exact bare

theorem act (beside : p.Beside t t') (e : Event) : p.Beside (p.act b t e) (p.act b t' e) := by
  cases e with
  | call c => exact (beside.call c).1
  | touch i step => exact ⟨beside.asked, (p.attached?_contextStep t'.2 i step).trans beside.bare⟩
  | detach => exact ⟨beside.asked, p.attached?_detach t'.2⟩
  | policy snapshot => exact ⟨beside.asked, beside.bare⟩
  | nest depth => exact ⟨beside.asked, beside.bare⟩

theorem play (beside : p.Beside t t') (events : List Event) :
    p.Beside (p.play b t events) (p.play b t' events) := by
  induction events generalizing t t' with
  | nil => exact beside
  | cons e events ih => exact ih (beside.act e)

end Beside

/-! ## Once in a cycle -/

/-- Whatever is attached to the layer is the context of this number, and its body has been recorded. -/
structure Spent (i : Nat) (m : Monitor) : Prop where
  attached : ∀ j, m.attached? p.store p.resource = some j → j = i
  captured : ∃ c, m.contexts[i]? = some c ∧ c.captured = true

namespace Spent

variable {p b} {i : Nat} {h : History} {m : Monitor}

theorem blocking? (spent : p.Spent i m) : p.blocking? m = none := by
  cases here : m.attached? p.store p.resource with
  | none => rw [Probe.blocking?, here, Option.bind_none]
  | some j =>
    obtain ⟨c, held, done⟩ := spent.captured
    rw [Probe.blocking?, here, spent.attached j here, Option.bind_some, held, Option.bind_some,
      if_pos done]

/-- A layer whose body has been recorded does nothing more. -/
theorem notify (spent : p.Spent i m) (notice : Notice) : (p.notify m notice).2 = m := by
  cases here : m.attached? p.store p.resource with
  | none => rw [p.notify_bare here]
  | some j =>
    obtain ⟨c, held, done⟩ := spent.captured
    rw [notify_attached here, spent.attached j here]
    have shut : ¬ c.isOpen [] := by simp [Context.isOpen, Context.started, done]
    exact Monitor.contextRun_closed (m := m) held shut (notice.no_reset)

theorem contextStep (spent : p.Spent i m) {j : Nat} {step : ContextStep}
    (going : j = i → step ≠ .reset) : p.Spent i (m.contextStep j step).2 where
  attached := by
    rw [attached?_contextStep]
    exact spent.attached
  captured := by
    obtain ⟨c, held, done⟩ := spent.captured
    by_cases same : j = i
    · subst same
      have kept := Monitor.contextStep_context held step
      rw [Context.take_captured done (going rfl)] at kept
      exact ⟨c, kept, done⟩
    · exact ⟨c, (m.contextStep_other same step).trans held, done⟩

theorem act (spent : p.Spent i m) {e : Event} (going : e ≠ .touch i .reset) :
    p.Spent i (p.act b (h, m) e).2 := by
  cases e with
  | call c =>
    have same : (p.call b h m c).2.2 = m := by
      rw [p.call_eq b h m c]
      exact spent.notify _
    exact same.symm ▸ spent
  | touch j step =>
    apply spent.contextStep
    rintro rfl rfl
    exact going rfl
  | detach =>
    refine ⟨?_, spent.captured⟩
    intro j here
    rw [show (p.act b (h, m) .detach).2 = m.detach p.store p.resource from rfl,
      p.attached?_detach] at here
    cases here
  | policy snapshot => exact ⟨spent.attached, spent.captured⟩
  | nest depth => exact ⟨spent.attached, spent.captured⟩

theorem play (spent : p.Spent i m) {events : List Event} (going : .touch i .reset ∉ events) :
    p.Spent i (p.play b (h, m) events).2 := by
  induction events generalizing h m with
  | nil => exact spent
  | cons e events ih =>
    have first : p.Spent i (p.act b (h, m) e).2 :=
      spent.act fun eq => going (eq ▸ List.mem_cons_self)
    exact ih first fun mem => going (List.mem_cons_of_mem e mem)

end Spent

/-- A call that is refused has had the body recorded. -/
theorem Refuses.spent {p : Probe} {b : Below} {h : History} {m : Monitor} {c : Call} {v : Verdict}
    (refuses : p.Refuses b h m c v) :
    ∃ i, m.attached? p.store p.resource = some i ∧ p.Spent i (p.call b h m c).2.2 := by
  obtain ⟨ends, blocks⟩ := refuses
  obtain ⟨i, here, held⟩ := Option.bind_eq_some_iff.mp blocks
  obtain ⟨d, held, -⟩ := Option.bind_eq_some_iff.mp held
  have after : (p.call b h m c).2.2 = (m.contextStep i (.capture none)).2 := by
    rw [p.call_eq b h m c, (b.notice_eq_ended_iff h m.depth c).mpr ends]
    exact notify_attached here .ended
  refine ⟨i, here, ?_, ?_⟩
  · intro j here'
    rw [after, attached?_contextStep, here] at here'
    exact (Option.some.inj here').symm
  · rw [after]
    exact ⟨_, Monitor.contextStep_context held (.capture none), rfl⟩

/-! ## Two runs -/

/-- Whatever is attached to a layer and whatever happens to it, a run with it attached and a run with
nothing attached ask the stream below the same, and answer every call the same apart from what a
`finish` reports; only a call that comes to the end of a blocked body is answered with the verdict
instead, and in one capture cycle no more than one is. -/
theorem play_transparent (h : History) (m : Monitor) {m' : Monitor}
    (bare : m'.attached? p.store p.resource = none) (events : List Event) (c : Call) :
    let t := p.play b (h, m) events
    let t' := p.play b (h, m') events
    let a := p.call b t.1 t.2 c
    let a' := p.call b t'.1 t'.2 c
    (t.1 = t'.1 ∧ a.2.1 = a'.2.1) ∧
    (∀ v, p.Refuses b t.1 t.2 c v → a.1 = a'.1.refused v) ∧
    ((∀ v, ¬ p.Refuses b t.1 t.2 c v) → a.1.plain = a'.1.plain) ∧
    (∀ earlier between c₀ v₀ v, events = earlier ++ .call c₀ :: between →
      p.Refuses b (p.play b (h, m) earlier).1 (p.play b (h, m) earlier).2 c₀ v₀ →
      p.Refuses b t.1 t.2 c v →
      ∃ i, (p.play b (h, m) earlier).2.attached? p.store p.resource = some i ∧
        .touch i .reset ∈ between) := by
  intro t t' a a'
  have start : p.Beside (h, m) (h, m') := ⟨rfl, bare⟩
  have beside : p.Beside t t' := start.play events
  obtain ⟨after, refused, answered⟩ := beside.call c
  refine ⟨⟨beside.asked, after.asked⟩, refused, answered, ?_⟩
  rintro earlier between c₀ v₀ v rfl first ⟨-, blocks⟩
  obtain ⟨i, here, spent⟩ := first.spent
  refine ⟨i, here, ?_⟩
  -- Without a reset in between, the body refused first is still the one attached, and recorded.
  by_contra going
  have later : t = p.play b (p.call b _ _ c₀).2 between := List.foldl_append
  have still : p.Spent i t.2 := by
    rw [later]
    exact spent.play going
  rw [still.blocking?] at blocks
  cases blocks

/-- A body of one byte, blocked at its end: the stream is asked twice in both runs, and only the run
with the context attached is told so. -/
theorem play_transparent_of_blocked_byte :
    let screen : Evaluator := ⟨"screen", fun _ _ => .block "no bodies"⟩
    let p : Probe := ⟨⟨0, 0⟩, ⟨.byteInput, .request⟩⟩
    let m' := (Monitor.start .default ⟨[screen]⟩ ⟨none, 0⟩).newSpan.2
    let m := (m'.attachNew p.store p.resource
      ⟨0, "body", .bytes (.empty 2 .latin1), .latin1, .request .empty, false⟩).2
    let b : Below := {
      read := fun h _ => if h.isEmpty then .ok [97] else .ok []
      readLine := fun _ line => (.ok 0, line)
      write := fun _ bytes => .ok bytes.length
      writeText := fun _ _ => true
      flush := fun _ => .ok () }
    let t := p.play b ([], m) [.call (.read 4)]
    let t' := p.play b ([], m') [.call (.read 4)]
    (p.call b t'.1 t'.2 (.read 4)).1 = .bytes (.ok []) ∧
      (p.call b t.1 t.2 (.read 4)).1 = .bytes (.error (.blocked (.block "no bodies"))) := by
  intro screen p m' m b t t'
  have refuses : p.Refuses b t.1 t.2 (.read 4) (.block "no bodies") := ⟨⟨rfl, by decide, rfl⟩, rfl⟩
  have bare : m'.attached? p.store p.resource = none := rfl
  exact ⟨rfl, (play_transparent p b [] m bare [.call (.read 4)] (.read 4)).2.1 _ refuses⟩

end Probe
end Turnstile.Capture
