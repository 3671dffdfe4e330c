import Turnstile.Proofs.Capture.Completion
import Turnstile.Proofs.Exchange.Course
import Turnstile.Proofs.Stream.Frame
/-!
# Exchanges go by the same rules

No exchange changes what is captured, who judges, or the policy in force, so the next one is judged by
what the first one was.
-/
namespace Turnstile.Capture

namespace Monitor

/-- The monitors capture and judge alike. -/
structure Alike (m m' : Monitor) : Prop where
  settings : m'.settings = m.settings
  chain : m'.chain = m.chain
  moment : m'.moment = m.moment

variable {m m₁ m₂ : Monitor}

theorem Alike.refl (m : Monitor) : Alike m m := ⟨rfl, rfl, rfl⟩

theorem Alike.trans (first : Alike m m₁) (second : Alike m₁ m₂) : Alike m m₂ :=
  ⟨second.settings.trans first.settings, second.chain.trans first.chain,
    second.moment.trans first.moment⟩

theorem Kept.alike {probes : List Probe} (kept : Kept probes m m₁) : Alike m m₁ :=
  ⟨kept.settings, kept.chain, kept.moment⟩

theorem attachBody_alike (m : Monitor) (store : StoreKey) (r : Resource) (span : Nat) (wanted : Bool)
    (key : String) (stage : Stage) (contentType contentLength : Option String) :
    Alike m (m.attachBody store r span wanted key stage contentType contentLength).2 := by
  rw [attachBody_eq]
  split
  · split <;> exact ⟨rfl, rfl, rfl⟩
  · exact .refl m

theorem signal_alike (m : Monitor) (l : Listener) (signal : Signal) :
    Alike m (m.signal l signal).2 := by
  cases ends : signal.headers? with
  | none =>
    cases signal with
    | timeout => exact .refl m
    | complete headers => contradiction
    | error headers => contradiction
  | some headers =>
    rw [signal_eq_handle ends, handle]
    split
    · exact .refl m
    · obtain ⟨due, m₁, counted, -, -, recorded⟩ := recordResponses_recorded l.responses
        { m with handled := m.handled.setIfInBounds l.number true } 0
      simp only [counted, responseHeaders_eq, foldl_detachAll]
      exact ⟨recorded.settings, recorded.chain, recorded.moment⟩

end Monitor
end Turnstile.Capture

namespace Turnstile.Exchange

open Policy Capture Turnstile.Stream

variable {source target : Probe} {span : Nat}

theorem takeBody_alike (x : Exchange) (source : Probe) (span : Nat) (m : Monitor) :
    Monitor.Alike m (x.takeBody source span m).2 := by
  cases form : x.form with
  | some params =>
    rw [takeBody_form form]
    exact ⟨rfl, rfl, rfl⟩
  | none =>
    cases memory : x.bodyRefused m.settings with
    | true =>
      rw [takeBody_refused memory]
      exact .refl m
    | false =>
      rw [takeBody_read form memory]
      exact (m.attachBody_alike _ _ _ _ _ _ _ _).trans (Reader.readToEnd_kept _ _).alike

theorem writeReply_alike (reply : Reply) (target : Probe) (span : Nat) (sink : Sink) (m : Monitor) :
    Monitor.Alike m (writeReply reply target span sink m).2.2 := by
  cases memory : reply.refused m.settings with
  | true =>
    rw [writeReply_refused memory]
    exact .refl m
  | false =>
    cases body : reply.body with
    | none =>
      rw [writeReply_none memory body]
      exact m.attachBody_alike _ _ _ _ _ _ _ _
    | some text =>
      rw [writeReply_some memory body]
      exact (m.attachBody_alike _ _ _ _ _ _ _ _).trans (Writer.writeAll_kept _ _ _).alike

theorem finish_alike (x : Exchange) (v : Verdict) (l : Listener) (target : Probe) (span : Nat)
    (sink : Sink) (m : Monitor) : Monitor.Alike m (x.finish v l target span sink m).2.2 := by
  cases replied : x.reply with
  | none =>
    rw [finish_none replied]
    exact m.signal_alike _ _
  | some reply =>
    have written := writeReply_alike reply target span sink m
    rcases wrote : writeReply reply target span sink m with ⟨answer, sink', m₁⟩
    rw [wrote] at written
    cases answer with
    | ok done =>
      rw [finish_ok replied wrote]
      exact written.trans (m₁.signal_alike _ _)
    | error f =>
      by_cases memory : f = .memory
      · cases memory
        rw [finish_refused replied wrote]
        exact written
      · rw [finish_failed replied memory wrote]
        exact written.trans (m₁.signal_alike _ _)

theorem bodies_alike (x : Exchange) (v : Verdict) (source target : Probe) (span : Nat) (sink : Sink)
    (m : Monitor) : Monitor.Alike m (x.bodies v source target span sink m).2.2 := by
  have taken := x.takeBody_alike source span (listening source target span m).2
  have start : Monitor.Alike m (listening source target span m).2 := ⟨rfl, rfl, rfl⟩
  rcases took : x.takeBody source span (listening source target span m).2 with ⟨answer, m₁⟩
  rw [took] at taken
  refine start.trans (taken.trans ?_)
  rcases answer with (w | f) | done
  · rw [bodies_blocked took]
    exact m₁.signal_alike _ _
  · by_cases memory : f = .memory
    · cases memory
      rw [bodies_refused took]
      exact .refl m₁
    · rw [bodies_failed memory took]
      exact m₁.signal_alike _ _
  · rw [bodies_ok took]
    exact x.finish_alike v _ target span sink m₁

theorem run_alike (x : Exchange) (span : Nat) (sink : Sink) (m : Monitor) :
    Monitor.Alike m (x.run span sink m).2.2 := by
  have start : Monitor.Alike m (m.requestHeaders span x.headers).2 := by
    rw [m.requestHeaders_eq]
    exact ⟨rfl, rfl, rfl⟩
  rcases judged : m.requestHeaders span x.headers with ⟨answer, m₁⟩
  rw [judged] at start
  cases answer with
  | error v =>
    rw [run_blocked judged]
    exact start
  | ok v =>
    rw [run_ok judged]
    have ended := x.bodies_alike v (Probe.create m₁ ⟨.byteInput, .request⟩).1
      (Probe.create (Probe.create m₁ ⟨.byteInput, .request⟩).2 ⟨.byteOutput, .response⟩).1 span sink
      (Probe.create (Probe.create m₁ ⟨.byteInput, .request⟩).2 ⟨.byteOutput, .response⟩).2
    exact start.trans ⟨ended.settings, ended.chain, ended.moment⟩

/-- After an exchange the next one is captured and judged alike. -/
theorem process_alike (x : Exchange) (stamp : Log.Stamp) (sink : Sink) (m : Monitor) :
    Monitor.Alike m (x.process stamp sink m).2.2 := by
  rw [process_snd]
  exact (⟨rfl, rfl, rfl⟩ : Monitor.Alike m m.newSpan.2).trans (x.run_alike _ sink _)

end Turnstile.Exchange
