import Turnstile.Proofs.Exchange.Attributes
import Turnstile.Proofs.Text.Decoding
/-!
# What a record exposes

How far records keep to the settings. Headers are there only if they are captured, and a body that
streams by only if bodies are, and no more of it than the limit. The parameters of a form keep to neither:
they are recorded whole, whether request bodies are captured or not.
-/
namespace Turnstile.Exchange

open Policy Capture Turnstile.Stream

/-! ## Bodies -/

section

variable {x : Exchange} {settings : Settings} {b : String}

theorem judgedBody_shown (seen : x.judgedBody settings = some b) :
    settings.bodies.request = true ∨ x.form.isSome = true := by
  rw [judgedBody] at seen
  cases form : x.form with
  | some params => exact .inr rfl
  | none =>
    simp only [form] at seen
    split at seen
    · rename_i admits
      exact .inl (Bool.and_eq_true_iff.mp admits).1
    · contradiction

theorem repliedBody_shown (sent : x.repliedBody settings = some b) :
    settings.bodies.response = true := by
  obtain ⟨reply, -, captured⟩ := Option.bind_eq_some_iff.mp sent
  dsimp only at captured
  split at captured
  · rename_i admits
    exact (Bool.and_eq_true_iff.mp admits).1
  · contradiction

/-- However its bytes are read, a captured text is no longer than they are. -/
theorem decode_take_length (charset : Charset) (bytes : Bytes) (n : Nat) :
    (charset.decode (bytes.take n)).length ≤ n :=
  Nat.le_trans (charset.decode_length _) (List.length_take_le n bytes)

theorem judgedBody_length (seen : x.judgedBody settings = some b) :
    b.length ≤ settings.bodyLimit ∨ ∃ params, x.form = some params ∧ b = Form.bodyText params := by
  rw [judgedBody] at seen
  cases form : x.form with
  | some params =>
    simp only [form] at seen
    exact .inr ⟨params, rfl, (Option.some.inj seen).symm⟩
  | none =>
    simp only [form] at seen
    split at seen
    · cases seen
      exact .inl (decode_take_length _ _ _)
    · contradiction

theorem repliedBody_length (sent : x.repliedBody settings = some b) :
    b.length ≤ settings.bodyLimit := by
  obtain ⟨reply, -, captured⟩ := Option.bind_eq_some_iff.mp sent
  dsimp only at captured
  split at captured
  · cases captured
    exact decode_take_length _ _ _
  · contradiction

end

/-! ## Records -/

/-- A record shows what is captured only, but for the parameters of a form. -/
theorem process_shows {x : Exchange} {stamp : Log.Stamp} {sink sink' : Sink} {m m' : Monitor}
    {o : Outcome} {record : Log.Record} {roster : Roster} (sound : m.Sound) (idle : m.depth = .idle)
    (configured : m.chain = roster.chain)
    (answered : x.process stamp sink m = (.ok (o, record), sink', m')) :
    (record.attributes.contains requestBodyKey = true →
      m.settings.bodies.request = true ∨ x.form.isSome = true) ∧
    (record.attributes.contains responseBodyKey = true → m.settings.bodies.response = true) ∧
    (∀ key, requestHeaderPrefix.toList <+: key.toList → record.attributes.contains key = true →
      m.settings.headers.request = true) ∧
    (∀ key, responseHeaderPrefix.toList <+: key.toList → record.attributes.contains key = true →
      m.settings.headers.response = true) := by
  have attributed := process_attributed sound idle configured answered
  have shown : ∀ key, record.attributes.get? key =
      Table.lastValue? (x.written m (Origin.ofKey key)) key := by
    rw [process_attributes sound idle answered]
    exact get?_events configured x
  refine ⟨?_, ?_, ?_, ?_⟩
  · intro present
    rw [Table.contains, attributed.requestBody] at present
    obtain ⟨b, seen⟩ := Option.isSome_iff_exists.mp present
    split at seen
    · contradiction
    · exact judgedBody_shown seen
  · intro present
    rw [Table.contains, attributed.responseBody] at present
    obtain ⟨b, sent⟩ := Option.isSome_iff_exists.mp present
    split at sent
    · exact repliedBody_shown sent
    · contradiction
  · intro key starts present
    rw [Table.contains, shown, Origin.ofKey_of_requestHeaderPrefix starts] at present
    obtain ⟨value, found⟩ := Option.isSome_iff_exists.mp present
    exact (Monitor.mem_requestHeaderWrites (Table.mem_of_lastValue? found)).1
  · intro key starts present
    rw [Table.contains, shown, Origin.ofKey_of_responseHeaderPrefix starts, written] at present
    obtain ⟨value, found⟩ := Option.isSome_iff_exists.mp present
    split at found
    · exact (Monitor.mem_responseHeaderWrites (Table.mem_of_lastValue? found)).1
    · contradiction

/-- With everything switched off neither a body nor a header shows. -/
theorem process_shows_nothing_captured :
    let settings : Settings := ⟨8, ["json"], ⟨false, false⟩, ⟨false, false⟩⟩
    let m := Monitor.start settings Roster.default.chain ⟨none, 0⟩
    let x : Exchange := ⟨none, .ofList [("content-type", "json")], some "1", none, none⟩
    ∃ o record sink' m', m.Sound ∧ m.depth = .idle ∧ m.chain = Roster.default.chain ∧
      x.process default .unlimited m = (.ok (o, record), sink', m') ∧
      record.attributes.contains requestBodyKey = false ∧
      ∀ key, requestHeaderPrefix.toList <+: key.toList → record.attributes.contains key = false := by
  intro settings m x
  have sound : m.Sound := Monitor.start_sound _ _ _
  obtain ⟨o, record, sink', m', processed⟩ := process_exists sound rfl (x.refused_of_le (by decide)) default
  obtain ⟨body, -, headers, -⟩ := process_shows sound rfl rfl processed
  refine ⟨o, record, sink', m', sound, rfl, rfl, processed, ?_, ?_⟩
  · rw [Bool.eq_false_iff]
    intro present
    rcases body present with captured | form <;> contradiction
  · intro key starts
    rw [Bool.eq_false_iff]
    intro present
    cases headers key starts present

/-- The parameters of a form show although request bodies are not captured. -/
theorem form_shows_switched_off :
    let settings : Settings := { Settings.default with bodies := ⟨false, true⟩ }
    let m := Monitor.start settings Roster.default.chain ⟨none, 0⟩
    let x : Exchange := ⟨none, .empty, none, some (.ofList [("user", "ada")]), none⟩
    ∃ o record sink' m', x.process default .unlimited m = (.ok (o, record), sink', m') ∧
      m.settings.bodies.request = false ∧ record.attributes.contains requestBodyKey = true := by
  intro settings m x
  have sound : m.Sound := Monitor.start_sound _ _ _
  obtain ⟨o, record, sink', m', processed⟩ := process_exists sound rfl (x.refused_of_le (by decide)) default
  have shown := (process_attributed sound rfl rfl processed).requestBody
  have body : (if (x.ruling m).2 = .headers then none else x.judgedBody m.settings).isSome = true := by
    decide
  exact ⟨o, record, sink', m', processed, rfl, (congrArg Option.isSome shown).trans body⟩

/-- Of a body that streams by a record shows no more characters than the limit, whatever of its bytes is
ill-formed or cut off; the parameters of a form it shows whole. -/
theorem process_bounds {x : Exchange} {stamp : Log.Stamp} {sink sink' : Sink} {m m' : Monitor}
    {o : Outcome} {record : Log.Record} {roster : Roster} (sound : m.Sound) (idle : m.depth = .idle)
    (configured : m.chain = roster.chain)
    (answered : x.process stamp sink m = (.ok (o, record), sink', m')) :
    (∀ b, record.attributes.get? responseBodyKey = some b → b.length ≤ m.settings.bodyLimit) ∧
    ∀ b, record.attributes.get? requestBodyKey = some b → b.length ≤ m.settings.bodyLimit ∨
      ∃ params, x.form = some params ∧ b = Form.bodyText params := by
  have attributed := process_attributed sound idle configured answered
  refine ⟨?_, ?_⟩
  · intro b shown
    rw [attributed.responseBody] at shown
    split at shown
    · exact repliedBody_length shown
    · contradiction
  · intro b shown
    rw [attributed.requestBody] at shown
    split at shown
    · contradiction
    · exact judgedBody_length shown

/-- Half of a unit of UTF-16 shows as one character. -/
theorem process_bounds_half_unit :
    let settings : Settings := ⟨1, ["json"], ⟨true, true⟩, ⟨true, true⟩⟩
    let m := Monitor.start settings Roster.default.chain ⟨none, 0⟩
    let headers := Headers.ofList [("content-type", "json;charset=utf-16le")]
    let x : Exchange := ⟨none, .empty, none, none, some ⟨headers, some "a"⟩⟩
    ∃ o record sink' m', m.Sound ∧ m.depth = .idle ∧ m.chain = Roster.default.chain ∧
      x.process default .unlimited m = (.ok (o, record), sink', m') ∧
      record.attributes.get? responseBodyKey = some "\ufffd" ∧ "\ufffd".length ≤ 1 := by
  intro settings m headers x
  have sound : m.Sound := Monitor.start_sound _ _ _
  obtain ⟨o, record, sink', m', processed⟩ := process_exists sound rfl (x.refused_of_le (by decide)) default
  have shown := (process_attributed sound rfl rfl processed).responseBody
  have body : (if (x.ruling m).2 = .complete then x.repliedBody m.settings else none) =
      some "\ufffd" := by decide
  obtain ⟨bound, -⟩ := process_bounds sound rfl rfl processed
  exact ⟨o, record, sink', m', sound, rfl, rfl, processed, shown.trans body, bound _ (shown.trans body)⟩

/-- The parameters of a form show beyond the limit. -/
theorem form_shows_beyond_limit :
    let settings : Settings := { Settings.default with bodyLimit := 4 }
    let m := Monitor.start settings Roster.default.chain ⟨none, 0⟩
    let x : Exchange := ⟨none, .empty, none, some (.ofList [("user", "ada")]), none⟩
    ∃ o record sink' m' b, x.process default .unlimited m = (.ok (o, record), sink', m') ∧
      record.attributes.get? requestBodyKey = some b ∧ m.settings.bodyLimit < b.length := by
  intro settings m x
  have sound : m.Sound := Monitor.start_sound _ _ _
  obtain ⟨o, record, sink', m', processed⟩ := process_exists sound rfl (x.refused_of_le (by decide)) default
  have shown := (process_attributed sound rfl rfl processed).requestBody
  have body : (if (x.ruling m).2 = .headers then none else x.judgedBody m.settings) =
      some (Form.bodyText (.ofList [("user", "ada")])) := by decide
  exact ⟨o, record, sink', m', _, processed, shown.trans body, by decide⟩

end Turnstile.Exchange
