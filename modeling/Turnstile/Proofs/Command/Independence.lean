import Mathlib.Data.List.Forall2
import Turnstile.Proofs.Command.Replay
import Turnstile.Proofs.Exchange.Report
import Turnstile.Proofs.Log.Flush
import Turnstile.Proofs.Text.Lines
import Turnstile.Proofs.Text.Utf8
/-!
# Requests of a replay do not touch each other

A replay answers each line as if it were the only one. What holds of it after some requests is `Told`: the
monitor judges as at the start, the outcomes are the reports that the requests have on their own, and the
span log has been told their records and nothing else. `stopAt?` says which lines end it.
-/
namespace Turnstile

namespace Command

open Policy Capture

/-- The request that a line of bytes holds. -/
def requestIn (line : Bytes) : Option Exchange := (Text.Utf8.decode? line).bind Replay.requestOf

theorem filterMap_requestIn_cons {line : Bytes} {text : List Char}
    (decoded : Text.Utf8.decode? line = some text) (rest : List Bytes) :
    (line :: rest).filterMap requestIn = (Replay.requestOf text).toList ++ rest.filterMap requestIn := by
  rw [List.filterMap_cons, requestIn, decoded, Option.bind_some]
  cases Replay.requestOf text <;> rfl

/-- The monitor that a check or a replay starts with. -/
def monitorAt (config : Config) (moment : Moment) : Monitor :=
  .start config.capture config.filters.chain moment

/-- Why a line ends a replay, if it does: it is no text, or its request is refused memory. -/
def stopAt? (m : Monitor) (line : Bytes) : Option ReplayError :=
  match Text.Utf8.decode? line with
  | none => some .input
  | some text => (Replay.requestOf text).bind fun x => if x.refused m then some .memory else none

/-- None of the lines ends a replay. -/
def Passes (m : Monitor) (lines : List Bytes) : Prop := ∀ line ∈ lines, stopAt? m line = none

/-- The reports of requests, each on its own. -/
def reports (m : Monitor) (stamps : Nat → Log.Stamp) (requests : List Exchange) :
    List (Outcome × Log.Record) :=
  requests.mapIdx fun n x => x.report m (stamps n)

section

variable {m : Monitor} {stamps : Nat → Log.Stamp} {file : Log.LogFile}

theorem stopAt?_of_text {line : Bytes} {text : List Char} (decoded : Text.Utf8.decode? line = some text) :
    stopAt? m line = (Replay.requestOf text).bind fun x => if x.refused m then some .memory else none := by
  rw [stopAt?, decoded]

/-- A line that is a text ends no replay unless its request is refused. -/
theorem stopAt?_eq_none_iff {line : Bytes} : stopAt? m line = none ↔
    (Text.Utf8.decode? line).isSome = true ∧ ∀ x, requestIn line = some x → x.refused m = false := by
  cases decoded : Text.Utf8.decode? line with
  | none => simp [stopAt?, decoded]
  | some text => simp [stopAt?_of_text decoded, requestIn, decoded]

theorem stopAt?_eq_none_iff_of_le (fits : m.settings.bodyLimit ≤ roomLimit) {line : Bytes} :
    stopAt? m line = none ↔ (Text.Utf8.decode? line).isSome = true :=
  stopAt?_eq_none_iff.trans (and_iff_left fun x _ => x.refused_of_le fits)

theorem reports_append (m : Monitor) (stamps : Nat → Log.Stamp) (xs ys : List Exchange) :
    reports m stamps (xs ++ ys) =
      reports m stamps xs ++ reports m (fun n => stamps (n + xs.length)) ys :=
  List.mapIdx_append

theorem reports_concat (m : Monitor) (stamps : Nat → Log.Stamp) (xs : List Exchange) (x : Exchange) :
    reports m stamps (xs ++ [x]) = reports m stamps xs ++ [x.report m (stamps xs.length)] := by
  rw [reports_append]
  simp [reports]

/-- What the span log is told of reports. -/
def messagesOf (reports : List (Outcome × Log.Record)) : List Log.Message := reports.map fun report => .span report.2

theorem records_messagesOf (reports : List (Outcome × Log.Record)) :
    Log.Message.records (messagesOf reports) = reports.map Prod.snd := by
  rw [Log.Message.records, messagesOf, List.filterMap_map]
  show reports.filterMap (some ∘ Prod.snd) = _
  rw [List.filterMap_eq_map]

/-! ## A replay under way -/

/-- What holds of a replay that started with this monitor and over this file, once it has had these
requests. -/
structure Told (m : Monitor) (stamps : Nat → Log.Stamp) (file : Log.LogFile) (requests : List Exchange)
    (r : Replay) : Prop where
  clean : Clean r.monitor
  alike : Monitor.Alike m r.monitor
  outcomes : r.outcomes.reverse = (reports m stamps requests).map Prod.fst
  processed : r.processed = requests.length
  log : r.log = ((Log.Batcher.ofFile file).run (messagesOf (reports m stamps requests))).2

namespace Told

variable {requests : List Exchange} {r : Replay}

theorem start (config : Config) (moment : Moment) (file : Log.LogFile) (stamps : Nat → Log.Stamp) :
    Told (monitorAt config moment) stamps file [] (.start config moment file) :=
  ⟨Replay.start_clean config moment file, .refl _, rfl, rfl, rfl⟩

/-- A request is answered with the report that it has on its own. -/
theorem answered (told : Told m stamps file requests r) {m' : Monitor} (clean : Clean m')
    (alike : Monitor.Alike m m') (x : Exchange) :
    Told m stamps file (requests ++ [x]) (r.answered m' (x.report m (stamps r.processed)).1
      (x.report m (stamps r.processed)).2) := by
  have grown : reports m stamps (requests ++ [x]) =
      reports m stamps requests ++ [x.report m (stamps r.processed)] := by
    rw [reports_concat, told.processed]
  have monitor : (if (r.processed + 1) % Replay.sweepInterval = 0 then m'.sweep else m') = m' := by
    rw [clean.sweep, ite_self]
  rw [Replay.answered]
  simp only [monitor]
  refine ⟨clean, alike, ?_, ?_, ?_⟩
  · rw [List.reverse_cons, told.outcomes, grown, List.map_append]
    rfl
  · rw [told.processed, List.length_append]
    rfl
  · rw [grown, messagesOf, List.map_append, Log.Batcher.run_append, ← messagesOf, told.log]
    rfl

/-- A line is answered if it holds a request, and changes nothing if it does not. -/
theorem next (told : Told m stamps file requests r) {line : List Char}
    (granted : ∀ x, Replay.requestOf line = some x → x.refused m = false) :
    ∃ r', r.next (stamps r.processed) line = .ok r' ∧
      Told m stamps file (requests ++ (Replay.requestOf line).toList) r' := by
  cases held : Replay.requestOf line with
  | none =>
    refine ⟨r, ?_, ?_⟩
    · rw [Replay.next, held]
    · rwa [Option.toList_none, List.append_nil]
  | some x =>
    have answer := x.process_answered told.clean.sound told.clean.depth
      (by rw [x.refused_alike told.alike, granted x held]) (stamps r.processed)
    have returns : (x.process (stamps r.processed) .unlimited r.monitor).1 ≠ .error .memory := by
      simp [answer]
    have restored := x.process_restored (stamps r.processed) .unlimited told.clean.sound returns
    have kept := x.process_alike (stamps r.processed) .unlimited r.monitor
    rw [x.report_alike told.alike] at answer
    rcases processed : x.process (stamps r.processed) .unlimited r.monitor with ⟨result, sink, m'⟩
    rw [processed] at answer restored kept
    cases answer
    refine ⟨_, ?_, told.answered (told.clean.restored restored) (told.alike.trans kept) x⟩
    rw [Replay.next, held]
    simp only [processed]

/-- A line whose request is refused ends the replay. -/
theorem next_refused (told : Told m stamps file requests r) {line : List Char} {x : Exchange}
    (held : Replay.requestOf line = some x) (refused : x.refused m = true) :
    r.next (stamps r.processed) line = .error .memory := by
  have failed := (x.process_refused told.clean.sound told.clean.depth
    (by rw [x.refused_alike told.alike, refused]) (stamps r.processed) .unlimited).1
  rw [Replay.next, held]
  rcases processed : x.process (stamps r.processed) .unlimited r.monitor with ⟨result, sink, m'⟩
  rw [processed] at failed
  cases failed
  simp only [processed]

/-- So lines that do not end a replay are answered one by one. -/
theorem run (told : Told m stamps file requests r) {lines : List Bytes} (passes : Passes m lines) :
    ∃ r', Replay.run stamps r lines = (none, r') ∧
      Told m stamps file (requests ++ lines.filterMap requestIn) r' := by
  induction lines generalizing requests r with
  | nil =>
    rw [List.filterMap_nil, List.append_nil]
    exact ⟨r, rfl, told⟩
  | cons line rest ih =>
    obtain ⟨here, later⟩ := List.forall_mem_cons.mp passes
    obtain ⟨text, granted⟩ := stopAt?_eq_none_iff.mp here
    obtain ⟨text, decoded⟩ := Option.isSome_iff_exists.mp text
    rw [requestIn, decoded, Option.bind_some] at granted
    obtain ⟨r₁, went, told₁⟩ := told.next granted
    obtain ⟨r', ran, last⟩ := ih told₁ later
    refine ⟨r', ?_, ?_⟩
    · rw [Replay.run, decoded]
      simp only [went, ran]
    · rw [filterMap_requestIn_cons decoded, ← List.append_assoc]
      exact last

/-- A line that ends a replay leaves what the lines before it have made of it. -/
theorem run_stopped (told : Told m stamps file requests r) {before : List Bytes} {line : Bytes}
    {cause : ReplayError} (passes : Passes m before) (stops : stopAt? m line = some cause)
    (after : List Bytes) :
    ∃ r', Replay.run stamps r (before ++ line :: after) = (some cause, r') ∧
      Told m stamps file (requests ++ before.filterMap requestIn) r' := by
  obtain ⟨r', ran, last⟩ := told.run passes
  refine ⟨r', ?_, last⟩
  rw [Replay.run_append, ran]
  simp only
  rw [Replay.run]
  cases decoded : Text.Utf8.decode? line with
  | none =>
    rw [stopAt?, decoded] at stops
    cases stops
    rfl
  | some text =>
    rw [stopAt?_of_text decoded] at stops
    obtain ⟨x, held, refused⟩ := Option.bind_eq_some_iff.mp stops
    split at refused
    · rename_i memory
      cases refused
      simp only [last.next_refused held memory]
    · contradiction

end Told

end

/-! ## Whole inputs -/

namespace Transcript

section

variable {config : Config} {moment : Moment} {file : Log.LogFile} {stamps : Nat → Log.Stamp}
  {input : Bytes}

/-- The reports of all requests of an input. -/
def reportsOf (config : Config) (moment : Moment) (stamps : Nat → Log.Stamp) (input : Bytes) :
    List (Outcome × Log.Record) :=
  reports (monitorAt config moment) stamps ((Text.linesOf input).filterMap requestIn)

theorem ofLog_of_pollable (pollable : ∃ poller, Poller.ofSettings config.policy = .ok poller) (moment : Moment)
    (file : Log.LogFile) : Replay.ofLog config moment (some file) = .ok (.start config moment file) := by
  obtain ⟨poller, made⟩ := pollable
  rw [Replay.ofLog, made]
  rfl

/-- An input none of whose lines ends the replay is replayed to its end. -/
theorem ofInput_reports (moment : Moment) (file : Log.LogFile) (stamps : Nat → Log.Stamp)
    (pollable : ∃ poller, Poller.ofSettings config.policy = .ok poller)
    (passes : Passes (monitorAt config moment) (Text.linesOf input)) :
    ofInput config moment (some file) stamps input =
      ⟨(reportsOf config moment stamps input).map Prod.fst,
        some ((Log.Batcher.ofFile file).run (messagesOf (reportsOf config moment stamps input))).2.close.2,
        none⟩ := by
  obtain ⟨r, ran, told⟩ := (Told.start config moment file stamps).run passes
  rw [List.nil_append] at told
  rw [ofInput, ofLog_of_pollable pollable]
  simp only [ran, Replay.finish, told.outcomes, told.log]
  rfl

/-- A line that ends the replay leaves the outcomes and the log as they are after the lines before it. -/
theorem ofInput_stopped (moment : Moment) (file : Log.LogFile) (stamps : Nat → Log.Stamp)
    (pollable : ∃ poller, Poller.ofSettings config.policy = .ok poller) {before after : List Bytes}
    {line : Bytes} {cause : ReplayError} (lines : Text.linesOf input = before ++ line :: after)
    (passes : Passes (monitorAt config moment) before)
    (stops : stopAt? (monitorAt config moment) line = some cause) :
    let told := reports (monitorAt config moment) stamps (before.filterMap requestIn)
    ofInput config moment (some file) stamps input =
      ⟨told.map Prod.fst, some ((Log.Batcher.ofFile file).run (messagesOf told)).2.exporter.file,
        some cause⟩ := by
  obtain ⟨r, ran, told⟩ := (Told.start config moment file stamps).run_stopped passes stops after
  rw [List.nil_append] at told
  rw [ofInput, ofLog_of_pollable pollable, lines]
  simp only [ran, told.outcomes, told.log]
  rfl

/-- A log that can be written has all records of reports in the end, and can still be written. -/
theorem log_of_reports {file : Log.LogFile} (writable : file.Writable)
    (reports : List (Outcome × Log.Record)) :
    let log := ((Log.Batcher.ofFile file).run (messagesOf reports)).2.close.2
    log.content = file.content ++ (reports.map Prod.snd).flatMap Log.Record.line ∧ log.Writable := by
  obtain ⟨content, rest, -⟩ := ((Log.Batcher.ofFile_keeps writable).run (messagesOf reports)).close
  rw [List.nil_append, ← Log.Message.records, records_messagesOf] at content
  exact ⟨content, rest⟩

section

variable (pollable : ∃ poller, Poller.ofSettings config.policy = .ok poller)

include pollable

end

end

end Transcript
end Command
end Turnstile
