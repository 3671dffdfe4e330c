import Turnstile.Proofs.Command.Agreement
import Turnstile.Proofs.Log.Flush
/-!
# Lines that hold no request

Blank lines, broken JSON and JSON of another shape are skipped: without them a replay is the same. A line that
is no text is not skipped but ends the replay, and so does a request that is refused memory. The lines behind
it are not answered, and the records that wait for an export do not go out (`ofInput_skips`).
-/
namespace Turnstile.Command

open Policy Capture

/-! ## Lines -/

/-- The line changes a replay: it holds a request, or it is no text and ends the replay. -/
def counts (line : Bytes) : Bool := (requestIn line).isSome || (Text.Utf8.decode? line).isNone

theorem requestIn_encode (text : List Char) : requestIn (Text.Utf8.encode text) = Replay.requestOf text := by
  rw [requestIn, Text.Utf8.decode?_encode, Option.bind_some]

/-! ## A replay under way -/

namespace Replay

/-- Without the texts that hold no request a replay is the same. -/
theorem run_filter_counts (stamps : Nat → Log.Stamp) (r : Replay) (lines : List Bytes) :
    run stamps r (lines.filter counts) = run stamps r lines := by
  induction lines generalizing r with
  | nil => rfl
  | cons line rest ih =>
    cases decoded : Text.Utf8.decode? line with
    | none =>
      have ends : counts line = true := by simp [counts, decoded]
      rw [List.filter_cons_of_pos ends, run, run, decoded]
    | some text =>
      have held : requestIn line = requestOf text := by rw [requestIn, decoded, Option.bind_some]
      cases request : requestOf text with
      | none =>
        have skipped : ¬counts line = true := by simp [counts, decoded, held, request]
        have nothing : r.next (stamps r.processed) text = .ok r := by rw [next, request]
        rw [List.filter_cons_of_neg skipped, ih, run, decoded]
        simp only [nothing]
      | some x =>
        have answered : counts line = true := by simp [counts, held, request]
        rw [List.filter_cons_of_pos answered, run, run, decoded]
        simp only [ih]

end Replay

/-! ## Whole inputs -/

namespace Transcript

/-- What a replay over this span log makes of the lines of its input. -/
structure Skips (config : Config) (moment : Moment) (file : Log.LogFile) (stamps : Nat → Log.Stamp)
    (input : Bytes) : Prop where
  held : ∀ (line : Bytes) (x : Exchange), requestIn line = some x ↔
    ∃ text, Text.Utf8.decode? line = some text ∧ Exchange.ofText (String.ofList text) = .ok x
  /-- Without the texts that hold no request the replay is the same. -/
  skipped : ofInput config moment (some file) stamps (Text.joinLines ((Text.linesOf input).filter counts)) =
    ofInput config moment (some file) stamps input
  /-- Under a limit that memory can hold, only lines that are no text end a replay. -/
  texts : config.capture.bodyLimit ≤ roomLimit → ∀ line : Bytes,
    stopAt? (monitorAt config moment) line = none ↔
      (Text.Utf8.decode? line).isSome = true
  /-- If no line ends the replay, each request is answered and has its record in the log. -/
  complete : Passes (monitorAt config moment) (Text.linesOf input) →
    let t := ofInput config moment (some file) stamps input
    let told := reportsOf config moment stamps input
    t.error = none ∧ t.outcomes = told.map Prod.fst ∧ (file.Writable →
      t.log.map Log.LogFile.content = some (file.content ++ (told.map Prod.snd).flatMap Log.Record.line))
  /-- The first line that ends the replay leaves the outcomes of the requests before it, and of their records
  the log has as many as went out until then. -/
  stopped : ∀ (before after : List Bytes) (line : Bytes) (cause : ReplayError),
    Text.linesOf input = before ++ line :: after →
    Passes (monitorAt config moment) before →
    stopAt? (monitorAt config moment) line = some cause →
    let t := ofInput config moment (some file) stamps input
    let told := reports (monitorAt config moment) stamps (before.filterMap requestIn)
    t.error = some cause ∧ t.outcomes = told.map Prod.fst ∧ (file.Writable → ∃ out, out <+: told.map Prod.snd ∧
      t.log.map Log.LogFile.content = some (file.content ++ out.flatMap Log.Record.line))

variable {config : Config} {moment : Moment} {file : Log.LogFile} {stamps : Nat → Log.Stamp} {input : Bytes}

section

variable (pollable : ∃ poller, Poller.ofSettings config.policy = .ok poller)

include pollable

theorem ofInput_filter_counts (moment : Moment) (file : Log.LogFile) (stamps : Nat → Log.Stamp) (input : Bytes) :
    ofInput config moment (some file) stamps (Text.joinLines ((Text.linesOf input).filter counts)) =
      ofInput config moment (some file) stamps input := by
  have plain : ∀ line ∈ (Text.linesOf input).filter counts, 10 ∉ line :=
    fun line mem => Text.plain_of_mem_linesOf (List.mem_filter.mp mem).1
  rw [ofInput, ofInput, ofLog_of_pollable pollable, Text.linesOf_joinLines plain]
  simp only [Replay.run_filter_counts]

/-- A replay skips the texts that hold no request, wherever they stand, and stops at a line that is no text or
whose request is refused memory. -/
theorem ofInput_skips (moment : Moment) (file : Log.LogFile) (stamps : Nat → Log.Stamp) (input : Bytes) :
    Skips config moment file stamps input where
  held _ _ := requestIn_eq_some_iff
  skipped := ofInput_filter_counts pollable moment file stamps input
  texts fits _ := stopAt?_eq_none_iff_of_le fits
  complete := by
    intro passes t told
    have acts : t = _ := ofInput_reports moment file stamps pollable passes
    rw [acts]
    refine ⟨rfl, rfl, fun writable => ?_⟩
    rw [Option.map_some, (log_of_reports writable _).1]
  stopped := by
    intro before after line cause lines passes stops t told
    have acts : t = _ := ofInput_stopped moment file stamps pollable lines passes stops
    rw [acts]
    refine ⟨rfl, rfl, fun writable => ?_⟩
    obtain ⟨out, all, content⟩ := Log.Batcher.run_exported writable (messagesOf told)
    rw [records_messagesOf] at all
    exact ⟨out, ⟨_, all⟩, congrArg some content⟩

end

theorem pollable_default : ∃ poller, Poller.ofSettings Config.default.policy = .ok poller := ⟨_, rfl⟩

/-- Of a request, broken JSON, a blank line and a request both requests are answered. -/
theorem ofInput_skips_between_requests :
    let lines := ["\x7b\x7d", "x", "\u00a0 ", "\x7b\x7d"].map fun line => Text.Utf8.encode line.toList
    let t := ofInput .default ⟨none, 0⟩ (some (.ofContent [])) (fun _ => default) (Text.joinLines lines)
    (∃ poller, Poller.ofSettings Config.default.policy = .ok poller) ∧ t.error = none ∧ t.outcomes.length = 2 := by
  intro lines t
  have skips : Skips .default ⟨none, 0⟩ (.ofContent []) (fun _ => default) (Text.joinLines lines) :=
    ofInput_skips pollable_default ⟨none, 0⟩ (.ofContent []) (fun _ => default) (Text.joinLines lines)
  have cut : Text.linesOf (Text.joinLines lines) = lines := by decide
  have passes : Passes (monitorAt .default ⟨none, 0⟩) (Text.linesOf (Text.joinLines lines)) := by
    intro line mem
    rw [cut] at mem
    obtain ⟨text, -, rfl⟩ := List.mem_map.mp mem
    rw [skips.texts (by decide), Text.Utf8.decode?_encode, Option.isSome_some]
  have requests : (lines.filterMap requestIn).length = 2 := by
    simp only [lines, List.map_cons, List.map_nil, List.filterMap_cons, List.filterMap_nil, requestIn_encode]
    decide
  obtain ⟨ended, outcomes, -⟩ := skips.complete passes
  refine ⟨pollable_default, ended, ?_⟩
  rw [show t.outcomes = _ from outcomes, List.length_map, reportsOf, cut, reports, List.length_mapIdx, requests]

/-- A configuration whose limit for bodies is the largest one that can be configured. -/
def unbounded : Config := { Config.default with capture := { Settings.default with bodyLimit := Nat.pow 2 64 - 1 } }

/-- Behind a byte that is no text a request is not answered, and the log has no record of it. Nor is a request
behind an `x` if the limit asks for more memory than its body can be granted. -/
theorem request_behind_flaw_unanswered :
    let input : Bytes := [255, 10, 123, 125, 10]
    let t := ofInput .default ⟨none, 0⟩ (some (.ofContent [])) (fun _ => default) input
    let request : Json := .object [("headers", .object [("content-type", .string "application/json")]),
      ("body", .string "\x7b\x7d")]
    let behind : Bytes := Text.joinLines [[120], Text.Utf8.encode request.chars]
    let u := ofInput unbounded ⟨none, 0⟩ (some (.ofContent [])) (fun _ => default) behind
    (∃ poller, Poller.ofSettings Config.default.policy = .ok poller) ∧
      Text.linesOf input = [[255], [123, 125]] ∧ Text.Utf8.decode? [255] = none ∧
      (requestIn [123, 125]).isSome = true ∧ t.error = some .input ∧ t.outcomes = [] ∧
      t.log.map Log.LogFile.content = some [] ∧
      Text.linesOf behind = [[120], Text.Utf8.encode request.chars] ∧
      (requestIn (Text.Utf8.encode request.chars)).isSome = true ∧ u.error = some .memory ∧
      u.outcomes = [] ∧ u.log.map Log.LogFile.content = some [] := by
  intro input t request behind u
  have lines : Text.linesOf input = [] ++ [255] :: [[123, 125]] := by decide
  have broken : Text.Utf8.decode? [255] = none := by
    simp [Text.Utf8.decode?, Text.Utf8.pieces, Text.Utf8.piecesOnto, Text.Utf8.next, Text.Utf8.width]
  have held : (requestIn [123, 125]).isSome = true := by
    rw [show ([123, 125] : Bytes) = Text.Utf8.encode ['\x7b', '\x7d'] from rfl, requestIn_encode]
    decide
  have stops : t = ⟨[], some (.ofContent []), some .input⟩ :=
    ofInput_stopped ⟨none, 0⟩ (.ofContent []) (fun _ => default) pollable_default lines (List.forall_mem_nil _)
      (by rw [stopAt?, broken])
  have cut : Text.linesOf behind = [[120]] ++ Text.Utf8.encode request.chars :: [] := by decide +kernel
  have unheld : requestIn [120] = none := by
    rw [show ([120] : Bytes) = Text.Utf8.encode ['x'] from rfl, requestIn_encode]
    decide
  have skipped : stopAt? (monitorAt unbounded ⟨none, 0⟩) [120] = none := by
    rw [show ([120] : Bytes) = Text.Utf8.encode ['x'] from rfl,
      stopAt?_of_text (Text.Utf8.decode?_encode ['x'])]
    decide
  have heldBehind : (requestIn (Text.Utf8.encode request.chars)).isSome = true := by
    rw [requestIn_encode]
    decide +kernel
  have refused : stopAt? (monitorAt unbounded ⟨none, 0⟩)
      (Text.Utf8.encode request.chars) = some .memory := by
    rw [stopAt?_of_text (Text.Utf8.decode?_encode request.chars)]
    decide +kernel
  have stopsBehind : u = ⟨[], some (.ofContent []), some .memory⟩ := by
    have acts : u = _ := ofInput_stopped ⟨none, 0⟩ (.ofContent []) (fun _ => default) ⟨_, rfl⟩ cut
      (List.forall_mem_singleton.mpr skipped) refused
    rw [acts, List.filterMap_cons_none unheld]
    rfl
  rw [stops, stopsBehind]
  exact ⟨pollable_default, lines, broken, held, rfl, rfl, rfl, cut, heldBehind, rfl, rfl, rfl⟩

end Transcript
end Turnstile.Command
