import Turnstile.Proofs.Capture.Span
import Turnstile.Proofs.Exchange.Report
import Turnstile.Proofs.Policy.Roster
/-!
# The attributes of an exchange

Under a configured chain every attribute of a record is of the origin that its key shows: no header, by
whatever name, stands for a body or for what an evaluator says.
-/
namespace Turnstile.Capture.Monitor

variable {m : Monitor} {headers : Headers} {e : Write}

/-- Request headers are written only if they are captured, and under keys of their own. -/
theorem mem_requestHeaderWrites (mem : e ∈ m.requestHeaderWrites headers) :
    m.settings.headers.request = true ∧ Origin.ofKey e.1 = .requestHeader := by
  rw [requestHeaderWrites] at mem
  split at mem
  · rename_i captured
    obtain ⟨header, -, rfl⟩ := List.mem_map.mp mem
    exact ⟨captured, Origin.ofKey_requestHeaderKey header.1⟩
  · contradiction

theorem mem_responseHeaderWrites (mem : e ∈ m.responseHeaderWrites headers) :
    m.settings.headers.response = true ∧ Origin.ofKey e.1 = .responseHeader := by
  rw [responseHeaderWrites] at mem
  split at mem
  · rename_i captured
    obtain ⟨header, -, rfl⟩ := List.mem_map.mp mem
    exact ⟨captured, Origin.ofKey_responseHeaderKey header.1⟩
  · contradiction

end Turnstile.Capture.Monitor

namespace Turnstile.Exchange

open Policy Capture Turnstile.Stream

section

variable {x : Exchange} {m : Monitor}

/-- What a configured chain says stands under keys of its own. -/
theorem origin_verdictOn {roster : Roster} (configured : m.chain = roster.chain) (x : Exchange)
    (body : Option String) :
    ∀ e ∈ (x.verdictOn m body).attributes.entries, Origin.ofKey e.1 = .evaluator := by
  intro e mem
  rw [verdictOn, configured] at mem
  obtain ⟨s, -, -, listed⟩ := roster.judge_keys m.moment ⟨x.headers, body⟩ e mem
  have foreign : ∀ k : Kind, ∀ key ∈ k.keys, Origin.ofKey key = .evaluator := by
    intro k
    cases k <;> decide
  exact foreign s.kind e.1 listed

/-- What an exchange writes for one origin. -/
def written (x : Exchange) (m : Monitor) : Origin → List Write
  | .requestHeader => m.requestHeaderWrites x.headers
  | .requestBody =>
    if (x.ruling m).2 = .headers then []
    else ((x.judgedBody m.settings).map fun b => (requestBodyKey, b)).toList
  | .responseBody =>
    if (x.ruling m).2 = .complete then
      ((x.repliedBody m.settings).map fun b => (responseBodyKey, b)).toList
    else []
  | .responseHeader =>
    if (x.ruling m).2 = .complete then m.responseHeaderWrites x.replyHeaders else []
  | .evaluator =>
    (x.verdictOn m none).attributes.entries ++
      if (x.ruling m).2 = .headers then []
      else (x.judgedBody m.settings).elim [] fun b => (x.verdictOn m (some b)).attributes.entries

theorem headEvents_filter {roster : Roster} (configured : m.chain = roster.chain) (x : Exchange)
    (o : Origin) :
    (x.headEvents m).filter (Origin.ofKey ·.1 = o) =
      (if .requestHeader = o then m.requestHeaderWrites x.headers else []) ++
        if .evaluator = o then (x.verdictOn m none).attributes.entries else [] := by
  rw [headEvents, List.filter_append,
    filter_of_origin fun e mem => (Monitor.mem_requestHeaderWrites mem).2,
    filter_of_origin (origin_verdictOn configured x none)]

theorem bodyEvents_filter {roster : Roster} (configured : m.chain = roster.chain) (x : Exchange)
    (o : Origin) :
    (x.bodyEvents m).filter (Origin.ofKey ·.1 = o) =
      (if .requestBody = o then ((x.judgedBody m.settings).map fun b => (requestBodyKey, b)).toList
        else []) ++
        if .evaluator = o then (x.judgedBody m.settings).elim [] fun b =>
          (x.verdictOn m (some b)).attributes.entries
        else [] := by
  rw [bodyEvents]
  cases x.judgedBody m.settings with
  | none => simp
  | some b =>
    have own : ∀ e ∈ [(requestBodyKey, b)], Origin.ofKey e.1 = .requestBody := by
      simpa using Origin.ofKey_requestBodyKey
    rw [Option.elim_some, ← List.singleton_append, List.filter_append, filter_of_origin own,
      filter_of_origin (origin_verdictOn configured x (some b))]
    rfl

theorem replyEvents_filter (x : Exchange) (m : Monitor) (o : Origin) :
    (x.replyEvents m).filter (Origin.ofKey ·.1 = o) =
      (if .responseBody = o then ((x.repliedBody m.settings).map fun b => (responseBodyKey, b)).toList
        else []) ++
        if .responseHeader = o then m.responseHeaderWrites x.replyHeaders else [] := by
  have own : ∀ e ∈ ((x.repliedBody m.settings).map fun b => (responseBodyKey, b)).toList,
      Origin.ofKey e.1 = .responseBody := by
    intro e mem
    obtain ⟨b, -, rfl⟩ := Option.map_eq_some_iff.mp (Option.mem_toList.mp mem)
    exact Origin.ofKey_responseBodyKey
  rw [replyEvents, List.filter_append, filter_of_origin own,
    filter_of_origin fun e mem => (Monitor.mem_responseHeaderWrites mem).2]

/-- Under a configured chain all that is written under the keys of one origin has been written for it. -/
theorem events_filter {roster : Roster} (configured : m.chain = roster.chain) (x : Exchange)
    (o : Origin) : (x.events m).filter (Origin.ofKey ·.1 = o) = x.written m o := by
  rw [events]
  cases phase : (x.ruling m).2 <;>
    simp only [List.filter_append, headEvents_filter configured, bodyEvents_filter configured,
      replyEvents_filter] <;>
    cases o <;> simp [written, phase]

/-- So under a key stands the last thing written for the key's origin. -/
theorem get?_events {roster : Roster} (configured : m.chain = roster.chain) (x : Exchange)
    (key : String) :
    (Table.ofList (x.events m)).get? key = Table.lastValue? (x.written m (Origin.ofKey key)) key := by
  rw [Table.get?_ofList, ← lastValue?_filter_origin, events_filter configured]

/-- What stands under the keys of an exchange's attributes: under each of them what its own origin has
given, and nothing else. -/
structure Attributed (x : Exchange) (m : Monitor) (t : Table String) : Prop where
  requestHeader : ∀ name, t.get? (requestHeaderKey name) =
    if m.settings.headers.request then x.headers.get? name else none
  requestBody : t.get? requestBodyKey =
    if (x.ruling m).2 = .headers then none else x.judgedBody m.settings
  responseBody : t.get? responseBodyKey =
    if (x.ruling m).2 = .complete then x.repliedBody m.settings else none
  responseHeader : ∀ name, t.get? (responseHeaderKey name) =
    if (x.ruling m).2 = .complete ∧ m.settings.headers.response then x.replyHeaders.get? name else none
  /-- Under all other keys stands what the chain says, of the body if it has been judged, or else of the
  headers. -/
  evaluator : ∀ key, Origin.ofKey key = .evaluator → t.get? key =
    (if (x.ruling m).2 = .headers then none
      else (x.judgedBody m.settings).bind fun b => (x.verdictOn m (some b)).attributes.get? key).or
      ((x.verdictOn m none).attributes.get? key)

theorem attributed_events {roster : Roster} (configured : m.chain = roster.chain) (x : Exchange) :
    Attributed x m (Table.ofList (x.events m)) where
  requestHeader := by
    intro name
    rw [get?_events configured, Origin.ofKey_requestHeaderKey, written, Monitor.requestHeaderWrites]
    split
    · exact x.headers.lastValue?_map requestHeaderKey_inj name
    · rfl
  requestBody := by
    rw [get?_events configured, Origin.ofKey_requestBodyKey, written]
    split
    · rfl
    · exact Table.lastValue?_toList _ _
  responseBody := by
    rw [get?_events configured, Origin.ofKey_responseBodyKey, written]
    split
    · exact Table.lastValue?_toList _ _
    · rfl
  responseHeader := by
    intro name
    rw [get?_events configured, Origin.ofKey_responseHeaderKey, written, Monitor.responseHeaderWrites]
    by_cases complete : (x.ruling m).2 = .complete
    · by_cases shown : m.settings.headers.response = true
      · rw [if_pos complete, if_pos shown, if_pos ⟨complete, shown⟩]
        exact x.replyHeaders.lastValue?_map responseHeaderKey_inj name
      · rw [if_pos complete, if_neg shown, if_neg (fun both => shown both.2)]
        rfl
    · rw [if_neg complete, if_neg (fun both => complete both.1)]
      rfl
  evaluator := by
    intro key foreign
    rw [get?_events configured, foreign, written, Table.lastValue?_append, Table.lastValue?_entries]
    split
    · rfl
    · cases x.judgedBody m.settings with
      | none => rfl
      | some b => rw [Option.elim_some, Table.lastValue?_entries, Option.bind_some]

end

section

variable {x : Exchange} {stamp : Log.Stamp} {sink sink' : Sink} {m m' : Monitor} {o : Outcome}
  {record : Log.Record} {roster : Roster}

theorem process_attributes (sound : m.Sound) (idle : m.depth = .idle)
    (answered : x.process stamp sink m = (.ok (o, record), sink', m')) :
    record.attributes = Table.ofList (x.events m) :=
  congrArg (·.2.attributes) (process_report sound idle answered)

theorem process_attributed (sound : m.Sound) (idle : m.depth = .idle)
    (configured : m.chain = roster.chain)
    (answered : x.process stamp sink m = (.ok (o, record), sink', m')) :
    Attributed x m record.attributes := by
  rw [process_attributes sound idle answered]
  exact attributed_events configured x

end

/-- The record of an exchange that is answered is the overlay of its events, in the order in which they
happen, with the verdict that decides; the outcome says the same. Under a configured chain no event stands
over one of another origin, whatever names the headers have. -/
theorem process_recorded {x : Exchange} {stamp : Log.Stamp} {sink sink' : Sink} {m m' : Monitor}
    {o : Outcome} {record : Log.Record} (sound : m.Sound) (idle : m.depth = .idle)
    (answered : x.process stamp sink m = (.ok (o, record), sink', m')) :
    record.attributes = Table.ofList (x.events m) ∧
    record.ruling = some (.ofVerdict (x.ruling m).1) ∧
    o.attributes = record.attributes ∧ record.ruling = some ⟨o.blocked, o.status.code, o.reason⟩ ∧
    o.phase = (x.ruling m).2 ∧
    ∀ roster : Roster, m.chain = roster.chain → Attributed x m record.attributes := by
  obtain ⟨rfl, rfl⟩ := Prod.mk.inj (process_report sound idle answered)
  exact ⟨rfl, rfl, rfl, rfl, rfl, fun roster configured => attributed_events configured x⟩

/-- A header named as the body is recorded next to the body. -/
theorem process_recorded_of_named_header :
    let m := Monitor.start .default (Roster.mk []).chain ⟨none, 0⟩
    let x : Exchange := ⟨none, .ofList [(requestBodyKey, "a")], none, some .empty, none⟩
    ∃ o record sink' m', m.Sound ∧ m.depth = .idle ∧
      x.process default .unlimited m = (.ok (o, record), sink', m') ∧
      record.attributes.get? requestBodyKey = some "\x7b\x7d" ∧
      record.attributes.get? (requestHeaderKey requestBodyKey) = some "a" := by
  intro m x
  have sound : m.Sound := Monitor.start_sound _ _ _
  obtain ⟨o, record, sink', m', processed⟩ := process_exists sound rfl (x.refused_of_le (by decide)) default
  obtain ⟨-, -, -, -, -, attributed⟩ := process_recorded sound rfl processed
  have values := attributed (Roster.mk []) rfl
  have body : (if (x.ruling m).2 = .headers then none else x.judgedBody m.settings) =
      some "\x7b\x7d" := by decide
  have header : x.headers.get? requestBodyKey = some "a" := by decide
  exact ⟨o, record, sink', m', sound, rfl, processed, values.requestBody.trans body,
    (values.requestHeader requestBodyKey).trans header⟩

end Turnstile.Exchange
