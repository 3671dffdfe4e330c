import Turnstile.Proofs.Headers
import Turnstile.Proofs.Policy.Resolution
import Turnstile.Proofs.Policy.Roster
/-!
# What configured chains decide

The evaluators that can be configured report under different keys, and none of them looks at the body. So the
verdict of a chain is told by the enabled kinds, and but for the reason by their set (`judge_of_same_kinds`).
-/
namespace Turnstile.Policy

open Headers

namespace Verdict

/-- The first verdict that blocks gives the answer. -/
theorem combine_answer (verdicts : List Verdict) :
    (combine verdicts).status = ((verdicts.find? blocked).map status).getD .ok ∧
      (combine verdicts).reason = ((verdicts.find? blocked).map reason).getD "" := by
  cases found : verdicts.find? blocked with
  | none =>
    apply combine_plain
    rw [combine_blocked, List.any_eq_false]
    simpa using found
  | some w =>
    obtain ⟨blocks, before, after, rfl, passes⟩ := List.find?_eq_some_iff_append.mp found
    exact (combine_combines _).first before w after rfl (by simpa using passes) blocks

theorem ext_parts {v w : Verdict} (blocked : v.blocked = w.blocked) (status : v.status = w.status)
    (reason : v.reason = w.reason) (attributes : v.attributes = w.attributes) : v = w := by
  obtain ⟨_, _, _, _⟩ := v
  obtain ⟨_, _, _, _⟩ := w
  simp_all

end Verdict

/-! ## Kinds -/

namespace Kind

variable {moment : Moment} {pairs : List (String × String)}

/-- Whether an evaluator of a kind refuses a request with these headers. -/
def Refuses (moment : Moment) (pairs : List (String × String)) : Kind → Prop
  | .mock => ∃ e ∈ pairs, Text.sameLetters e.1 "mockblock" = true
  | .ipAddress => ∃ s, resolve moment.snapshot (ofList pairs) moment.now = .denylisted s

/-- The reason that an evaluator of a kind gives. -/
def refusal : Kind → String
  | .mock => "header 'mockblock' found"
  | .ipAddress => "client address is deny-listed"

/-- What an evaluator of a kind reports of a request with these headers. -/
def Reports (moment : Moment) (pairs : List (String × String)) (key value : String) : Kind → Prop
  | .mock => (∃ e ∈ pairs, Text.sameLetters e.1 "mockblock" = true) ∧
      key = "filter.mock.result" ∧ value = "true"
  | .ipAddress => ∃ s, value = ",".intercalate s.toList ∧
      (resolve moment.snapshot (ofList pairs) moment.now = .allowlisted s ∧ key = "policy.ip.allowlisted" ∨
        resolve moment.snapshot (ofList pairs) moment.now = .denylisted s ∧ key = "policy.ip.denylisted")

theorem judge_blocked_iff {k : Kind} {body : Option String} :
    (k.evaluator.judge moment ⟨ofList pairs, body⟩).blocked = true ↔ k.Refuses moment pairs := by
  cases k with
  | mock =>
    show (judgeMock ⟨ofList pairs, body⟩).blocked = true ↔ _
    rw [Refuses, ← contains_ofList_iff, judgeMock]
    by_cases marked : (ofList pairs).contains "mockblock" = true
    · simp [marked, Verdict.block, Verdict.withAttribute]
    · simp [marked, Verdict.allow]
  | ipAddress =>
    show (judgeAddress moment ⟨ofList pairs, body⟩).blocked = true ↔ _
    rw [Refuses, judgeAddress_blocked, ← admits_eq_false_iff, Bool.not_eq_true']

theorem judge_answer {k : Kind} {request : Request}
    (blocked : (k.evaluator.judge moment request).blocked = true) :
    (k.evaluator.judge moment request).status = .forbidden ∧
      (k.evaluator.judge moment request).reason = k.refusal := by
  cases k with
  | mock =>
    have blocks : (judgeMock request).blocked = true := blocked
    show (judgeMock request).status = _ ∧ (judgeMock request).reason = _
    rw [judgeMock] at blocks ⊢
    split at blocks
    · rename_i marked
      rw [if_pos marked]
      exact ⟨rfl, rfl⟩
    · cases blocks
  | ipAddress =>
    have blocks : (judgeAddress moment request).blocked = true := blocked
    rw [judgeAddress_blocked, Bool.not_eq_true', admits_eq_false_iff] at blocks
    obtain ⟨s, said⟩ := blocks
    show (judgeAddress moment request).status = _ ∧ (judgeAddress moment request).reason = _
    rw [judgeAddress_of_denylisted said]
    exact ⟨rfl, rfl⟩

theorem get?_judge_iff {k : Kind} {body : Option String} {key value : String} :
    (k.evaluator.judge moment ⟨ofList pairs, body⟩).attributes.get? key = some value ↔
      k.Reports moment pairs key value := by
  have single : ∀ name text : String, (Table.empty.insert name text).get? key = some value ↔
      key = name ∧ value = text := by
    intro name text
    rw [Table.get?_insert]
    by_cases here : key = name <;> simp [here, eq_comm, Table.empty, Table.get?]
  cases k with
  | mock =>
    show (judgeMock ⟨ofList pairs, body⟩).attributes.get? key = some value ↔ _
    rw [Reports, ← contains_ofList_iff, judgeMock]
    by_cases marked : (ofList pairs).contains "mockblock" = true
    · simpa [marked, Verdict.block, Verdict.withAttribute] using single _ _
    · simp [marked, Verdict.allow, Table.empty, Table.get?]
  | ipAddress =>
    show (judgeAddress moment ⟨ofList pairs, body⟩).attributes.get? key = some value ↔ _
    rw [Reports, judgeAddress]
    cases resolve moment.snapshot (ofList pairs) moment.now with
    | allowlisted s => simpa [Verdict.allow, Verdict.withAttribute, and_comm] using single _ _
    | denylisted s => simpa [Verdict.block, Verdict.withAttribute, and_comm] using single _ _
    | unlisted => simp [Verdict.allow, Table.empty, Table.get?]

theorem judge_bodiless (k : Kind) (moment : Moment) (h : Headers) (body body' : Option String) :
    k.evaluator.judge moment ⟨h, body⟩ = k.evaluator.judge moment ⟨h, body'⟩ := by
  cases k <;> rfl

theorem eq_of_mem_keys {j k : Kind} {key : String} (first : key ∈ j.keys) (second : key ∈ k.keys) : j = k := by
  cases j <;> cases k <;> simp_all [keys]

end Kind

/-! ## Rosters -/

namespace Roster

variable {r r' : Roster} {moment : Moment} {request : Request} {k : Kind}

/-- The kinds that are enabled, in order. -/
def kinds (r : Roster) : List Kind := (r.evaluators.filter Selection.enabled).map Selection.kind

theorem mem_kinds : k ∈ r.kinds ↔ ⟨k, true⟩ ∈ r.evaluators := by
  rw [kinds, List.mem_map]
  constructor
  · rintro ⟨⟨_, enabled⟩, mem, rfl⟩
    obtain ⟨listed, on⟩ := List.mem_filter.mp mem
    cases (on : enabled = true)
    exact listed
  · exact fun listed => ⟨⟨k, true⟩, List.mem_filter.mpr ⟨listed, rfl⟩, rfl⟩

theorem kinds_append (first second : List Selection) :
    kinds ⟨first ++ second⟩ = kinds ⟨first⟩ ++ kinds ⟨second⟩ := by
  rw [kinds, List.filter_append, List.map_append]
  rfl

theorem chain_names (r : Roster) :
    r.chain.names = (r.evaluators.filter Selection.enabled).map fun s => s.kind.name := List.map_map

theorem verdicts_chain (r : Roster) (moment : Moment) (request : Request) :
    r.chain.verdicts moment request = r.kinds.map fun k => k.evaluator.judge moment request := by
  rw [kinds, List.map_map]
  exact List.map_map

theorem judge_bodiless (r : Roster) (moment : Moment) (h : Headers) (body body' : Option String) :
    r.chain.judge moment ⟨h, body⟩ = r.chain.judge moment ⟨h, body'⟩ := by
  simp only [Chain.judge_eq, verdicts_chain, Kind.judge_bodiless _ moment h body body']

theorem judge_blocked_iff : (r.chain.judge moment request).blocked = true ↔
    ∃ k ∈ r.kinds, (k.evaluator.judge moment request).blocked = true := by
  rw [Chain.judge_eq, Verdict.combine_blocked, verdicts_chain, List.any_map, List.any_eq_true]
  rfl

/-- The kind that answers for the chain: the first that blocks. -/
def answering? (r : Roster) (moment : Moment) (request : Request) : Option Kind :=
  r.kinds.find? fun k => (k.evaluator.judge moment request).blocked

theorem answering?_blocked (found : r.answering? moment request = some k) :
    (k.evaluator.judge moment request).blocked = true :=
  List.find?_some (p := fun k : Kind => (k.evaluator.judge moment request).blocked) found

theorem find?_verdicts (r : Roster) (moment : Moment) (request : Request) :
    (r.chain.verdicts moment request).find? Verdict.blocked =
      (r.answering? moment request).map fun k => k.evaluator.judge moment request := by
  rw [verdicts_chain, List.find?_map]
  rfl

theorem judge_reason (r : Roster) (moment : Moment) (request : Request) :
    (r.chain.judge moment request).reason = ((r.answering? moment request).map Kind.refusal).getD "" := by
  rw [Chain.judge_eq, (Verdict.combine_answer _).2, find?_verdicts]
  cases found : r.answering? moment request with
  | none => rfl
  | some k => exact (Kind.judge_answer (answering?_blocked found)).2

theorem judge_status (r : Roster) (moment : Moment) (request : Request) :
    (r.chain.judge moment request).status =
      if (r.chain.judge moment request).blocked = true then .forbidden else .ok := by
  by_cases blocked : (r.chain.judge moment request).blocked = true
  · obtain ⟨k, mem, blocks⟩ := judge_blocked_iff.mp blocked
    rw [if_pos blocked, Chain.judge_eq, (Verdict.combine_answer _).1, find?_verdicts]
    cases found : r.answering? moment request with
    | none => exact absurd blocks (List.find?_eq_none.mp found k mem)
    | some k => exact (Kind.judge_answer (answering?_blocked found)).1
  · rw [if_neg blocked]
    exact (Chain.judge_plain r.chain moment request (by simpa using blocked)).1

/-- A key has the value that one enabled kind gives it: no other reports under it. -/
theorem get?_judge_iff {key value : String} :
    (r.chain.judge moment request).attributes.get? key = some value ↔
      ∃ k ∈ r.kinds, (k.evaluator.judge moment request).attributes.get? key = some value := by
  rw [Chain.judge_eq, Verdict.combine_attributes, verdicts_chain, ← List.map_reverse]
  have listed : ∀ k : Kind, ∀ value, (k.evaluator.judge moment request).attributes.get? key = some value →
      key ∈ k.keys := by
    intro k value found
    exact k.judge_keys moment request (key, value) (Table.mem_of_get? found)
  constructor
  · intro found
    obtain ⟨v, mem, reported⟩ := List.exists_of_findSome?_eq_some found
    obtain ⟨k, chosen, rfl⟩ := List.mem_map.mp mem
    exact ⟨k, List.mem_reverse.mp chosen, reported⟩
  · rintro ⟨k, chosen, reported⟩
    cases found : (r.kinds.reverse.map fun k => k.evaluator.judge moment request).findSome?
        fun v => v.attributes.get? key with
    | none =>
      have nothing := List.findSome?_eq_none_iff.mp found _
        (List.mem_map_of_mem (List.mem_reverse.mpr chosen))
      rw [reported] at nothing
      cases nothing
    | some value' =>
      obtain ⟨v, mem, reported'⟩ := List.exists_of_findSome?_eq_some found
      obtain ⟨j, -, rfl⟩ := List.mem_map.mp mem
      obtain rfl := Kind.eq_of_mem_keys (listed j _ reported') (listed k _ reported)
      rw [← reported', reported]

/-- Which kinds are enabled decides all but the reason. -/
theorem judge_of_same_kinds (same : ∀ k, k ∈ r.kinds ↔ k ∈ r'.kinds) (moment : Moment) (request : Request) :
    (r.chain.judge moment request).blocked = (r'.chain.judge moment request).blocked ∧
      (r.chain.judge moment request).status = (r'.chain.judge moment request).status ∧
      (r.chain.judge moment request).attributes = (r'.chain.judge moment request).attributes := by
  have blocked : (r.chain.judge moment request).blocked = (r'.chain.judge moment request).blocked := by
    rw [Bool.eq_iff_iff]
    simp only [judge_blocked_iff, same]
  refine ⟨blocked, by rw [judge_status, blocked, ← judge_status], Table.ext_get? fun key => Option.ext fun value => ?_⟩
  simp only [get?_judge_iff, same]

theorem judge_of_kinds (same : r.kinds = r'.kinds) (moment : Moment) (request : Request) :
    r.chain.judge moment request = r'.chain.judge moment request := by
  simp only [Chain.judge_eq, verdicts_chain, same]

/-- And the first of them to block, if any, decides the reason. -/
theorem judge_congr (same : ∀ k, k ∈ r.kinds ↔ k ∈ r'.kinds)
    (first : r.answering? moment request = r'.answering? moment request) :
    r.chain.judge moment request = r'.chain.judge moment request := by
  obtain ⟨blocked, status, attributes⟩ := judge_of_same_kinds same moment request
  exact Verdict.ext_parts blocked status (by rw [judge_reason, first, judge_reason]) attributes

/-- An entry that stands in a roster already is not asked for anything new. -/
theorem judge_repeated (before middle after : List Selection) (s : Selection) (moment : Moment)
    (request : Request) :
    (chain ⟨before ++ s :: (middle ++ s :: after)⟩).judge moment request =
      (chain ⟨before ++ s :: (middle ++ after)⟩).judge moment request := by
  obtain ⟨k, enabled⟩ := s
  cases enabled with
  | false =>
    apply judge_of_kinds
    simp [kinds]
  | true =>
    have cut : ∀ rest : List Selection, kinds ⟨⟨k, true⟩ :: rest⟩ = k :: kinds ⟨rest⟩ := fun _ => rfl
    apply judge_congr
    · intro j
      simp only [kinds_append, cut, List.mem_append, List.mem_cons]
      tauto
    · simp only [answering?, kinds_append, cut, List.find?_append, List.find?_cons]
      cases (k.evaluator.judge moment request).blocked <;> simp

/-- The verdict of a configured chain on a request with these headers. -/
structure Settles (r : Roster) (moment : Moment) (pairs : List (String × String)) (v : Verdict) : Prop where
  blocked : v.blocked = true ↔ ∃ k, ⟨k, true⟩ ∈ r.evaluators ∧ k.Refuses moment pairs
  status : v.status.code = if v.blocked = true then 403 else 200
  /-- The first enabled kind that refuses the request gives the reason. -/
  reason : ∀ before k after, r.evaluators = before ++ ⟨k, true⟩ :: after →
    (∀ j, ⟨j, true⟩ ∈ before → ¬ j.Refuses moment pairs) → k.Refuses moment pairs → v.reason = k.refusal
  silent : v.blocked = false → v.reason = ""
  attributes : ∀ key value, v.attributes.get? key = some value ↔
    ∃ k, ⟨k, true⟩ ∈ r.evaluators ∧ k.Reports moment pairs key value

/-- What does not change the verdict of a configured chain. -/
structure Insensitive (r : Roster) (moment : Moment) (request : Request) : Prop where
  repeated : ∀ before s middle after, r.evaluators = before ++ s :: (middle ++ after) →
    (chain ⟨before ++ s :: (middle ++ s :: after)⟩).judge moment request = r.chain.judge moment request
  disabled : ∀ r' : Roster,
    r'.evaluators.filter Selection.enabled = r.evaluators.filter Selection.enabled →
    r'.chain.judge moment request = r.chain.judge moment request
  /-- Another order can change the reason. -/
  reordered : ∀ r' : Roster, r'.evaluators.Perm r.evaluators →
    ∃ reason, r'.chain.judge moment request = { r.chain.judge moment request with reason := reason }
  body : ∀ body, r.chain.judge moment ⟨request.headers, body⟩ = r.chain.judge moment request

theorem judge_settles (r : Roster) (moment : Moment) (pairs : List (String × String)) (body : Option String) :
    Settles r moment pairs (r.chain.judge moment ⟨ofList pairs, body⟩) where
  blocked := by
    rw [judge_blocked_iff]
    simp only [mem_kinds, Kind.judge_blocked_iff]
  status := by
    rw [judge_status]
    split <;> rfl
  reason := by
    intro before k after whole others refuses
    have cut : r.kinds = kinds ⟨before⟩ ++ k :: kinds ⟨after⟩ := by
      obtain ⟨_⟩ := r
      cases whole
      exact kinds_append before (⟨k, true⟩ :: after)
    have first : r.answering? moment ⟨ofList pairs, body⟩ = some k := by
      rw [answering?, List.find?_eq_some_iff_append]
      refine ⟨Kind.judge_blocked_iff.mpr refuses, _, _, cut, fun j earlier => ?_⟩
      have passes : ¬ (j.evaluator.judge moment ⟨ofList pairs, body⟩).blocked = true := fun blocked =>
        others j (mem_kinds.mp earlier) (Kind.judge_blocked_iff.mp blocked)
      simpa using passes
    rw [judge_reason, first]
    rfl
  silent passes := (Chain.judge_plain r.chain moment _ passes).2
  attributes := by
    intro key value
    rw [get?_judge_iff]
    simp only [mem_kinds, Kind.get?_judge_iff]

theorem judge_insensitive (r : Roster) (moment : Moment) (request : Request) :
    Insensitive r moment request where
  repeated := by
    intro before s middle after whole
    obtain ⟨_⟩ := r
    cases whole
    exact judge_repeated before middle after s moment request
  disabled := by
    intro r' same
    exact judge_of_kinds (congrArg (List.map Selection.kind) same) moment request
  reordered := by
    intro r' perm
    have same : ∀ k, k ∈ r'.kinds ↔ k ∈ r.kinds := fun k => by rw [mem_kinds, mem_kinds, perm.mem_iff]
    obtain ⟨blocked, status, attributes⟩ := judge_of_same_kinds same moment request
    exact ⟨(r'.chain.judge moment request).reason, Verdict.ext_parts blocked status rfl attributes⟩
  body body := judge_bodiless r moment request.headers body request.body

/-- The evaluators of a configured chain are the enabled ones, in order. They settle its verdict, in which no
repeated and no disabled entry counts, nor the body: what passes without its body passes with it. -/
theorem judge_configured (r : Roster) (moment : Moment) (pairs : List (String × String)) :
    r.chain.names = (r.evaluators.filter Selection.enabled).map (fun s => s.kind.name) ∧
    (∀ body, Settles r moment pairs (r.chain.judge moment ⟨ofList pairs, body⟩) ∧
      Insensitive r moment ⟨ofList pairs, body⟩) ∧
    ((r.chain.judge moment ⟨ofList pairs, none⟩).blocked = false →
      ∀ body, (r.chain.judge moment ⟨ofList pairs, body⟩).blocked = false) := by
  refine ⟨chain_names r, fun body => ⟨judge_settles r moment pairs body, judge_insensitive r moment _⟩, ?_⟩
  intro passes body
  rw [judge_bodiless r moment _ body none, passes]

/-- Of two kinds that both refuse a request, the one that is enabled first gives the reason. -/
theorem judge_configured_twice_refused :
    let pairs := [("MockBlock", "1"), ("X-Real-IP", "10.0.0.9")]
    let moment : Moment := ⟨some ⟨[], [⟨NameSet.ofList ["10.0.0.9"], none⟩]⟩, 0⟩
    let r : Roster := ⟨[⟨.mock, false⟩, ⟨.ipAddress, true⟩, ⟨.mock, true⟩]⟩
    (r.chain.judge moment ⟨ofList pairs, none⟩).reason = "client address is deny-listed" ∧
      (r.chain.judge moment ⟨ofList pairs, none⟩).blocked = true := by
  intro pairs moment r
  obtain ⟨-, settled, -⟩ := judge_configured r moment pairs
  obtain ⟨settles, -⟩ := settled none
  have denied : Kind.ipAddress.Refuses moment pairs := ⟨NameSet.ofList ["10.0.0.9"], by decide⟩
  refine ⟨settles.reason [⟨.mock, false⟩] .ipAddress [⟨.mock, true⟩] rfl (by simp) denied, ?_⟩
  exact settles.blocked.mpr ⟨.ipAddress, by simp [r], denied⟩

end Roster
end Turnstile.Policy
