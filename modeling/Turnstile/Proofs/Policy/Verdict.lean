import Turnstile.Proofs.Policy.Chain
import Turnstile.Proofs.Table
/-!
# The algebra of verdicts

Each part of a combined verdict follows a rule of its own: it blocks if any verdict does, the first that
blocks gives status and reason, and the last that has a key gives its value (`Combines`). Merging is
associative, so a chain can be cut anywhere (`combine_append`) and grow anywhere (`combine_grown`).
-/
namespace Turnstile.Policy

namespace Verdict

variable {u v w : Verdict} {verdicts : List Verdict}

theorem merge_attributes (v w : Verdict) : (v.merge w).attributes = v.attributes.overlay w.attributes := by
  rw [merge]
  split <;> rfl

theorem merge_blocked (v w : Verdict) : (v.merge w).blocked = (v.blocked || w.blocked) := by
  rw [merge]
  cases v.blocked <;> cases w.blocked <;> rfl

/-- A verdict that blocks keeps its answer. -/
theorem merge_of_blocked (blocked : v.blocked = true) (w : Verdict) :
    v.merge w = { v with attributes := v.attributes.overlay w.attributes } := by
  rw [merge, if_neg (by simp [blocked])]

theorem merge_of_passes (passes : w.blocked = false) (v : Verdict) :
    v.merge w = { v with attributes := v.attributes.overlay w.attributes } := by
  rw [merge, if_neg (by simp [passes])]

theorem merge_of_first (passes : v.blocked = false) (blocked : w.blocked = true) :
    v.merge w = { w with attributes := v.attributes.overlay w.attributes } := by
  rw [merge, if_pos (by simp [passes, blocked]), blocked]

theorem merge_allow (v : Verdict) : v.merge allow = v := merge_of_passes rfl v

/-- The answer of three verdicts is that of the first that blocks, however they are put together; their
attributes lie over each other in one order. -/
theorem merge_assoc (u v w : Verdict) : (u.merge v).merge w = u.merge (v.merge w) := by
  obtain ⟨first, _, _, _⟩ := u
  obtain ⟨second, _, _, _⟩ := v
  obtain ⟨third, _, _, _⟩ := w
  cases first <;> cases second <;> cases third <;> simp [merge, Table.overlay_assoc]

/-! ## Lists of verdicts -/

theorem foldl_merge (v : Verdict) (verdicts : List Verdict) :
    verdicts.foldl merge v = v.merge (combine verdicts) := by
  induction verdicts generalizing v with
  | nil => exact (merge_allow v).symm
  | cons w rest ih =>
    have later : combine (w :: rest) = (allow.merge w).merge (combine rest) := ih _
    rw [List.foldl_cons, ih, later, ← merge_assoc, ← merge_assoc, merge_allow]

theorem combine_append (first second : List Verdict) :
    combine (first ++ second) = (combine first).merge (combine second) := by
  rw [combine, List.foldl_append, foldl_merge]
  rfl

theorem combine_cons (v : Verdict) (rest : List Verdict) :
    combine (v :: rest) = (allow.merge v).merge (combine rest) := foldl_merge _ rest

theorem combine_blocked (verdicts : List Verdict) :
    (combine verdicts).blocked = verdicts.any Verdict.blocked := by
  induction verdicts with
  | nil => rfl
  | cons v rest ih =>
    rw [combine_cons, merge_blocked, merge_blocked, ih, List.any_cons]
    rfl

theorem combine_attributes (verdicts : List Verdict) (key : String) :
    (combine verdicts).attributes.get? key =
      verdicts.reverse.findSome? fun v => v.attributes.get? key := by
  induction verdicts with
  | nil => rfl
  | cons v rest ih =>
    rw [combine_cons, merge_attributes, merge_attributes, Table.get?_overlay, Table.get?_overlay, ih,
      List.reverse_cons, List.findSome?_append]
    have nothing : allow.attributes.get? key = none := rfl
    simp [nothing]

/-- What is said of a request by one verdict that stands for several. -/
structure Combines (verdicts : List Verdict) (v : Verdict) : Prop where
  blocked : v.blocked = true ↔ ∃ w ∈ verdicts, w.blocked = true
  /-- The first verdict that blocks gives the answer. -/
  first : ∀ before w after, verdicts = before ++ w :: after → (∀ u ∈ before, u.blocked = false) →
    w.blocked = true → v.status = w.status ∧ v.reason = w.reason
  /-- What passes says nothing, whatever its verdicts say. -/
  passing : v.blocked = false → v.status.code = 200 ∧ v.reason = ""
  /-- A key has its value from the last verdict that has it. -/
  last : ∀ before w after key value, verdicts = before ++ w :: after →
    (∀ u ∈ after, u.attributes.contains key = false) → w.attributes.get? key = some value →
    v.attributes.get? key = some value
  /-- There are no keys but those of the verdicts. -/
  keys : ∀ key, v.attributes.contains key = true ↔ ∃ w ∈ verdicts, w.attributes.contains key = true

theorem combine_combines (verdicts : List Verdict) : Combines verdicts (combine verdicts) where
  blocked := by rw [combine_blocked, List.any_eq_true]
  first := by
    rintro before w after rfl passes blocked
    have early : (combine before).blocked = false := by
      rw [combine_blocked, List.any_eq_false]
      simpa using passes
    have here : (allow.merge w).blocked = true := by rw [merge_blocked, blocked, Bool.or_true]
    have answer : allow.merge w = { w with attributes := allow.attributes.overlay w.attributes } :=
      merge_of_first rfl blocked
    rw [combine_append, combine_cons, merge_of_first early (by rw [merge_blocked, here, Bool.true_or]),
      merge_of_blocked here, answer]
    exact ⟨rfl, rfl⟩
  passing := by
    intro passes
    obtain ⟨status, reason⟩ := combine_plain verdicts passes
    rw [status, reason]
    exact ⟨rfl, rfl⟩
  last := by
    rintro before w after key value rfl absent found
    have none : after.reverse.findSome? (fun v => v.attributes.get? key) = none := by
      rw [List.findSome?_eq_none_iff]
      intro u mem
      simpa [Table.contains] using absent u (List.mem_reverse.mp mem)
    rw [combine_attributes, List.reverse_append, List.reverse_cons, List.append_assoc,
      List.findSome?_append, none, Option.none_or, List.singleton_append, List.findSome?_cons, found]
  keys := by
    intro key
    rw [Table.contains, combine_attributes, List.findSome?_isSome_iff]
    simp [Table.contains]

/-- More verdicts, wherever they stand, block no less and report no fewer keys. -/
theorem combine_grown {fewer more : List Verdict} (grown : fewer.Sublist more) :
    ((combine fewer).blocked = true → (combine more).blocked = true) ∧
      ∀ key, (combine fewer).attributes.contains key = true →
        (combine more).attributes.contains key = true := by
  have before := combine_combines fewer
  have after := combine_combines more
  constructor
  · intro blocked
    obtain ⟨w, mem, blocks⟩ := before.blocked.mp blocked
    exact after.blocked.mpr ⟨w, grown.subset mem, blocks⟩
  · intro key held
    obtain ⟨w, mem, has⟩ := (before.keys key).mp held
    exact (after.keys key).mpr ⟨w, grown.subset mem, has⟩

end Verdict

/-! ## Chains -/

namespace Chain

/-- The verdict on a request when asking an evaluator may act as well: `ask` is what happens then. -/
def judgeActing {m : Type → Type} [Monad m] (c : Chain) (ask : Evaluator → m Verdict) : m Verdict :=
  c.evaluators.foldlM (fun v e => v.merge <$> ask e) .allow

/-- All that happens is that each evaluator is asked once, in order. -/
theorem judgeActing_eq {m : Type → Type} [Monad m] [LawfulMonad m] (c : Chain)
    (ask : Evaluator → m Verdict) :
    c.judgeActing ask = Verdict.combine <$> c.evaluators.mapM ask := by
  have asked : ∀ (es : List Evaluator) (v : Verdict),
      es.foldlM (fun v e => v.merge <$> ask e) v =
        (fun said => said.foldl Verdict.merge v) <$> es.mapM ask := by
    intro es
    induction es with
    | nil => intro v; simp
    | cons e rest ih => intro v; simp [ih]
  exact asked c.evaluators .allow

/-- One chain after another. -/
def append (c d : Chain) : Chain := ⟨c.evaluators ++ d.evaluators⟩

theorem verdicts_append (c d : Chain) (moment : Moment) (request : Request) :
    (c.append d).verdicts moment request = c.verdicts moment request ++ d.verdicts moment request :=
  List.map_append

/-- How the verdict of a chain on a request comes about. -/
structure Composes (c : Chain) (moment : Moment) (request : Request) : Prop where
  /-- Each evaluator is asked once about this request, whatever else it does when it is asked. -/
  asked : ∀ (m : Type → Type) [Monad m] [LawfulMonad m] (ask : Evaluator → m Verdict),
    c.judgeActing ask = Verdict.combine <$> c.evaluators.mapM ask
  /-- An evaluator that does nothing else is asked for its verdict on it. -/
  judged : c.judge moment request = Id.run (c.judgeActing fun e => pure (e.judge moment request))
  combines : Verdict.Combines (c.verdicts moment request) (c.judge moment request)
  cut : ∀ a b : Chain, c = a.append b →
    c.judge moment request = (a.judge moment request).merge (b.judge moment request)
  /-- More evaluators, wherever they are put, let no more pass and report no fewer keys. -/
  grows : ∀ d : Chain, c.evaluators.Sublist d.evaluators →
    ((c.judge moment request).blocked = true → (d.judge moment request).blocked = true) ∧
      ∀ key, (c.judge moment request).attributes.contains key = true →
        (d.judge moment request).attributes.contains key = true

/-- Merging is associative, and every chain's verdict is the merge of its evaluators' verdicts. -/
theorem judge_composes : (∀ u v w : Verdict, (u.merge v).merge w = u.merge (v.merge w)) ∧
    ∀ (c : Chain) (moment : Moment) (request : Request), c.Composes moment request := by
  refine ⟨Verdict.merge_assoc, fun c moment request => ⟨?_, ?_, ?_, ?_, ?_⟩⟩
  · intro m _ _ ask
    exact c.judgeActing_eq ask
  · rw [judgeActing_eq, judge_eq, verdicts]
    simp
  · rw [judge_eq]
    exact Verdict.combine_combines _
  · rintro a b rfl
    rw [judge_eq, verdicts_append, Verdict.combine_append, ← judge_eq, ← judge_eq]
  · intro d grown
    rw [judge_eq, judge_eq]
    exact Verdict.combine_grown (grown.map _)

end Chain
end Turnstile.Policy
