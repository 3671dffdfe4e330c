import Mathlib.Data.List.Basic
import Turnstile.Proofs.Capture.Monitor
/-!
# Completion, once

Whatever signals about a request arrive in whatever order, the first one that is not a timeout ends it:
it records each response that is still open once, and detaches all that is tracked. No other signal does
anything.
-/
namespace Turnstile.Capture

open Policy

namespace Signal

/-- The response headers that come with a signal, unless it is a timeout. -/
def headers? : Signal → Option Headers
  | .complete headers => some headers
  | .error headers => some headers
  | .timeout => none

/-- What a signal is answered once the request has been handled. -/
def late : Signal → Completion
  | .timeout => .timedOut
  | _ => .alreadyHandled

end Signal

namespace Monitor

/-- Takes signals about a request, one after another. -/
def signals (m : Monitor) (l : Listener) : List Signal → List Completion × Monitor
  | [] => ([], m)
  | signal :: rest =>
    let (answer, m) := m.signal l signal
    let (answers, m) := m.signals l rest
    (answer :: answers, m)

/-- The context has not been recorded. -/
def Unrecorded (m : Monitor) (i : Nat) : Prop :=
  ∃ c, m.contexts[i]? = some c ∧ c.captured = false

/-- What the recording of a context writes to a span. -/
def recording (m : Monitor) (i j : Nat) : List Write :=
  (m.contexts[i]?).elim [] fun c =>
    if c.span = j then c.stage.writes m.chain m.moment c.key c.render else []

/-- The request that the recording of a context has the chain judge. -/
def recordedRequest? (m : Monitor) (i : Nat) : Option Request :=
  (m.contexts[i]?).bind fun c => c.stage.request? c.render

/-! ## Looking up -/

theorem lookUp_fst (m : Monitor) (store : StoreKey) (key : Resource) :
    (m.lookUp store key).1 = ((m.registry.store store).getKey m.resources.isAlive key).1 := rfl

theorem lookUp_of_lacks {m : Monitor} {store : StoreKey} {key : Resource}
    (lacks : (m.registry.store store).Lacks key.id) : (m.lookUp store key).1 = none := by
  rw [lookUp_fst, Store.getKey_fst, Store.slot?_eq_none_iff.mpr lacks]
  rfl

/-- A look-up changes nothing that another one finds. -/
theorem lookUp_lookUp (m : Monitor) (store other : StoreKey) (key query : Resource) :
    ((m.lookUp store key).2.lookUp other query).1 = (m.lookUp other query).1 := by
  have left : ((m.lookUp store key).2.registry.store other) =
      if store = other then ((m.registry.store store).getKey m.resources.isAlive key).2
      else m.registry.store other := Registry.store_setStore _ _ _ _
  rw [lookUp_fst, left, lookUp_fst]
  by_cases same : store = other
  · subst same
    rw [if_pos rfl]
    exact Store.getKey_getKey _ _ _ _
  · rw [if_neg same]
    rfl

theorem others_lookUp (m : Monitor) (store k : StoreKey) {key : Resource} {ids : List Nat}
    (mem : key.id ∈ ids) :
    ((m.lookUp store key).2.registry.store k).others ids = (m.registry.store k).others ids := by
  have left : ((m.lookUp store key).2.registry.store k) =
      if store = k then ((m.registry.store store).getKey m.resources.isAlive key).2
      else m.registry.store k := Registry.store_setStore _ _ _ _
  rw [left]
  by_cases same : store = k
  · rw [if_pos same, ← same]
    exact Store.others_getKey _ _ mem
  · rw [if_neg same]

/-! ## Recording responses -/

/-- What holds of a monitor `m'` once these contexts of `m` have been recorded, found under these
keys. -/
structure Recorded (keys : List Resource) (m : Monitor) (due : List Nat) (m' : Monitor) : Prop where
  settings : m'.settings = m.settings
  chain : m'.chain = m.chain
  moment : m'.moment = m.moment
  resources : m'.resources = m.resources
  depth : m'.depth = m.depth
  handled : m'.handled = m.handled
  contextCount : m'.contexts.size = m.contexts.size
  spanCount : m'.spans.size = m.spans.size
  spans : ∀ j < m.spans.size, m'.span j = (m.span j).setAll (due.flatMap (m.recording · j))
  judged : m'.judged = m.judged ++ (due.filterMap m.recordedRequest?).toArray
  contexts : ∀ i : Nat, m'.contexts[i]? = (m.contexts[i]?).map fun c =>
    if i ∈ due then { c with captured := true } else c
  lookUps : ∀ store key, (m'.lookUp store key).1 = (m.lookUp store key).1
  others : ∀ ids : List Nat, (∀ r ∈ keys, r.id ∈ ids) →
    ∀ k, (m'.registry.store k).others ids = (m.registry.store k).others ids

namespace Recorded

variable {keys keys₁ keys₂ : List Resource} {m m₁ m₂ : Monitor} {due due₁ due₂ : List Nat}

theorem refl (keys : List Resource) (m : Monitor) : Recorded keys m [] m where
  settings := rfl
  chain := rfl
  moment := rfl
  resources := rfl
  depth := rfl
  handled := rfl
  contextCount := rfl
  spanCount := rfl
  spans := fun j _ => (span_setAll_nil _).symm
  judged := by simp
  contexts := fun i => by simp
  lookUps := fun _ _ => rfl
  others := fun _ _ _ => rfl

theorem context_of_not_mem (recorded : Recorded keys m due m₁) {i : Nat} (out : i ∉ due) :
    m₁.contexts[i]? = m.contexts[i]? := by
  rw [recorded.contexts]
  simp [out]

theorem unrecorded_iff (recorded : Recorded keys m due m₁) (i : Nat) :
    m₁.Unrecorded i ↔ m.Unrecorded i ∧ i ∉ due := by
  by_cases mem : i ∈ due
  · constructor
    · rintro ⟨c, held, fresh⟩
      rw [recorded.contexts] at held
      obtain ⟨c', _, rfl⟩ := Option.map_eq_some_iff.mp held
      simp [mem] at fresh
    · rintro ⟨_, out⟩
      exact absurd mem out
  · rw [Unrecorded, recorded.context_of_not_mem mem]
    exact ⟨fun fresh => ⟨fresh, mem⟩, fun fresh => fresh.1⟩

/-- One recording after another is a recording of both, if they do not meet. -/
theorem trans (first : Recorded keys₁ m due₁ m₁) (second : Recorded keys₂ m₁ due₂ m₂)
    (apart : ∀ i ∈ due₂, i ∉ due₁) : Recorded (keys₁ ++ keys₂) m (due₁ ++ due₂) m₂ where
  settings := second.settings.trans first.settings
  chain := second.chain.trans first.chain
  moment := second.moment.trans first.moment
  resources := second.resources.trans first.resources
  depth := second.depth.trans first.depth
  handled := second.handled.trans first.handled
  contextCount := second.contextCount.trans first.contextCount
  spanCount := second.spanCount.trans first.spanCount
  spans := by
    intro j bound
    have later : due₂.flatMap (m₁.recording · j) = due₂.flatMap (m.recording · j) := by
      apply List.flatMap_congr
      intro i mem
      rw [recording, first.context_of_not_mem (apart i mem), first.chain, first.moment, recording]
    have bound₁ : j < m₁.spans.size := by
      rw [first.spanCount]
      exact bound
    rw [second.spans j bound₁, first.spans j bound, span_setAll_append, later, List.flatMap_append]
  judged := by
    have later : due₂.filterMap m₁.recordedRequest? = due₂.filterMap m.recordedRequest? := by
      apply List.filterMap_congr
      intro i mem
      rw [recordedRequest?, first.context_of_not_mem (apart i mem), recordedRequest?]
    rw [second.judged, first.judged, later]
    simp
  contexts := by
    intro i
    rw [second.contexts, first.contexts, Option.map_map]
    congr 1
    funext c
    by_cases one : i ∈ due₁
    · have two : i ∉ due₂ := fun mem => apart i mem one
      simp [one, two]
    · simp [one]
  lookUps := fun store key => (second.lookUps store key).trans (first.lookUps store key)
  others := by
    intro ids covers k
    have covers₁ : ∀ r ∈ keys₁, r.id ∈ ids := fun r mem => covers r (List.mem_append_left _ mem)
    have covers₂ : ∀ r ∈ keys₂, r.id ∈ ids := fun r mem => covers r (List.mem_append_right _ mem)
    rw [second.others ids covers₂, first.others ids covers₁]

end Recorded

theorem lookUp_recorded (m : Monitor) (store : StoreKey) (key : Resource) :
    Recorded [key] m [] (m.lookUp store key).2 :=
  { Recorded.refl [key] m with
    spans := fun j _ => (span_setAll_nil (m.span j)).symm
    lookUps := fun other query => lookUp_lookUp m store other key query
    others := fun _ covers k => others_lookUp m store k (covers key (List.mem_singleton.mpr rfl)) }

theorem captureContext_recorded {m : Monitor} {i : Nat} (still : m.Unrecorded i) :
    Recorded [] m [i] (m.captureContext i none).2 := by
  obtain ⟨c, held, fresh⟩ := still
  rw [captureContext_open held fresh]
  refine ⟨rfl, rfl, rfl, rfl, rfl, rfl, by simp [perform, updateContext, write],
    spans_write_size _ _ _, ?_, ?_, ?_, fun _ _ => rfl, fun _ _ _ => rfl⟩
  · intro j bound
    have wrote := span_write (m := m) (s := c.span) (j := j) (fun _ => by omega)
      (c.stage.writes m.chain m.moment c.key c.render)
    have writes : [i].flatMap (m.recording · j) =
        if c.span = j then c.stage.writes m.chain m.moment c.key c.render else [] := by
      simp [recording, held]
    rw [writes]
    refine wrote.trans ?_
    by_cases here : c.span = j
    · rw [if_pos here, if_pos here]
    · rw [if_neg here, if_neg here, span_setAll_nil]
  · have asked : [i].filterMap m.recordedRequest? = (c.stage.request? c.render).toList := by
      rw [List.filterMap_cons, recordedRequest?, held, Option.bind_some]
      cases c.stage.request? c.render <;> rfl
    rw [asked]
    cases c.stage.request? c.render <;> rfl
  · intro j
    refine (contexts_updateContext m i j fun _ => { c with captured := true }).trans ?_
    by_cases here : i = j
    · rw [if_pos here, ← here, held]
      simp
    · rw [if_neg here]
      have out : j ∉ [i] := by simpa using Ne.symm here
      simp [out]

theorem captureContext_fst_ne {m : Monitor} {i : Nat} (still : m.Unrecorded i) :
    (m.captureContext i none).1 ≠ .ok .alreadyCaptured := by
  obtain ⟨c, held, fresh⟩ := still
  rw [captureContext_open held fresh]
  show c.stage.answer m.chain m.moment c.render ≠ .ok .alreadyCaptured
  rw [Stage.answer]
  split
  · split <;> simp
  · simp

theorem captureContext_of_not {m : Monitor} {i : Nat} (shut : ¬ m.Unrecorded i) :
    m.captureContext i none = (.ok .alreadyCaptured, m) := by
  cases held : m.contexts[i]? with
  | none => exact captureContext_absent held none
  | some c =>
    cases done : c.captured with
    | true => exact captureContext_captured held done none
    | false => exact absurd ⟨c, held, done⟩ shut

section

variable {m m₁ : Monitor} {store : StoreKey} {key : Resource} {i : Nat}

theorem recordResponse_of_none (found : m.lookUp store key = (none, m₁)) :
    m.recordResponse store key = (false, m₁) := by
  simp only [recordResponse, found]

theorem recordResponse_of_unrecorded (found : m.lookUp store key = (some i, m₁))
    (still : m₁.Unrecorded i) :
    m.recordResponse store key = (true, (m₁.captureContext i none).2) := by
  have fresh := captureContext_fst_ne still
  cases answered : m₁.captureContext i none with
  | mk answer m₂ =>
    rw [answered] at fresh
    rcases answer with v | finish
    · simp only [recordResponse, found, answered]
    · cases finish with
      | recorded => simp only [recordResponse, found, answered]
      | alreadyCaptured => exact absurd rfl fresh

theorem recordResponse_of_not (found : m.lookUp store key = (some i, m₁)) (shut : ¬ m₁.Unrecorded i) :
    m.recordResponse store key = (false, m₁) := by
  simp only [recordResponse, found, captureContext_of_not shut]

end

/-- A response that is found and open is recorded and counts; otherwise nothing is recorded. -/
theorem recordResponse_recorded (m : Monitor) (store : StoreKey) (key : Resource) :
    (∃ i, (m.lookUp store key).1 = some i ∧ m.Unrecorded i ∧
      ∃ m', m.recordResponse store key = (true, m') ∧ Recorded [key] m [i] m') ∨
    (∀ i, (m.lookUp store key).1 = some i → ¬ m.Unrecorded i) ∧
      ∃ m', m.recordResponse store key = (false, m') ∧ Recorded [key] m [] m' := by
  have looked := lookUp_recorded m store key
  cases found : m.lookUp store key with
  | mk index m₁ =>
    rw [found] at looked
    cases index with
    | none =>
      exact .inr ⟨fun i other => by contradiction, m₁, recordResponse_of_none found, looked⟩
    | some i =>
      have same : m₁.Unrecorded i ↔ m.Unrecorded i := by
        rw [looked.unrecorded_iff]
        simp
      by_cases still : m.Unrecorded i
      · have still₁ := same.mpr still
        have recorded := looked.trans (captureContext_recorded still₁) (by simp)
        exact .inl ⟨i, rfl, still, _, recordResponse_of_unrecorded found still₁, recorded⟩
      · have shut : ¬ m₁.Unrecorded i := fun still₁ => still (same.mp still₁)
        refine .inr ⟨?_, m₁, recordResponse_of_not found shut, looked⟩
        rintro j eq
        cases eq
        exact still

/-- Of the responses those are recorded, each once, that are found and open. -/
theorem recordResponses_recorded (responses : List (StoreKey × Resource)) (m : Monitor) (count : Nat) :
    ∃ (due : List Nat) (m' : Monitor),
      m.recordResponses count responses = (count + due.length, m') ∧ due.Nodup ∧
      (∀ i, i ∈ due ↔ (∃ p ∈ responses, (m.lookUp p.1 p.2).1 = some i) ∧ m.Unrecorded i) ∧
      Recorded (responses.map Prod.snd) m due m' := by
  induction responses generalizing m count with
  | nil => exact ⟨[], m, rfl, .nil, by simp, .refl [] m⟩
  | cons p rest ih =>
    obtain ⟨store, key⟩ := p
    rcases recordResponse_recorded m store key with
      ⟨i, found, still, m₁, acts, first⟩ | ⟨shut, m₁, acts, first⟩
    · obtain ⟨due, m', counted, nodup, mem, second⟩ := ih m₁ (count + 1)
      have apart : ∀ j ∈ due, j ∉ [i] := fun j inside =>
        ((first.unrecorded_iff j).mp ((mem j).mp inside).2).2
      have out : i ∉ due := fun inside => apart i inside (List.mem_singleton.mpr rfl)
      refine ⟨i :: due, m', ?_, List.nodup_cons.mpr ⟨out, nodup⟩, ?_, first.trans second apart⟩
      · rw [recordResponses, acts]
        refine counted.trans ?_
        rw [List.length_cons, Nat.add_assoc, Nat.add_comm 1]
      · intro j
        rw [List.mem_cons, mem, first.unrecorded_iff]
        simp only [first.lookUps]
        constructor
        · rintro (rfl | ⟨⟨q, listed, here⟩, fresh, _⟩)
          · exact ⟨⟨(store, key), List.mem_cons_self, found⟩, still⟩
          · exact ⟨⟨q, List.mem_cons_of_mem _ listed, here⟩, fresh⟩
        · rintro ⟨⟨q, listed, here⟩, fresh⟩
          by_cases same : j = i
          · exact .inl same
          · rcases List.mem_cons.mp listed with rfl | listed
            · exact .inl (Option.some.inj (here.symm.trans found))
            · exact .inr ⟨⟨q, listed, here⟩, fresh, by simpa using same⟩
    · obtain ⟨due, m', counted, nodup, mem, second⟩ := ih m₁ count
      refine ⟨due, m', ?_, nodup, ?_, first.trans second (by simp)⟩
      · rw [recordResponses, acts]
        exact counted
      · intro j
        rw [mem, first.unrecorded_iff]
        simp only [first.lookUps]
        constructor
        · rintro ⟨⟨q, listed, here⟩, fresh, _⟩
          exact ⟨⟨q, List.mem_cons_of_mem _ listed, here⟩, fresh⟩
        · rintro ⟨⟨q, listed, here⟩, fresh⟩
          rcases List.mem_cons.mp listed with rfl | listed
          · exact absurd fresh (shut j here)
          · exact ⟨⟨q, listed, here⟩, fresh, List.not_mem_nil⟩

/-! ## Detaching -/

theorem foldl_detachAll (rs : List Resource) (m : Monitor) :
    rs.foldl detachAll m = { m with registry := rs.foldl Registry.detachAll m.registry } := by
  induction rs generalizing m with
  | nil => rfl
  | cons r rs ih =>
    rw [List.foldl_cons, List.foldl_cons, ih]
    rfl

/-- Once resources are detached, the stores hold what stands apart from them. -/
theorem slots_foldl_detachAll (rs : List Resource) (registry : Registry Nat) (k : StoreKey) :
    ((rs.foldl Registry.detachAll registry).store k).slots =
      (registry.store k).others (rs.map Resource.id) := by
  induction rs generalizing registry with
  | nil => exact (Store.others_nil _).symm
  | cons r rs ih =>
    rw [List.foldl_cons, ih, Registry.store_detachAll, List.map_cons, Store.others_cons]

/-! ## Signals -/

/-- What a signal that ends a request leaves behind, where these contexts were still to be recorded. -/
structure Finalized (l : Listener) (headers : Headers) (m : Monitor) (due : List Nat) (m' : Monitor) :
    Prop where
  nodup : due.Nodup
  mem_due : ∀ i, i ∈ due ↔ (∃ p ∈ l.responses, (m.lookUp p.1 p.2).1 = some i) ∧ m.Unrecorded i
  /-- Each of them is recorded once, and after them the response headers. -/
  spans : ∀ j < m.spans.size, m'.span j = (m.span j).setAll
    (due.flatMap (m.recording · j) ++ if l.span = j then m.responseHeaderWrites headers else [])
  judged : m'.judged = m.judged ++ (due.filterMap m.recordedRequest?).toArray
  contexts : ∀ i : Nat, m'.contexts[i]? = (m.contexts[i]?).map fun c =>
    if i ∈ due then { c with captured := true } else c
  handled : m'.handled = m.handled.setIfInBounds l.number true
  /-- What is tracked is gone from every store. -/
  detached : ∀ k, ∀ r ∈ l.tracked, (m'.registry.store k).Lacks r.id
  /-- What is not tracked is where it was. -/
  untouched : ∀ k, (m'.registry.store k).others (l.tracked.map Resource.id) =
    (m.registry.store k).others (l.tracked.map Resource.id)
  settings : m'.settings = m.settings
  chain : m'.chain = m.chain
  moment : m'.moment = m.moment
  resources : m'.resources = m.resources
  depth : m'.depth = m.depth
  contextCount : m'.contexts.size = m.contexts.size
  spanCount : m'.spans.size = m.spans.size

theorem handle_finalized {m : Monitor} {l : Listener} (covered : ∀ p ∈ l.responses, p.2 ∈ l.tracked)
    (unhandled : m.isHandled l = false) (headers : Headers) :
    ∃ due m', m.handle l headers = (.finalized due.length, m') ∧ Finalized l headers m due m' := by
  obtain ⟨due, m₁, counted, nodup, mem, recorded⟩ := recordResponses_recorded l.responses
    { m with handled := m.handled.setIfInBounds l.number true } 0
  have named : m₁.responseHeaderWrites headers = m.responseHeaderWrites headers := by
    rw [responseHeaderWrites, recorded.settings, responseHeaderWrites]
  refine ⟨due, l.tracked.foldl detachAll (m₁.responseHeaders l.span headers), ?_, ?_⟩
  · rw [handle, if_neg (by simp [unhandled])]
    simp only [counted, Nat.zero_add]
  · rw [responseHeaders_eq, named, foldl_detachAll]
    have slots : ∀ k, ((l.tracked.foldl Registry.detachAll m₁.registry).store k).slots =
        (m.registry.store k).others (l.tracked.map Resource.id) := by
      intro k
      have covers : ∀ r ∈ l.responses.map Prod.snd, r.id ∈ l.tracked.map Resource.id := by
        intro r listed
        obtain ⟨p, here, rfl⟩ := List.mem_map.mp listed
        exact List.mem_map_of_mem (covered p here)
      rw [slots_foldl_detachAll]
      exact recorded.others _ covers k
    have lacks : ∀ k, ∀ id ∈ l.tracked.map Resource.id,
        ((l.tracked.foldl Registry.detachAll m₁.registry).store k).Lacks id := by
      intro k id tracked slot mem eq
      rw [slots k] at mem
      exact (Store.mem_others.mp mem).2 (eq ▸ tracked)
    refine ⟨nodup, mem, ?_, recorded.judged, recorded.contexts, recorded.handled, ?_, ?_,
      recorded.settings, recorded.chain, recorded.moment, recorded.resources, recorded.depth,
      recorded.contextCount, (spans_write_size _ _ _).trans recorded.spanCount⟩
    · intro j bound
      have bound₁ : j < m₁.spans.size := by
        rw [recorded.spanCount]
        exact bound
      have wrote := span_write (m := m₁) (s := l.span) (fun same => same ▸ bound₁)
        (m.responseHeaderWrites headers)
      refine wrote.trans ?_
      rw [recorded.spans j bound, ← span_setAll_append]
      by_cases here : l.span = j
      · rw [if_pos here, if_pos here]
        rfl
      · rw [if_neg here, if_neg here, span_setAll_nil]
        rfl
    · intro k r tracked
      exact lacks k r.id (List.mem_map_of_mem tracked)
    · intro k
      exact (Store.others_of_lacks (lacks k)).trans (slots k)

/-- Of an only response that is still open, what is found of it is due. -/
theorem Finalized.due_eq {l : Listener} {headers : Headers} {m m' : Monitor} {due : List Nat}
    {store : StoreKey} {r : Resource} (finalized : Finalized l headers m due m')
    (responses : l.responses = [(store, r)])
    (still : ∀ i, (m.lookUp store r).1 = some i → m.Unrecorded i) :
    due = (m.lookUp store r).1.toList := by
  have mem : ∀ i, i ∈ due ↔ (m.lookUp store r).1 = some i := by
    intro i
    rw [finalized.mem_due, responses]
    constructor
    · rintro ⟨⟨p, listed, here⟩, -⟩
      rw [List.mem_singleton.mp listed] at here
      exact here
    · intro here
      exact ⟨⟨(store, r), List.mem_singleton.mpr rfl, here⟩, still i here⟩
  cases found : (m.lookUp store r).1 with
  | none =>
    rw [found] at mem
    exact List.eq_nil_iff_forall_not_mem.mpr fun i due => Option.some_ne_none i ((mem i).mp due).symm
  | some i =>
    rw [found] at mem
    have same : due.Perm [i] := by
      rw [List.perm_ext_iff_of_nodup finalized.nodup (by simp)]
      intro j
      rw [mem, List.mem_singleton, Option.some_inj, eq_comm]
    exact List.perm_singleton.mp same

/-- Of a request with an only response that is still open, what is found of it is recorded. -/
theorem handle_only {m : Monitor} {l : Listener} {store : StoreKey} {r : Resource}
    (responses : l.responses = [(store, r)]) (tracked : r ∈ l.tracked) (unhandled : m.isHandled l = false)
    (still : ∀ i, (m.lookUp store r).1 = some i → m.Unrecorded i) (headers : Headers) :
    let due := (m.lookUp store r).1.toList
    ∃ m', m.handle l headers = (.finalized due.length, m') ∧ Finalized l headers m due m' := by
  intro due
  have covered : ∀ p ∈ l.responses, p.2 ∈ l.tracked := by
    intro p mem
    rw [responses, List.mem_singleton] at mem
    rw [mem]
    exact tracked
  obtain ⟨recorded, m', acts, finalized⟩ := handle_finalized covered unhandled headers
  have same : recorded = due := finalized.due_eq responses still
  rw [same] at acts finalized
  exact ⟨m', acts, finalized⟩

theorem Finalized.mem_slots {l : Listener} {headers : Headers} {m m' : Monitor} {due : List Nat}
    (finalized : Finalized l headers m due m') {k : StoreKey} {slot : Slot Nat}
    (mem : slot ∈ (m'.registry.store k).slots) : slot ∈ (m.registry.store k).slots := by
  have out : slot.owner.id ∉ l.tracked.map Resource.id := by
    intro inside
    obtain ⟨r, tracked, eq⟩ := List.mem_map.mp inside
    exact finalized.detached k r tracked slot mem eq.symm
  exact Store.mem_of_others_eq (finalized.untouched k) mem out

theorem Sound.finalized {l : Listener} {headers : Headers} {m m' : Monitor} {due : List Nat}
    (sound : m.Sound) (finalized : Finalized l headers m due m') : m'.Sound where
  owners := by
    intro k slot mem
    rw [finalized.resources]
    exact sound.owners k slot (finalized.mem_slots mem)
  values := by
    intro k slot mem
    rw [finalized.contextCount]
    exact sound.values k slot (finalized.mem_slots mem)
  alive := by
    rw [finalized.resources]
    exact sound.alive
  spans := by
    intro i c held
    rw [finalized.contexts] at held
    obtain ⟨c₀, before, rfl⟩ := Option.map_eq_some_iff.mp held
    rw [finalized.spanCount]
    have made := sound.spans i c₀ before
    split
    · exact made
    · exact made

/-- A new listener tracks the keys of its responses. -/
theorem listen_covers (m : Monitor) (span : Nat) (requests : List Resource)
    (responses : List (StoreKey × Resource)) :
    ∀ p ∈ (m.listen span requests responses).1.responses,
      p.2 ∈ (m.listen span requests responses).1.tracked :=
  fun _ mem => List.mem_append_right _ (List.mem_map_of_mem mem)

theorem listen_unhandled (m : Monitor) (span : Nat) (requests : List Resource)
    (responses : List (StoreKey × Resource)) :
    (m.listen span requests responses).2.isHandled (m.listen span requests responses).1 = false := by
  simp [isHandled, listen]

theorem signal_eq_handle {signal : Signal} {headers : Headers} (ends : signal.headers? = some headers)
    (m : Monitor) (l : Listener) : m.signal l signal = m.handle l headers := by
  cases signal with
  | complete given =>
    cases ends
    rfl
  | error given =>
    cases ends
    rfl
  | timeout => contradiction

theorem signal_late {m : Monitor} {l : Listener} (handled : m.isHandled l = true) (signal : Signal) :
    m.signal l signal = (signal.late, m) := by
  cases signal with
  | complete headers => exact if_pos handled
  | error headers => exact if_pos handled
  | timeout => rfl

/-- A timeout does nothing. -/
theorem signals_timeouts (m : Monitor) (l : Listener) {quiet : List Signal}
    (timeouts : ∀ s ∈ quiet, s.headers? = none) (rest : List Signal) :
    m.signals l (quiet ++ rest) =
      (quiet.map (fun _ => .timedOut) ++ (m.signals l rest).1, (m.signals l rest).2) := by
  induction quiet with
  | nil => rfl
  | cons signal quiet ih =>
    have alone : signal.headers? = none := timeouts signal List.mem_cons_self
    cases signal with
    | complete headers => contradiction
    | error headers => contradiction
    | timeout =>
      have following := ih fun s mem => timeouts s (List.mem_cons_of_mem _ mem)
      rw [List.cons_append, signals, Monitor.signal]
      simp only [following]
      rfl

/-- Once the request has been handled, no signal does anything. -/
theorem signals_late {m : Monitor} {l : Listener} (handled : m.isHandled l = true)
    (signals : List Signal) : m.signals l signals = (signals.map Signal.late, m) := by
  induction signals with
  | nil => rfl
  | cons signal rest ih =>
    rw [Monitor.signals, signal_late handled]
    simp only [ih]
    rfl

/-- Of all signals about a request, the first one that is not a timeout ends it, and the others do
nothing. -/
theorem finalized_once (m₀ m : Monitor) (span : Nat) (requests : List Resource)
    (responses : List (StoreKey × Resource)) :
    let l := (m₀.listen span requests responses).1
    m.handled[l.number]? = some false →
    (∀ quiet : List Signal, (∀ s ∈ quiet, s.headers? = none) →
      m.signals l quiet = (quiet.map fun _ => .timedOut, m)) ∧
    ∀ first headers, first.headers? = some headers →
      ∃ due m', Finalized l headers m due m' ∧
        ∀ quiet rest : List Signal, (∀ s ∈ quiet, s.headers? = none) →
          m.signals l (quiet ++ first :: rest) =
            (quiet.map (fun _ => .timedOut) ++ .finalized due.length :: rest.map Signal.late, m') := by
  intro l unhandled
  have fresh : m.isHandled l = false := by
    rw [isHandled, unhandled]
    rfl
  have covered : ∀ p ∈ l.responses, p.2 ∈ l.tracked := m₀.listen_covers span requests responses
  constructor
  · intro quiet timeouts
    have run := signals_timeouts m l timeouts []
    rw [List.append_nil] at run
    exact run.trans (by simp [signals])
  · intro first headers ends
    obtain ⟨due, m', acts, finalized⟩ := handle_finalized covered fresh headers
    have handled : m'.isHandled l = true := by
      rw [isHandled, finalized.handled]
      have bound : l.number < m.handled.size := (Array.getElem?_eq_some_iff.mp unhandled).1
      simp [bound]
    refine ⟨due, m', finalized, ?_⟩
    intro quiet rest timeouts
    rw [signals_timeouts m l timeouts, signals, signal_eq_handle ends, acts]
    simp only [signals_late handled]

/-- A response that is tracked twice counts once, and a second completion is ignored. -/
theorem finalized_once_of_two_keys :
    let c : Context := ⟨0, responseBodyKey, .bytes (.empty 2 .latin1), .latin1, .response, false⟩
    let made := ((start .default .empty ⟨none, 0⟩).newSpan.2.newContext c).2.newResource
    let key := (StoreKey.mk .byteOutput .response, made.1)
    let attached := made.2.attach key.1 key.2 0
    let l := (attached.listen 0 [] [key, key]).1
    let m := (attached.listen 0 [] [key, key]).2
    m.handled[l.number]? = some false ∧
    ∃ m', m.signals l [.timeout, .complete .empty, .error .empty] =
      ([.timedOut, .finalized 1, .alreadyHandled], m') := by
  intro c made key attached l m
  refine ⟨rfl, ?_⟩
  obtain ⟨due, m', finalized, run⟩ :=
    (finalized_once attached m 0 [] [key, key] rfl).2 (.complete .empty) .empty rfl
  have found : (m.lookUp key.1 key.2).1 = some 0 := rfl
  have listed : 0 ∈ due := (finalized.mem_due 0).mpr ⟨⟨key, List.mem_cons_self, found⟩, c, rfl, rfl⟩
  have only : ∀ i ∈ due, i = 0 := by
    intro i mem
    obtain ⟨⟨p, tracked, here⟩, _⟩ := (finalized.mem_due i).mp mem
    have same : p = key := by simpa [l, listen] using tracked
    rw [same, found] at here
    exact (Option.some.inj here).symm
  have one : due = [0] := by
    have nodup := finalized.nodup
    rw [List.eq_replicate_of_mem only, List.nodup_replicate] at nodup
    have nonempty := List.length_pos_of_mem listed
    rw [List.eq_replicate_of_mem only, show due.length = 1 by omega]
    rfl
  have answers := run [.timeout] [.error .empty] (by simp [Signal.headers?])
  rw [one] at answers
  exact ⟨m', answers⟩

end Monitor
end Turnstile.Capture
