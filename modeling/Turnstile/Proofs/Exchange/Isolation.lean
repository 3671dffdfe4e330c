import Turnstile.Proofs.Capture.Completion
import Turnstile.Proofs.Exchange.Course
import Turnstile.Proofs.Stream.Frame
/-!
# Exchanges leave nothing behind

However an exchange ends, the stores hold what they held before it, and the calls are as deep. On its way
it stays `Apart`: it attaches new contexts only, and only under its own two ids, which are detached at the
end. An exchange that is refused memory does not get there.
-/
namespace Turnstile.Capture

namespace Monitor

/-- What holds of a monitor `m'` while what is done since `m` is done under these ids. -/
structure Apart (ids : List Nat) (m m' : Monitor) : Prop where
  sound : m'.Sound
  resources : m'.resources = m.resources
  handled : m'.handled = m.handled
  depth : m'.depth = m.depth
  spanCount : m'.spans.size = m.spans.size
  contextCount : m.contexts.size ≤ m'.contexts.size
  /-- The contexts of before are as they were. -/
  contexts : ∀ i < m.contexts.size, m'.contexts[i]? = m.contexts[i]?
  /-- The stores are as they were, but for the ids. -/
  others : ∀ k, (m'.registry.store k).others ids = (m.registry.store k).others ids
  /-- Only new contexts stand under the ids. -/
  values : ∀ k, ∀ slot ∈ (m'.registry.store k).slots, slot.owner.id ∈ ids →
    m.contexts.size ≤ slot.value

/-- What holds of a monitor `m'` when all that was attached since `m` has been detached. -/
structure Restored (m m' : Monitor) : Prop where
  sound : m'.Sound
  registry : m'.registry = m.registry
  depth : m'.depth = m.depth
  contextCount : m.contexts.size ≤ m'.contexts.size
  contexts : ∀ i < m.contexts.size, m'.contexts[i]? = m.contexts[i]?

namespace Restored

variable {m m₁ m₂ : Monitor}

theorem of_same (sound : m₁.Sound) (registry : m₁.registry = m.registry)
    (contexts : m₁.contexts = m.contexts) (depth : m₁.depth = m.depth) : Restored m m₁ :=
  ⟨sound, registry, depth, Nat.le_of_eq (congrArg Array.size contexts.symm), fun i _ => by rw [contexts]⟩

theorem trans (first : Restored m m₁) (second : Restored m₁ m₂) : Restored m m₂ where
  sound := second.sound
  registry := second.registry.trans first.registry
  depth := second.depth.trans first.depth
  contextCount := Nat.le_trans first.contextCount second.contextCount
  contexts := fun i bound =>
    (second.contexts i (Nat.lt_of_lt_of_le bound first.contextCount)).trans (first.contexts i bound)

end Restored

namespace Apart

variable {ids : List Nat} {m m₁ m₂ : Monitor}

theorem refl (sound : m.Sound) (lacks : ∀ k, ∀ id ∈ ids, (m.registry.store k).Lacks id) :
    Apart ids m m where
  sound := sound
  resources := rfl
  handled := rfl
  depth := rfl
  spanCount := rfl
  contextCount := Nat.le_refl _
  contexts := fun _ _ => rfl
  others := fun _ => rfl
  values := fun k slot mem inside => absurd rfl (lacks k slot.owner.id inside slot mem)

theorem write_judged (apart : Apart ids m m₁) (span : Nat) (writes : List Write)
    (judged : Array Policy.Request) : Apart ids m { m₁.write span writes with judged := judged } :=
  { apart with
    sound := apart.sound.same rfl rfl rfl (spans_write_size _ _ _)
    spanCount := (spans_write_size _ _ _).trans apart.spanCount }

/-- What is attached under one of the ids is new. -/
theorem attached?_ge (apart : Apart ids m m₁) {store : StoreKey} {r : Resource} (mem : r.id ∈ ids)
    {i : Nat} (here : m₁.attached? store r = some i) : m.contexts.size ≤ i := by
  rw [attached?, Store.get?] at here
  obtain ⟨slot, found, rfl⟩ := Option.map_eq_some_iff.mp here
  obtain ⟨listed, same⟩ := Store.slot?_eq_some_iff.mp found
  exact apart.values store slot listed (same ▸ mem)

theorem lookUp_ge (apart : Apart ids m m₁) {store : StoreKey} {r : Resource} (mem : r.id ∈ ids)
    {i : Nat} (here : (m₁.lookUp store r).1 = some i) : m.contexts.size ≤ i := by
  rw [lookUp_fst, Store.getKey_fst] at here
  obtain ⟨slot, found, value⟩ := Option.bind_eq_some_iff.mp here
  obtain ⟨listed, same⟩ := Store.slot?_eq_some_iff.mp found
  split at value
  · cases value
    exact apart.values store slot listed (same ▸ mem)
  · contradiction

theorem attachNew (apart : Apart ids m m₁) {store : StoreKey} {r : Resource} (mem : r.id ∈ ids)
    (given : r.id < m.resources.born) {c : Context} (made : c.span < m.spans.size) :
    Apart ids m (m₁.attachNew store r c).2 where
  sound := by
    have grown : (m₁.newContext c).2.Sound := apart.sound.newContext (apart.spanCount ▸ made)
    have known : r.id < (m₁.newContext c).2.resources.born := apart.resources ▸ given
    exact grown.attach store known (by simp [Monitor.newContext])
  resources := apart.resources
  handled := apart.handled
  depth := apart.depth
  spanCount := apart.spanCount
  contextCount := by
    have grown := apart.contextCount
    simp only [Monitor.attachNew, Monitor.newContext, Array.size_push]
    omega
  contexts := by
    intro i bound
    have before : i < m₁.contexts.size := Nat.lt_of_lt_of_le bound apart.contextCount
    rw [← apart.contexts i bound]
    simp only [Monitor.attachNew, Monitor.newContext]
    rw [Array.getElem?_push, if_neg (Nat.ne_of_lt before)]
  others := by
    intro k
    rw [← apart.others k]
    simp only [Monitor.attachNew, Monitor.newContext]
    rw [Registry.store_attach]
    split
    · exact Store.others_attach _ mem _
    · rfl
  values := by
    intro k slot listed inside
    simp only [Monitor.attachNew, Monitor.newContext] at listed
    rw [Registry.store_attach] at listed
    split at listed
    · rcases Store.mem_attach.mp listed with rfl | ⟨before, _⟩
      · exact apart.contextCount
      · exact apart.values k slot before inside
    · exact apart.values k slot listed inside

theorem attachBody (apart : Apart ids m m₁) {store : StoreKey} {r : Resource} (mem : r.id ∈ ids)
    (given : r.id < m.resources.born) {span : Nat} (made : span < m.spans.size) (wanted : Bool) (key : String)
    (stage : Stage) (contentType contentLength : Option String) :
    Apart ids m (m₁.attachBody store r span wanted key stage contentType contentLength).2 := by
  rw [Monitor.attachBody_eq]
  split
  · split
    · exact apart.attachNew mem given made
    · exact apart
  · exact apart

/-- Reading from and writing to streams of the ids stays apart. -/
theorem kept {probes : List Probe} (apart : Apart ids m m₁) (own : ∀ p ∈ probes, p.resource.id ∈ ids)
    (kept : Kept probes m₁ m₂) : Apart ids m m₂ where
  sound := apart.sound.kept kept
  resources := kept.resources.trans apart.resources
  handled := kept.handled.trans apart.handled
  depth := kept.depth.trans apart.depth
  spanCount := kept.spanCount.trans apart.spanCount
  contextCount := Nat.le_trans apart.contextCount (Nat.le_of_eq kept.contextCount.symm)
  contexts := by
    intro i bound
    have free : ∀ p ∈ probes, m₁.attached? p.store p.resource ≠ some i := by
      intro p mem here
      have new := apart.attached?_ge (own p mem) here
      omega
    exact (kept.contexts i free).trans (apart.contexts i bound)
  others := by
    rw [kept.registry]
    exact apart.others
  values := by
    rw [kept.registry]
    exact apart.values

/-- Once the resources of the ids are detached, all is as before. -/
theorem restored {l : Listener} {headers : Headers} {due : List Nat} (apart : Apart ids m m₁)
    (lacks : ∀ k, ∀ id ∈ ids, (m.registry.store k).Lacks id) (own : l.tracked.map Resource.id = ids)
    (covered : ∀ p ∈ l.responses, p.2 ∈ l.tracked) (finalized : Finalized l headers m₁ due m₂) :
    Restored m m₂ := by
  have gone : ∀ k, ∀ id ∈ ids, (m₂.registry.store k).Lacks id := by
    intro k id mem
    rw [← own] at mem
    obtain ⟨r, tracked, rfl⟩ := List.mem_map.mp mem
    exact finalized.detached k r tracked
  have stores : ∀ k, m₂.registry.store k = m.registry.store k := by
    intro k
    have untouched := finalized.untouched k
    rw [own] at untouched
    apply Store.eq_of_slots
    rw [← Store.others_of_lacks (gone k), untouched, apart.others k, Store.others_of_lacks (lacks k)]
  have new : ∀ i ∈ due, m.contexts.size ≤ i := by
    intro i mem
    obtain ⟨⟨p, listed, here⟩, _⟩ := (finalized.mem_due i).mp mem
    exact apart.lookUp_ge (own ▸ List.mem_map_of_mem (covered p listed)) here
  refine ⟨apart.sound.finalized finalized, Registry.ext_store stores,
    finalized.depth.trans apart.depth,
    Nat.le_trans apart.contextCount (Nat.le_of_eq finalized.contextCount.symm), ?_⟩
  intro i bound
  have out : i ∉ due := fun mem => by
    have after := new i mem
    omega
  rw [finalized.contexts, ← apart.contexts i bound]
  simp [out]

end Apart
end Monitor
end Turnstile.Capture

/-! ## The course of an exchange -/

namespace Turnstile.Exchange

open Policy Capture Turnstile.Stream

section

variable {ids : List Nat} {m m₁ : Monitor} {source target : Probe} {span : Nat}

theorem takeBody_apart (x : Exchange) (apart : Monitor.Apart ids m m₁)
    (mem : source.resource.id ∈ ids) (given : source.resource.id < m.resources.born)
    (made : span < m.spans.size) : Monitor.Apart ids m (x.takeBody source span m₁).2 := by
  cases form : x.form with
  | none =>
    have own : ∀ p ∈ (x.bodyReader source).probes, p.resource.id ∈ ids := by
      simpa [bodyReader, Reader.probes] using mem
    cases memory : x.bodyRefused m₁.settings with
    | true =>
      rw [takeBody_refused memory]
      exact apart
    | false =>
      rw [takeBody_read form memory]
      exact (apart.attachBody mem given made _ _ _ _ _).kept own (Reader.readToEnd_kept _ _)
  | some params =>
    rw [takeBody_form form]
    exact apart.write_judged span _ _

theorem writeReply_apart (reply : Reply) (sink : Sink) (apart : Monitor.Apart ids m m₁)
    (mem : target.resource.id ∈ ids) (given : target.resource.id < m.resources.born)
    (made : span < m.spans.size) :
    Monitor.Apart ids m (writeReply reply target span sink m₁).2.2 := by
  have attached : Monitor.Apart ids m (m₁.attachResponse target.store target.resource span
      (reply.headers.get? "content-type") (reply.headers.get? "content-length")).2 :=
    apart.attachBody mem given made _ _ _ _ _
  cases memory : reply.refused m₁.settings with
  | true =>
    rw [writeReply_refused memory]
    exact apart
  | false =>
    cases body : reply.body with
    | none =>
      rw [writeReply_none memory body]
      exact attached
    | some text =>
      have own : ∀ p ∈ (replyWriter target sink).probes, p.resource.id ∈ ids := by
        simpa [replyWriter, Writer.probes] using mem
      rw [writeReply_some memory body]
      exact attached.kept own (Writer.writeAll_kept _ _ _)

/-- A signal that ends the exchange restores what was before. -/
theorem signal_restored {l : Listener} (apart : Monitor.Apart ids m m₁)
    (lacks : ∀ k, ∀ id ∈ ids, (m.registry.store k).Lacks id) (own : l.tracked.map Resource.id = ids)
    (covered : ∀ p ∈ l.responses, p.2 ∈ l.tracked) (unhandled : m.isHandled l = false)
    {signal : Signal} {headers : Headers} (ends : signal.headers? = some headers) :
    Monitor.Restored m (m₁.signal l signal).2 := by
  have unhandled₁ : m₁.isHandled l = false := by
    rw [Monitor.isHandled, apart.handled]
    exact unhandled
  obtain ⟨due, m₂, acts, finalized⟩ := Monitor.handle_finalized covered unhandled₁ headers
  rw [Monitor.signal_eq_handle ends, acts]
  exact apart.restored lacks own covered finalized

theorem finish_restored (x : Exchange) (v : Verdict) {l : Listener} (sink : Sink)
    (apart : Monitor.Apart ids m m₁) (mem : target.resource.id ∈ ids)
    (given : target.resource.id < m.resources.born) (made : span < m.spans.size)
    (lacks : ∀ k, ∀ id ∈ ids, (m.registry.store k).Lacks id) (own : l.tracked.map Resource.id = ids)
    (covered : ∀ p ∈ l.responses, p.2 ∈ l.tracked) (unhandled : m.isHandled l = false)
    (returns : (x.finish v l target span sink m₁).1 ≠ .failed .memory) :
    Monitor.Restored m (x.finish v l target span sink m₁).2.2 := by
  cases replied : x.reply with
  | none =>
    rw [finish_none replied]
    exact signal_restored apart lacks own covered unhandled rfl
  | some reply =>
    have stayed := writeReply_apart reply sink apart mem given made
    rcases wrote : writeReply reply target span sink m₁ with ⟨answer, sink', m₂⟩
    rw [wrote] at stayed
    cases answer with
    | ok done =>
      rw [finish_ok replied wrote]
      exact signal_restored stayed lacks own covered unhandled rfl
    | error f =>
      have reported : f ≠ .memory := by
        rintro rfl
        exact returns (by rw [finish_refused replied wrote])
      rw [finish_failed replied reported wrote]
      exact signal_restored stayed lacks own covered unhandled rfl

/-- Whatever ends it, the course from the request's body on restores what was before. -/
theorem bodies_restored (x : Exchange) (v : Verdict) (sink : Sink) (sound : m.Sound)
    (lacks : ∀ k, ∀ id ∈ [source.resource.id, target.resource.id], (m.registry.store k).Lacks id)
    (given : ∀ id ∈ [source.resource.id, target.resource.id], id < m.resources.born)
    (made : span < m.spans.size)
    (returns : (x.bodies v source target span sink m).1 ≠ .failed .memory) :
    Monitor.Restored m (x.bodies v source target span sink m).2.2 := by
  have covered := m.listen_covers span [source.resource] [(target.store, target.resource)]
  have unhandled := m.listen_unhandled span [source.resource] [(target.store, target.resource)]
  have start : Monitor.Restored m (listening source target span m).2 :=
    .of_same (sound.same rfl rfl rfl rfl) rfl rfl rfl
  have apart := takeBody_apart x (.refl start.sound lacks) (by simp)
    (given source.resource.id (by simp)) made
  refine start.trans ?_
  rcases taken : x.takeBody source span (listening source target span m).2 with ⟨answer, m₁⟩
  rw [taken] at apart
  rcases answer with (w | f) | done
  · rw [bodies_blocked taken]
    exact signal_restored apart lacks rfl covered unhandled rfl
  · have reported : f ≠ .memory := by
      rintro rfl
      exact returns (by rw [bodies_refused taken])
    rw [bodies_failed reported taken]
    exact signal_restored apart lacks rfl covered unhandled rfl
  · rw [bodies_ok taken] at returns ⊢
    exact finish_restored x v sink apart (by simp) (given target.resource.id (by simp)) made lacks rfl
      covered unhandled returns

/-- The two streams have ids that nothing stands under yet. -/
theorem streams_restored (x : Exchange) (v : Verdict) (sink : Sink) (sound : m.Sound)
    (made : span < m.spans.size) :
    let s := Probe.create m ⟨.byteInput, .request⟩
    let t := Probe.create s.2 ⟨.byteOutput, .response⟩
    let e := x.bodies v s.1 t.1 span sink t.2
    e.1 ≠ .failed .memory →
      Monitor.Restored m ((e.2.2.dropResource s.1.resource).dropResource t.1.resource) := by
  intro s t e returns
  have sound₁ : t.2.Sound := sound.newResource.newResource
  have start : Monitor.Restored m t.2 := .of_same sound₁ rfl rfl rfl
  have lacks : ∀ k, ∀ id ∈ [s.1.resource.id, t.1.resource.id], (t.2.registry.store k).Lacks id := by
    intro k id mem
    have fresh : m.resources.born ≤ id := by
      rcases List.mem_pair.mp mem with rfl | rfl
      · exact Nat.le_refl _
      · exact Nat.le_succ _
    exact sound.lacks fresh k
  have given : ∀ id ∈ [s.1.resource.id, t.1.resource.id], id < t.2.resources.born := by
    intro id mem
    have born : t.2.resources.born = m.resources.born + 2 := rfl
    rcases List.mem_pair.mp mem with rfl | rfl
    · exact Nat.lt_succ_of_lt (Nat.lt_succ_self _)
    · exact Nat.lt_succ_self _
  have ended : Monitor.Restored t.2 e.2.2 := bodies_restored x v sink sound₁ lacks given made returns
  have dropped : Monitor.Restored e.2.2
      ((e.2.2.dropResource s.1.resource).dropResource t.1.resource) :=
    .of_same ((ended.sound.dropResource _).dropResource _) rfl rfl rfl
  exact (start.trans ended).trans dropped

theorem run_restored (x : Exchange) (sink : Sink) (sound : m.Sound) (made : span < m.spans.size)
    (returns : (x.run span sink m).1 ≠ .failed .memory) :
    Monitor.Restored m (x.run span sink m).2.2 := by
  have headed := m.requestHeaders_eq span x.headers
  have start : Monitor.Restored m (m.requestHeaders span x.headers).2 := by
    rw [headed]
    exact .of_same (sound.same rfl rfl rfl (Monitor.spans_write_size _ _ _)) rfl rfl rfl
  have size : (m.requestHeaders span x.headers).2.spans.size = m.spans.size := by
    rw [headed]
    exact Monitor.spans_write_size _ _ _
  rcases judged : m.requestHeaders span x.headers with ⟨answer, m₁⟩
  rw [judged] at start size
  cases answer with
  | error v =>
    rw [run_blocked judged]
    exact start
  | ok v =>
    rw [run_ok judged] at returns ⊢
    exact start.trans (streams_restored x v sink start.sound (size ▸ made) returns)

end

/-- A request restores what was before, in whatever way it ends, if only its call returns. -/
theorem process_restored (x : Exchange) (stamp : Log.Stamp) (sink : Sink) {m : Monitor}
    (sound : m.Sound) (returns : (x.process stamp sink m).1 ≠ .error .memory) :
    Monitor.Restored m (x.process stamp sink m).2.2 := by
  have start : Monitor.Restored m m.newSpan.2 := .of_same sound.newSpan rfl rfl rfl
  have made : m.spans.size < m.newSpan.2.spans.size := by simp [Monitor.newSpan]
  have ends : (x.run m.spans.size sink m.newSpan.2).1 ≠ .failed .memory := by
    intro failed
    exact returns (congrArg Prod.fst (process_failed (Prod.ext failed rfl) stamp))
  rw [process_snd]
  exact start.trans (run_restored x sink start.sound made ends)

/-- No request whose call returns leaves anything behind: every store holds what it held, what is attached
there is as it was, and the calls of every kind are as deep. -/
theorem process_leaves_nothing (x : Exchange) (stamp : Log.Stamp) (sink : Sink) {m : Monitor}
    (sound : m.Sound) (returns : (x.process stamp sink m).1 ≠ .error .memory) :
    let m' := (x.process stamp sink m).2.2
    (∀ k, m'.registry.store k = m.registry.store k) ∧
    (∀ k, ∀ slot ∈ (m.registry.store k).slots, m'.contexts[slot.value]? = m.contexts[slot.value]?) ∧
    (∀ kind, m'.depth.depth kind = m.depth.depth kind) ∧ m'.Sound := by
  intro m'
  have restored : Monitor.Restored m m' := process_restored x stamp sink sound returns
  refine ⟨fun k => ?_, fun k slot mem => ?_, fun kind => ?_, restored.sound⟩
  · rw [restored.registry]
  · exact restored.contexts slot.value (sound.values k slot mem)
  · rw [restored.depth]

/-- A reply that a stream does not take leaves the body attached to another stream alone. -/
theorem process_leaves_nothing_of_one_slot :
    let m := (Monitor.start .default .empty ⟨none, 0⟩).newSpan.2.newResource.2
    let attached := (m.attachNew ⟨.byteInput, .request⟩ ⟨0, 0⟩
      ⟨0, requestBodyKey, .bytes (.empty 8 .utf8), .utf8, .request .empty, false⟩).2
    let x : Exchange := ⟨none, .empty, none, none, some ⟨.empty, some "reply"⟩⟩
    let after := (x.process default ⟨[.upTo 0], [], #[]⟩ attached).2.2
    attached.Sound ∧ (x.process default ⟨[.upTo 0], [], #[]⟩ attached).1 ≠ .error .memory ∧
      (after.registry.store ⟨.byteInput, .request⟩).slots = [⟨⟨0, 0⟩, 0⟩] ∧
      after.depth.depth .byteOutput = 0 := by
  intro m attached x after
  have sound : attached.Sound :=
    ((Monitor.start_sound _ _ _).newSpan.newResource.newContext (by decide)).attach _ (by decide)
      (by decide)
  have failed : (x.process default ⟨[.upTo 0], [], #[]⟩ attached).1 = .error (.writing .nothingTaken) := rfl
  have returns : (x.process default ⟨[.upTo 0], [], #[]⟩ attached).1 ≠ .error .memory := by simp [failed]
  obtain ⟨stores, -, depth, -⟩ := process_leaves_nothing x default ⟨[.upTo 0], [], #[]⟩ sound returns
  refine ⟨sound, returns, ?_, depth .byteOutput⟩
  rw [stores]
  rfl

end Turnstile.Exchange
