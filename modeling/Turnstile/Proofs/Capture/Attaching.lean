import Turnstile.Proofs.Capture.ContentType
import Turnstile.Proofs.Capture.Cycle
/-!
# Attaching

A body's context is attached where bodies of its side are captured, the content type passes the gate and the
memory for it is granted, and nowhere else. It is new, and it takes the place of what the one store held for the
resource; the other stores and the other resources keep what they have (`attach_gated`). Memory is refused under
a limit beyond what can be set aside, and then the declared length decides (`undeclared_length_refused`).
-/
namespace Turnstile.Capture

open Policy Text

/-! ## The registry as a whole -/

namespace StoreKey

/-- Every store, in order. -/
def all : List StoreKey := StreamKind.all.flatMap fun c => [⟨c, .request⟩, ⟨c, .response⟩]

theorem getElem?_all (k : StoreKey) : all[(k.index : Nat)]? = some k := by
  obtain ⟨c, d⟩ := k
  cases c <;> cases d <;> rfl

end StoreKey

namespace Registry

variable {α : Type}

theorem slot?_attach (reg : Registry α) (store k : StoreKey) (r : Resource) (value : α) (id : Nat) :
    ((reg.attach store r value).store k).slot? id =
      if k = store ∧ id = r.id then some ⟨r, value⟩ else (reg.store k).slot? id := by
  rw [store_attach]
  by_cases here : store = k
  · rw [if_pos here, Store.slot?_attach]
    simp only [here, true_and, eq_comm]
  · rw [if_neg here, if_neg fun both => here both.1.symm]

theorem slot?_detachAll (reg : Registry α) (k : StoreKey) (r : Resource) (id : Nat) :
    ((reg.detachAll r).store k).slot? id = if id = r.id then none else (reg.store k).slot? id := by
  rw [store_detachAll, Store.slot?_erase]
  simp only [eq_comm]

/-- The stores stand in the registry in the order of their places. -/
theorem toList_stores (reg : Registry α) : reg.stores.toList = StoreKey.all.map reg.store := by
  apply List.ext_getElem?
  intro i
  by_cases bound : i < 8
  · obtain ⟨k, here⟩ := exists_index ⟨i, bound⟩
    have place : (k.index : Nat) = i := congrArg Fin.val here
    have listed := k.getElem?_all
    rw [place] at listed
    have held : reg.stores.toList[i]? = some (reg.store k) := by
      simp [Registry.store, place, bound]
    rw [held, List.getElem?_map, listed, Option.map_some]
  · have beyond : StoreKey.all.length ≤ i := Nat.le_of_not_lt bound
    simp [beyond, Nat.le_of_not_lt bound]

/-- What is counted of a resource is the stores that have an entry under its id. -/
theorem holders_eq (reg : Registry α) (r : Resource) :
    reg.holders r = StoreKey.all.countP fun k => ((reg.store k).slot? r.id).isSome := by
  rw [holders, toList_stores, ← List.countP_eq_length_filter, List.countP_map]
  rfl

end Registry

/-! ## A context by the steps it takes -/

namespace Context

/-- The context as of a request with other headers, or of a response. -/
def withStage (c : Context) (stage : Stage) : Context := { c with stage := stage }

/-- What follows the recording of a body changes nothing before it. -/
theorem take_withStage (c : Context) (stage : Stage) (step : ContextStep) :
    (c.withStage stage).take step = (c.take step).withStage stage := by
  cases step with
  | writeBytes bytes => cases done : c.captured <;> simp [take, writeBytes, withStage, done]
  | writeText s => cases done : c.captured <;> simp [take, writeText, withStage, done]
  | capture key => rfl
  | reset => rfl

theorem foldl_take_withStage (c : Context) (stage : Stage) (steps : List ContextStep) :
    steps.foldl take (c.withStage stage) = (steps.foldl take c).withStage stage :=
  List.foldl_hom (withStage · stage) fun c step => c.take_withStage stage step

/-- What a capture records of the body does not depend on what follows the recording. -/
theorem head?_captureAs_withStage (chain : Chain) (moment : Moment) (key : String) (c : Context) (stage : Stage) :
    ((c.withStage stage).captureAs chain moment key).2.writes.head? =
      (c.captureAs chain moment key).2.writes.head? := by
  cases done : c.captured with
  | true => simp [captureAs, withStage, done]
  | false =>
    have body : ∀ stage text, (recordEffect chain moment key text stage).writes.head? = some (key, text) := by
      intro stage text
      cases stage <;> rfl
    simp only [captureAs, withStage, done, Bool.false_eq_true, if_false, body]
    rfl

end Context

namespace Monitor

/-- The entry of a resource's id in a store. -/
def slotAt (m : Monitor) (k : StoreKey) (id : Nat) : Option (Slot Nat) := (m.registry.store k).slot? id

/-- What attaching answers and does. Only a body that is captured has a context attached, if the memory for it is
granted: it is new, it stands in the place of the resource in the one store, and all else is as it was. -/
structure Attaches (m : Monitor) (store : StoreKey) (r : Resource) (wanted : Bool)
    (contentType contentLength : Option String) (c : Context) (result : Attached × Monitor) : Prop where
  captured : wanted = true →
    (∃ text ∈ contentType, ∃ fragment ∈ m.settings.contentTypes, Mentions text fragment) →
    m.settings.grants (declaredLength contentLength) = true → ∃ i m',
      result = (.context i, m') ∧ m.contexts[i]? = none ∧ m'.contexts[i]? = some c ∧
      m' = { m with contexts := m.contexts.push c, registry := m'.registry } ∧
      ∀ k id, m'.slotAt k id = if k = store ∧ id = r.id then some ⟨r, i⟩ else m.slotAt k id
  refused : wanted = true →
    (∃ text ∈ contentType, ∃ fragment ∈ m.settings.contentTypes, Mentions text fragment) →
    m.settings.grants (declaredLength contentLength) = false → result = (.refused, m)
  uncaptured : ¬ (wanted = true ∧ ∃ text ∈ contentType, ∃ fragment ∈ m.settings.contentTypes,
    Mentions text fragment) → result = (.nothing, m)

theorem attachBody_attaches (m : Monitor) (store : StoreKey) (r : Resource) (span : Nat) (wanted : Bool)
    (key : String) (stage : Stage) (contentType contentLength : Option String) :
    m.Attaches store r wanted contentType contentLength (m.fresh store span key stage contentType)
      (m.attachBody store r span wanted key stage contentType contentLength) := by
  have gate : (wanted && m.settings.gate.admits contentType) = true ↔ wanted = true ∧
      ∃ text ∈ contentType, ∃ fragment ∈ m.settings.contentTypes, Mentions text fragment := by
    rw [Bool.and_eq_true, admits_iff]
  constructor
  · intro toggled mentioned granted
    let c := m.fresh store span key stage contentType
    have attached : m.attachBody store r span wanted key stage contentType contentLength =
        (.context m.contexts.size, (m.attachNew store r c).2) := by
      rw [attachBody_eq, if_pos (gate.mpr ⟨toggled, mentioned⟩), if_pos granted]
    refine ⟨m.contexts.size, (m.attachNew store r c).2, attached, by simp, m.contexts_attachNew store r c, rfl, ?_⟩
    intro k id
    exact m.registry.slot?_attach store k r m.contexts.size id
  · intro toggled mentioned refused
    rw [attachBody_eq, if_pos (gate.mpr ⟨toggled, mentioned⟩), if_neg (by simp [refused])]
  · intro shut
    rw [attachBody_eq, if_neg fun passes => shut (gate.mp passes)]

/-- A context is attached where a body is captured and the memory for it is granted, and nowhere else. It starts
with nothing, and takes the place of no other resource and of none in another store; the declared length makes no
difference to what is captured, and to whether it is captured only where it decides about the memory. Removing a
resource removes it from every store, and no other. -/
theorem attach_gated (m : Monitor) (store : StoreKey) (r : Resource) (span : Nat) :
    (∀ length, m.settings.grants length = true ↔
      m.settings.bodyLimit ≤ roomLimit ∨ ∃ n ∈ length, n ≤ roomLimit) ∧
    (∀ headers : Headers, m.Attaches store r m.settings.bodies.request (headers.get? "content-type")
      (headers.get? "content-length")
      (m.fresh store span requestBodyKey (.request headers) (headers.get? "content-type"))
      (m.attachRequest store r span headers)) ∧
    (∀ contentType contentLength, m.Attaches store r m.settings.bodies.response contentType contentLength
      (m.fresh store span responseBodyKey .response contentType)
      (m.attachResponse store r span contentType contentLength)) ∧
    (∀ contentType contentLength other,
      m.settings.grants (declaredLength other) = m.settings.grants (declaredLength contentLength) →
      m.attachResponse store r span contentType other =
        m.attachResponse store r span contentType contentLength) ∧
    (∀ headers other : Headers, other.get? "content-type" = headers.get? "content-type" →
      (m.settings.grants (declaredLength (other.get? "content-length")) =
          m.settings.grants (declaredLength (headers.get? "content-length")) →
        (m.attachRequest store r span other).1 = (m.attachRequest store r span headers).1) ∧
      ∀ (steps : List ContextStep) (chain : Chain) (moment : Moment) (key : String),
        let recorded := fun headers : Headers => ((steps.foldl Context.take (m.fresh store span requestBodyKey
          (.request headers) (headers.get? "content-type"))).captureAs chain moment key).2.writes.head?
        recorded other = recorded headers) ∧
    ∀ m : Monitor,
      m.detachAll r = { m with registry := (m.detachAll r).registry } ∧
      (∀ k id, (m.detachAll r).slotAt k id = if id = r.id then none else m.slotAt k id) ∧
      m.registry.holders r = StoreKey.all.countP fun k => (m.slotAt k r.id).isSome := by
  refine ⟨fun length => Settings.grants_iff, fun headers => attachBody_attaches ..,
    fun contentType contentLength => attachBody_attaches .., fun contentType contentLength other alike => ?_,
    fun headers other same => ⟨fun alike => ?_, ?_⟩, fun m =>
    ⟨rfl, fun k id => m.registry.slot?_detachAll k r id, m.registry.holders_eq r⟩⟩
  · rw [attachResponse, attachResponse, attachBody_eq, attachBody_eq, alike]
  · rw [attachRequest, attachRequest, attachBody_eq, attachBody_eq, same, alike]
    simp only [apply_ite Prod.fst]
  · intro steps chain moment key recorded
    have alike : m.fresh store span requestBodyKey (.request other) (other.get? "content-type") =
        (m.fresh store span requestBodyKey (.request headers) (headers.get? "content-type")).withStage
          (.request other) := by
      rw [same]
      rfl
    simp only [recorded]
    rw [alike, Context.foldl_take_withStage, Context.head?_captureAs_withStage]

/-- A fragment between blanks lets a type in capitals pass, whatever length is declared. -/
theorem attach_gated_in_capitals :
    let m := Monitor.start ⟨8, [" json "], .default, .default⟩ .empty ⟨none, 0⟩
    let store : StoreKey := ⟨.charOutput, .response⟩
    let r : Resource := ⟨0, 0⟩
    let headers := Headers.ofList [("content-type", "json")]
    let longer := Headers.ofList [("content-type", "json"), ("content-length", "+9")]
    (∃ i m', m.attachResponse store r 0 (some "text/JSON") (some "-1") = (.context i, m') ∧
      m'.slotAt store r.id = some ⟨r, i⟩) ∧
    (m.attachRequest store r 0 longer).1 = (m.attachRequest store r 0 headers).1 := by
  intro m store r headers longer
  obtain ⟨-, -, response, -, request, -⟩ := attach_gated m store r 0
  have mentions : Mentions "text/JSON" " json " := by
    refine ⟨['j', 's', 'o', 'n'], ['J', 'S', 'O', 'N'], strip_eq_iff.mp (by decide), by decide, ?_, by decide⟩
    exact ⟨"text/".toList, [], by decide⟩
  obtain ⟨i, m', result, -, -, -, entries⟩ := (response (some "text/JSON") (some "-1")).captured rfl
    ⟨_, rfl, " json ", List.mem_singleton.mpr rfl, mentions⟩ (by decide)
  have entry := entries store r.id
  rw [if_pos ⟨rfl, rfl⟩] at entry
  exact ⟨⟨i, m', result, entry⟩, (request headers longer (by decide)).1 (by decide)⟩

/-- Under a limit that no memory can hold, a body of which no length is declared has no context attached, and one
of a short declared length has. -/
theorem undeclared_length_refused :
    let made := (Monitor.start ⟨18446744073709551615, ["json"], .default, .default⟩ .empty ⟨none, 0⟩).newResource
    let store : StoreKey := ⟨.byteInput, .request⟩
    let headers := Headers.ofList [("content-type", "application/json")]
    made.2.settings.bodies.request = true ∧ Mentions "application/json" "json" ∧
      "json" ∈ made.2.settings.contentTypes ∧ headers.get? "content-type" = some "application/json" ∧
      made.2.attachRequest store made.1 0 headers = (.refused, made.2) ∧
      (made.2.attachRequest store made.1 0 (headers.insert "content-length" "5")).1 = .context 0 := by
  intro made store headers
  have mentions : Mentions "application/json" "json" :=
    ⟨"json".toList, "json".toList, strip_eq_iff.mp (by decide), by decide,
      ⟨"application/".toList, [], by decide⟩, by decide⟩
  refine ⟨rfl, mentions, List.mem_singleton.mpr rfl, by decide, ?_, ?_⟩
  · rw [attachRequest, attachBody_refused (by decide)]
  · rw [attachRequest_eq rfl (by decide), if_pos (by decide)]
    rfl

end Monitor
end Turnstile.Capture
