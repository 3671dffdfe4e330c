import Mathlib.Data.List.Induction
import Turnstile.Capture.Calls
import Turnstile.Proofs.Capture.Monitor
/-!
# Guards and the depth

The depth of a kind is at most the number of its guards that are held, in whatever order they are dropped, so
no kind stays locked. Where the guards of a kind are dropped in reverse order the oldest is the only outermost
one, even if calls inside begin without a guard and never end; without such calls the depth is the number of
guards. What happens to one kind does not concern the others.
-/
namespace Turnstile.Capture.Calls

/-- The calls after several steps. -/
def run (cs : Calls) (steps : List CallStep) : Calls :=
  steps.foldl (fun cs step => (cs.step step).2) cs

/-- The guards of a kind at these places. -/
def guardsOf (c : StreamKind) (places : List (Option Guard)) : List Guard :=
  places.filterMap fun place => place.filter fun g => g.kind = c

/-- The guards of a kind that are held, the oldest first. -/
def held (cs : Calls) (c : StreamKind) : List Guard := guardsOf c cs.guards.toList

/-- Those of them that were made after the guard at a place. -/
def heldAfter (cs : Calls) (place : Nat) (c : StreamKind) : List Guard :=
  guardsOf c (cs.guards.toList.drop (place + 1))

/-- The kind of calls that a step is about. -/
def kind? (cs : Calls) : CallStep → Option StreamKind
  | .enter c | .exit c | .reset c | .hold c | .nest c _ => some c
  | .drop place => (cs.guard? place).map Guard.kind

/-- A step under which the guards of a kind stay nested: they are dropped the newest first, and what begins
without a guard begins while one is held, and does not end. -/
def Nests (c : StreamKind) (cs : Calls) : CallStep → Prop
  | .enter c' => c' = c → cs.held c ≠ []
  | .exit c' | .reset c' => c' ≠ c
  | .drop place => ∀ g, cs.guard? place = some g → g.kind = c → cs.heldAfter place c = []
  | .hold _ | .nest _ _ => True

/-- Every step of a run is of a certain sort, where it is taken. -/
def Along (sort : Calls → CallStep → Prop) (cs : Calls) : List CallStep → Prop
  | [] => True
  | step :: steps => sort cs step ∧ Along sort (cs.step step).2 steps

theorem run_append (cs : Calls) (steps : List CallStep) (step : CallStep) :
    cs.run (steps ++ [step]) = ((cs.run steps).step step).2 := by
  rw [run, List.foldl_append]
  rfl

theorem along_append {sort : Calls → CallStep → Prop} {cs : Calls} {steps : List CallStep} {step : CallStep}
    (along : cs.Along sort (steps ++ [step])) : cs.Along sort steps ∧ sort (cs.run steps) step := by
  induction steps generalizing cs with
  | nil => exact ⟨trivial, along.1⟩
  | cons first steps ih => exact ⟨⟨along.1, (ih along.2).1⟩, (ih along.2).2⟩

/-! ## What a step does to one kind -/

section

variable {cs : Calls} {c : StreamKind}

theorem guardsOf_append (c : StreamKind) (first second : List (Option Guard)) :
    guardsOf c (first ++ second) = guardsOf c first ++ guardsOf c second := List.filterMap_append

theorem guardsOf_none (c : StreamKind) (places : List (Option Guard)) :
    guardsOf c (none :: places) = guardsOf c places := rfl

theorem guardsOf_some (c : StreamKind) (g : Guard) (places : List (Option Guard)) :
    guardsOf c (some g :: places) = (if g.kind = c then [g] else []) ++ guardsOf c places := by
  by_cases same : g.kind = c <;> simp [guardsOf, Option.filter, same]

theorem depth_enter (d : CallDepth) (c c' : StreamKind) :
    (d.enter c').depth c = if c' = c then d.depth c + 1 else d.depth c := by
  rw [CallDepth.enter, CallDepth.depth_set]
  by_cases same : c' = c
  · rw [if_pos same, if_pos same, same]
  · rw [if_neg same, if_neg same]

theorem depth_drop (g : Guard) (d : CallDepth) (c : StreamKind) :
    (g.drop d).depth c = if g.kind = c then (if g.outermost then 0 else d.depth c - 1) else d.depth c := by
  by_cases outer : g.outermost
  · simp [Guard.drop, outer, CallDepth.reset, CallDepth.depth_set]
  · by_cases same : g.kind = c <;> simp [Guard.drop, outer, CallDepth.exit, CallDepth.depth_set, same]

/-- Nested calls leave the depth as they found it, and the first of them is outermost if none was under way. -/
theorem nest_eq (c : StreamKind) (n : Nat) (d : CallDepth) :
    nest c n d = (if d.depth c = 0 ∧ 0 < n then 1 else 0, d) := by
  induction n generalizing d with
  | zero => simp [nest]
  | succ n ih =>
    have busy : (d.enter c).depth c ≠ 0 := by
      rw [depth_enter, if_pos rfl]
      exact Nat.succ_ne_zero _
    have back : (Guard.enter d c).1.drop (d.enter c) = d := Guard.drop_enter d c
    simp only [nest, Guard.enter, ih, busy, false_and, if_false]
    rw [Guard.enter] at back
    rw [back]
    by_cases idle : d.depth c = 0 <;> simp [idle]

theorem held_hold (cs : Calls) (c c' : StreamKind) :
    (cs.step (.hold c')).2.held c =
      cs.held c ++ if c' = c then [⟨c', cs.depth.depth c' == 0⟩] else [] := by
  have pushed : (cs.step (.hold c')).2.guards.toList =
      cs.guards.toList ++ [some ⟨c', cs.depth.depth c' == 0⟩] := Array.toList_push
  rw [held, pushed, guardsOf_append, guardsOf_some]
  exact congrArg (cs.held c ++ ·) (List.append_nil _)

/-- A guard that is dropped is taken out of those held. -/
theorem step_drop {place : Nat} {g : Guard} (here : cs.guard? place = some g) (c : StreamKind) :
    let after := (cs.step (.drop place)).2
    after.depth = g.drop cs.depth ∧
    ∃ earlier, cs.held c = earlier ++ ((if g.kind = c then [g] else []) ++ cs.heldAfter place c) ∧
      after.held c = earlier ++ cs.heldAfter place c := by
  intro after
  have dropped : after = ⟨g.drop cs.depth, cs.guards.setIfInBounds place none⟩ := by
    simp only [after, step, here]
  have there : cs.guards.toList[place]? = some (some g) := by
    rw [Array.getElem?_toList]
    exact Option.join_eq_some_iff.mp here
  obtain ⟨within, value⟩ := List.getElem?_eq_some_iff.mp there
  have places : cs.guards.toList =
      cs.guards.toList.take place ++ some g :: cs.guards.toList.drop (place + 1) := by
    rw [← value, List.getElem_cons_drop, List.take_append_drop]
  have emptied : after.guards.toList =
      cs.guards.toList.take place ++ none :: cs.guards.toList.drop (place + 1) := by
    rw [dropped, Array.toList_setIfInBounds, List.set_eq_take_append_cons_drop, if_pos within]
  refine ⟨by rw [dropped], guardsOf c (cs.guards.toList.take place), ?_, ?_⟩
  · rw [heldAfter, ← guardsOf_some, ← guardsOf_append, ← places, held]
  · rw [held, emptied, guardsOf_append, guardsOf_none, heldAfter]

/-- A step that is about another kind, or about nothing, leaves a kind alone. -/
theorem step_other {step : CallStep} (other : cs.kind? step ≠ some c) :
    (cs.step step).2.depth.depth c = cs.depth.depth c ∧ (cs.step step).2.held c = cs.held c := by
  cases step with
  | enter c' =>
    have ne : c' ≠ c := fun eq => other (congrArg some eq)
    exact ⟨by rw [step, depth_enter, if_neg ne], rfl⟩
  | exit c' =>
    have ne : c' ≠ c := fun eq => other (congrArg some eq)
    exact ⟨by rw [step, CallDepth.exit, CallDepth.depth_set, if_neg ne], rfl⟩
  | reset c' =>
    have ne : c' ≠ c := fun eq => other (congrArg some eq)
    exact ⟨by rw [step, CallDepth.reset, CallDepth.depth_set, if_neg ne], rfl⟩
  | hold c' =>
    have ne : c' ≠ c := fun eq => other (congrArg some eq)
    refine ⟨?_, ?_⟩
    · show (cs.depth.enter c').depth c = _
      rw [depth_enter, if_neg ne]
    · rw [held_hold, if_neg ne, List.append_nil]
  | drop place =>
    cases here : cs.guard? place with
    | none => simp only [step, here, and_self]
    | some g =>
      have ne : g.kind ≠ c := by simpa [kind?, here] using other
      obtain ⟨depth, earlier, before, after⟩ := step_drop here c
      refine ⟨?_, ?_⟩
      · rw [depth, depth_drop, if_neg ne]
      · rw [before, after, if_neg ne, List.nil_append]
  | nest c' n => exact ⟨by rw [step, nest_eq], rfl⟩

end

/-! ## Any order -/

section

variable {cs : Calls} {c : StreamKind}

/-- Whatever is done but to begin without a guard, the depth does not exceed the number of guards. -/
theorem depth_le_held {step : CallStep} (guarded : step ≠ .enter c)
    (bounded : cs.depth.depth c ≤ (cs.held c).length) :
    (cs.step step).2.depth.depth c ≤ ((cs.step step).2.held c).length := by
  by_cases concerned : cs.kind? step = some c
  · cases step with
    | enter c' => exact absurd (congrArg CallStep.enter (Option.some.inj concerned)) guarded
    | exit c' =>
      cases concerned
      show (cs.depth.exit c).depth c ≤ (cs.held c).length
      rw [CallDepth.exit, CallDepth.depth_set, if_pos rfl]
      omega
    | reset c' =>
      cases concerned
      show (cs.depth.reset c).depth c ≤ (cs.held c).length
      rw [CallDepth.reset, CallDepth.depth_set, if_pos rfl]
      omega
    | hold c' =>
      cases concerned
      show (cs.depth.enter c).depth c ≤ _
      rw [depth_enter, if_pos rfl, held_hold, if_pos rfl, List.length_append, List.length_singleton]
      omega
    | drop place =>
      obtain ⟨g, here, same⟩ := Option.map_eq_some_iff.mp concerned
      obtain ⟨depth, earlier, before, after⟩ := step_drop here c
      rw [before, if_pos same] at bounded
      rw [depth, depth_drop, if_pos same, after]
      simp only [List.length_append, List.length_singleton] at bounded ⊢
      split <;> omega
    | nest c' n =>
      show (nest c' n cs.depth).2.depth c ≤ (cs.held c).length
      rw [nest_eq]
      exact bounded
  · obtain ⟨depth, held⟩ := step_other concerned
    rw [depth, held]
    exact bounded

/-! ## Reverse order -/

/-- The guards of a kind when each was made inside the one before it: the oldest alone is outermost, and all
are counted in the depth. -/
inductive Stacked (cs : Calls) (c : StreamKind) : Prop
  | free : cs.held c = [] → cs.depth.depth c = 0 → Stacked cs c
  | taken (oldest : Guard) (others : List Guard) : cs.held c = oldest :: others → oldest.outermost = true →
    (∀ g ∈ others, g.outermost = false) → others.length < cs.depth.depth c → Stacked cs c

namespace Stacked

theorem enter (stacked : cs.Stacked c) (inside : cs.held c ≠ []) : (cs.step (.enter c)).2.Stacked c := by
  have deeper : (cs.step (.enter c)).2.depth.depth c = cs.depth.depth c + 1 := by
    show (cs.depth.enter c).depth c = _
    rw [depth_enter, if_pos rfl]
  cases stacked with
  | free none zero => exact absurd none inside
  | taken oldest others all outer inner deep =>
    exact .taken oldest others all outer inner (by rw [deeper]; omega)

theorem hold (stacked : cs.Stacked c) : (cs.step (.hold c)).2.Stacked c := by
  have deeper : (cs.step (.hold c)).2.depth.depth c = cs.depth.depth c + 1 := by
    show (cs.depth.enter c).depth c = _
    rw [depth_enter, if_pos rfl]
  have more := held_hold cs c c
  rw [if_pos rfl] at more
  cases stacked with
  | free none zero =>
    rw [none, List.nil_append] at more
    refine .taken _ [] more ?_ (by simp) (by rw [deeper]; exact Nat.succ_pos _)
    simp [zero]
  | taken oldest others all outer inner deep =>
    rw [all, List.cons_append] at more
    refine .taken oldest _ more outer ?_ ?_
    · intro g mem
      rcases List.mem_append.mp mem with mem | mem
      · exact inner g mem
      · rw [List.mem_singleton.mp mem]
        simp
        omega
    · rw [deeper, List.length_append, List.length_singleton]
      omega

/-- The newest guard is inside all others, or it is the only one. -/
theorem drop (stacked : cs.Stacked c) {place : Nat} {g : Guard} (here : cs.guard? place = some g)
    (same : g.kind = c) (newest : cs.heldAfter place c = []) :
    (cs.step (.drop place)).2.Stacked c := by
  obtain ⟨depth, earlier, before, after⟩ := step_drop here c
  rw [newest, if_pos same, List.append_nil] at before
  rw [newest, List.append_nil] at after
  have left : (cs.step (.drop place)).2.depth.depth c = if g.outermost then 0 else cs.depth.depth c - 1 := by
    rw [depth, depth_drop, if_pos same]
  cases stacked with
  | free none zero =>
    rw [none] at before
    simp at before
  | taken oldest others all outer inner deep =>
    cases earlier with
    | nil =>
      obtain ⟨rfl, rfl⟩ := List.cons.inj (all.symm.trans before)
      exact .free after (by rw [left, if_pos outer])
    | cons first rest =>
      obtain ⟨rfl, rfl⟩ := List.cons.inj (all.symm.trans before)
      have inside : g.outermost = false := inner g (by simp)
      refine .taken oldest rest after outer (fun h mem => inner h (List.mem_append_left _ mem)) ?_
      have fewer : (rest ++ [g]).length < cs.depth.depth c := deep
      rw [List.length_append, List.length_singleton] at fewer
      rw [left, if_neg (by simp [inside])]
      omega

theorem step (stacked : cs.Stacked c) {step : CallStep} (nests : cs.Nests c step) :
    (cs.step step).2.Stacked c := by
  by_cases concerned : cs.kind? step = some c
  · cases step with
    | enter c' =>
      cases concerned
      exact stacked.enter (nests rfl)
    | exit c' => exact absurd (Option.some.inj concerned) nests
    | reset c' => exact absurd (Option.some.inj concerned) nests
    | hold c' =>
      cases concerned
      exact stacked.hold
    | drop place =>
      obtain ⟨g, here, same⟩ := Option.map_eq_some_iff.mp concerned
      exact stacked.drop here same (nests g here same)
    | nest c' n =>
      have same : (cs.step (.nest c' n)).2 = cs := by rw [Calls.step, nest_eq]
      rw [same]
      exact stacked
  · obtain ⟨depth, held⟩ := step_other concerned
    cases stacked with
    | free none zero => exact .free (held.trans none) (depth.trans zero)
    | taken oldest others all outer inner deep =>
      exact .taken oldest others (held.trans all) outer inner (depth ▸ deep)

theorem held_le_depth (stacked : cs.Stacked c) : (cs.held c).length ≤ cs.depth.depth c := by
  cases stacked with
  | free none zero => simp [none]
  | taken oldest others all outer inner deep =>
    rw [all, List.length_cons]
    exact deep

/-- When the outermost guard is dropped, no other is left. -/
theorem drop_outermost (stacked : cs.Stacked c) {place : Nat} {g : Guard} (here : cs.guard? place = some g)
    (same : g.kind = c) (newest : cs.heldAfter place c = []) (outermost : g.outermost = true) :
    (cs.step (.drop place)).2.held c = [] ∧ (cs.step (.drop place)).2.depth.depth c = 0 := by
  obtain ⟨depth, earlier, before, after⟩ := step_drop here c
  rw [newest, if_pos same, List.append_nil] at before
  rw [newest, List.append_nil] at after
  refine ⟨?_, by rw [depth, depth_drop, if_pos same, if_pos outermost]⟩
  cases stacked with
  | free none zero =>
    rw [none] at before
    simp at before
  | taken oldest others all outer inner deep =>
    cases earlier with
    | nil => exact after
    | cons first rest =>
      obtain ⟨rfl, rfl⟩ := List.cons.inj (all.symm.trans before)
      have inside : g.outermost = false := inner g (by simp)
      rw [outermost] at inside
      contradiction

end Stacked

/-! ## Runs -/

theorem run_bounded {steps : List CallStep} (guarded : .enter c ∉ steps) :
    (idle.run steps).depth.depth c ≤ ((idle.run steps).held c).length := by
  induction steps using List.reverseRecOn with
  | nil => cases c <;> exact Nat.le_refl 0
  | append_singleton steps last ih =>
    rw [run_append]
    refine depth_le_held ?_ (ih fun mem => guarded (List.mem_append_left _ mem))
    rintro rfl
    exact guarded (by simp)

theorem run_stacked {steps : List CallStep} (nested : idle.Along (Nests c) steps) :
    (idle.run steps).Stacked c := by
  induction steps using List.reverseRecOn with
  | nil => exact .free rfl (by cases c <;> rfl)
  | append_singleton steps last ih =>
    obtain ⟨earlier, nests⟩ := along_append nested
    rw [run_append]
    exact (ih earlier).step nests

/-- However the guards of a kind are dropped, its depth is at most their number, so that it is free again when
none is left. If they are dropped in reverse order, the oldest alone is outermost and leaves the depth at
nothing, whatever began inside it and never ended; and unless something did, the depth is their number. No kind
is touched by what is done with another. -/
theorem run_guarded (c : StreamKind) (steps : List CallStep) :
    let cs := idle.run steps
    (.enter c ∉ steps →
      cs.depth.depth c ≤ (cs.held c).length ∧
      (cs.held c = [] → cs.depth.depth c = 0 ∧ (cs.step (.hold c)).1 = .outermost true)) ∧
    (idle.Along (Nests c) steps →
      ((∀ g ∈ (cs.held c).head?, g.outermost = true) ∧ ∀ g ∈ (cs.held c).tail, g.outermost = false) ∧
      (∀ place g, cs.guard? place = some g → g.kind = c → g.outermost = true → cs.Nests c (.drop place) →
        let after := (cs.step (.drop place)).2
        after.held c = [] ∧ after.depth.depth c = 0) ∧
      (cs.held c = [] → cs.depth.depth c = 0 ∧ (cs.step (.hold c)).1 = .outermost true) ∧
      (.enter c ∉ steps → cs.depth.depth c = (cs.held c).length)) ∧
    ∀ step, cs.kind? step ≠ some c →
      let after := (cs.step step).2
      after.depth.depth c = cs.depth.depth c ∧ after.held c = cs.held c := by
  intro cs
  have next : cs.depth.depth c = 0 → (cs.step (.hold c)).1 = .outermost true := by
    intro zero
    simp [step, Guard.enter, zero]
  refine ⟨fun guarded => ?_, fun nested => ?_, fun step other => step_other other⟩
  · have bounded := run_bounded guarded
    refine ⟨bounded, fun none => ?_⟩
    have zero : cs.depth.depth c = 0 := by
      rw [none] at bounded
      exact Nat.le_zero.mp bounded
    exact ⟨zero, next zero⟩
  · have stacked := run_stacked nested
    refine ⟨?_, ?_, ?_, ?_⟩
    · cases stacked with
      | free none zero => simp [cs, none]
      | taken oldest others all outer inner deep => simpa [cs, all] using ⟨outer, inner⟩
    · intro place g here same outermost nests
      exact stacked.drop_outermost here same (nests g here same) outermost
    · intro none
      cases stacked with
      | free none zero => exact ⟨zero, next zero⟩
      | taken oldest others all outer inner deep =>
        rw [show cs.held c = _ from all] at none
        cases none
    · intro guarded
      exact Nat.le_antisymm (run_bounded guarded) stacked.held_le_depth

/-- A call that began between two guards and never ended is forgotten with the older of them; two guards that
are dropped in the order in which they were made leave nothing behind either. -/
theorem run_guarded_past_a_leak :
    let leaking : List CallStep :=
      [.hold .byteInput, .enter .byteInput, .hold .charInput, .hold .byteInput, .drop 2]
    let swapped : List CallStep := [.hold .byteInput, .hold .byteInput, .drop 0, .drop 1]
    idle.Along (Nests .byteInput) leaking ∧ (idle.run leaking).depth.depth .byteInput = 2 ∧
      ((idle.run leaking).step (.drop 0)).2.depth.depth .byteInput = 0 ∧
      .enter .byteInput ∉ swapped ∧ (idle.run swapped).depth.depth .byteInput = 0 := by
  intro leaking swapped
  have nested : idle.Along (Nests .byteInput) leaking :=
    ⟨trivial, fun _ => by decide, trivial, trivial, fun _ _ _ => rfl, trivial⟩
  have guarded : .enter .byteInput ∉ swapped := by decide
  obtain ⟨-, dropped, -, -⟩ := (run_guarded .byteInput leaking).2.1 nested
  obtain ⟨-, freed⟩ := (run_guarded .byteInput swapped).1 guarded
  exact ⟨nested, rfl, (dropped 0 ⟨.byteInput, true⟩ rfl rfl rfl fun _ _ _ => rfl).2, guarded, (freed rfl).1⟩

end
end Turnstile.Capture.Calls
