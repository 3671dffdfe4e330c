import Mathlib.Data.List.Nodup
import Turnstile.Proofs.Capture.Shelf
/-!
# The ledger of a shelf

What a shelf amounts to: a map from resources to values, in which ids play no part. A resource goes by
its birth, which no other one ever has; what is attached to it is what was last attached to it, unless
that has been removed since. A shelf is answered as its ledger says, and holds what its ledger holds.
-/
namespace Turnstile.Capture

variable {α : Type}

/-- A map from resources, by their births, to values, with the handles and the keys by their names. -/
structure Ledger (α : Type) where
  born : Nat
  handles : String → Option Nat
  keys : String → Option Nat
  alive : Nat → Bool
  value : Nat → Option α

namespace Ledger

/-- Nothing has been made. -/
def empty : Ledger α := ⟨0, fun _ => none, fun _ => none, fun _ => false, fun _ => none⟩

/-- What a step does to what is attached to a resource, if anything: it attaches a value, or it removes
what there is. -/
def act? (l : Ledger α) (r : Nat) : ShelfStep α → Option (Option α)
  | .attach name value => if l.handles name = some r then some (some value) else none
  | .detach name => if l.handles name = some r then some none else none
  | .detachKey key => if l.keys key = some r then some none else none
  | .getKey key => if l.keys key = some r ∧ l.alive r = false then some none else none
  | .sweep => if l.alive r then none else some none
  | _ => none

/-- The handles and keys after a step. -/
def renamed (l : Ledger α) : ShelfStep α → Ledger α
  | .create name _ =>
    { l with
      born := l.born + 1
      handles := fun n => if name = n then some l.born else l.handles n
      alive := fun r => (decide (r = l.born) || l.alive r) && decide (l.handles name ≠ some r) }
  | .drop name =>
    { l with
      handles := fun n => if name = n then none else l.handles n
      alive := fun r => l.alive r && decide (l.handles name ≠ some r) }
  | .remember name key =>
    (l.handles name).elim l fun r =>
      { l with keys := fun k => if key = k then some r else l.keys k }
  | _ => l

/-- The ledger after a step. -/
def next (l : Ledger α) (step : ShelfStep α) : Ledger α :=
  { l.renamed step with value := fun r => (l.act? r step).getD (l.value r) }

/-- What is attached, to resources that are alive and to others. -/
def entries (l : Ledger α) : List (Nat × α) :=
  (List.range l.born).filterMap fun r => (l.value r).map (r, ·)

/-- What a step is answered. -/
def report (l : Ledger α) : ShelfStep α → ShelfReport α
  | .create _ _ => .nothing
  | .drop name => .truth (l.handles name).isSome
  | .remember name _ => (l.handles name).elim .unknown fun _ => .truth true
  | .isAlive key => (l.keys key).elim .unknown fun r => .truth (l.alive r)
  | .sameKey key other => (l.keys key).elim .unknown fun r => .truth (l.keys other == some r)
  | .attach name _ | .get name | .detach name =>
    (l.handles name).elim .unknown fun r => .value (l.value r)
  | .getKey key =>
    (l.keys key).elim .unknown fun r => .value (if l.alive r then l.value r else none)
  | .detachKey key => (l.keys key).elim .unknown fun r => .value (l.value r)
  | .sweep => .number (l.entries.countP fun e => !l.alive e.1)

/-- The resource whose handle or key a step goes through. -/
def subject? (l : Ledger α) : ShelfStep α → Option Nat
  | .attach name _ | .get name | .detach name => l.handles name
  | .getKey key | .detachKey key => l.keys key
  | _ => none

/-- The ledger after several steps. -/
def run (l : Ledger α) (steps : List (ShelfStep α)) : Ledger α := steps.foldl next l

/-- All that several steps do to what is attached to a resource, in order. -/
def acts (l : Ledger α) (r : Nat) : List (ShelfStep α) → List (Option α)
  | [] => []
  | step :: steps => (l.act? r step).toList ++ (l.next step).acts r steps

/-- The last act counts. -/
theorem value_run (l : Ledger α) (r : Nat) (steps : List (ShelfStep α)) :
    (l.run steps).value r = (l.acts r steps).getLast?.getD (l.value r) := by
  induction steps generalizing l with
  | nil => rfl
  | cons step steps ih =>
    rw [run, List.foldl_cons, ← run, ih, acts, List.getLast?_append]
    show _ =
      (((l.next step).acts r steps).getLast?.or (l.act? r step).toList.getLast?).getD (l.value r)
    cases ((l.next step).acts r steps).getLast? with
    | some last => rfl
    | none =>
      show (l.act? r step).getD (l.value r) = _
      cases l.act? r step <;> rfl

/-! ## Shelves and their ledgers -/

/-- What a shelf and its ledger have in common. -/
structure Books (l : Ledger α) (s : Shelf α) : Prop where
  sound : s.Sound
  born : l.born = s.resources.born
  handles : ∀ name, l.handles name = (s.handles.get? name).map Resource.birth
  keys : ∀ key, l.keys key = (s.keys.get? key).map Resource.birth
  alive : ∀ {r}, s.Known r → l.alive r.birth = s.resources.isAlive r
  values : ∀ b v, l.value b = some v ↔ ∃ slot ∈ s.store.slots, slot.owner.birth = b ∧ slot.value = v

namespace Books

variable {l : Ledger α} {s : Shelf α} (books : l.Books s)
include books

theorem get? {r : Resource} (known : s.Known r) : s.store.get? r = l.value r.birth := by
  ext v
  rw [Store.get?, Option.map_eq_some_iff, books.values]
  constructor
  · rintro ⟨slot, found, rfl⟩
    obtain ⟨listed, here⟩ := Store.slot?_eq_some_iff.mp found
    exact ⟨slot, listed, congrArg Resource.birth ((books.sound.owner_eq known listed).mp here), rfl⟩
  · rintro ⟨slot, listed, here, rfl⟩
    have own := books.sound.births (.entry listed rfl) known here
    exact ⟨slot, Store.slot?_eq_some_iff.mpr ⟨listed, congrArg Resource.id own⟩, rfl⟩

theorem handles_eq {name : String} {r : Resource} (known : s.Known r) :
    l.handles name = some r.birth ↔ s.handles.get? name = some r := by
  rw [books.handles, Option.map_eq_some_iff]
  constructor
  · rintro ⟨q, held, same⟩
    rw [held, books.sound.births (.handle held) known same]
  · intro held
    exact ⟨r, held, rfl⟩

/-! ## Steps -/

theorem restock {store : Store α} {value : Nat → Option α}
    (owners : ∀ slot ∈ store.slots, s.Known slot.owner)
    (values : ∀ b v, value b = some v ↔ ∃ slot ∈ store.slots, slot.owner.birth = b ∧ slot.value = v) :
    ({ l with value := value } : Ledger α).Books { s with store := store } where
  sound := books.sound.restock owners
  born := books.born
  handles := books.handles
  keys := books.keys
  alive := fun known => books.alive (Shelf.known_restock owners known)
  values := values

theorem attach {name : String} {r : Resource} (held : s.handles.get? name = some r) (value : α) :
    (l.next (.attach name value)).Books { s with store := s.store.attach r value } := by
  have known : s.Known r := .handle held
  have named := (books.handles_eq known).mpr held
  apply books.restock
  · intro slot mem
    rcases Store.mem_attach.mp mem with rfl | ⟨mem, -⟩
    · exact known
    · exact .entry mem rfl
  · intro b v
    simp only [act?, named, Option.some.injEq]
    by_cases here : r.birth = b
    · rw [if_pos here, Option.getD_some, Option.some.injEq]
      constructor
      · rintro rfl
        exact ⟨⟨r, value⟩, Store.mem_attach.mpr (.inl rfl), here, rfl⟩
      · rintro ⟨slot, mem, own, rfl⟩
        rcases Store.mem_attach.mp mem with rfl | ⟨mem, other⟩
        · rfl
        · exact absurd ((books.sound.id_eq_iff known mem).mpr (own.trans here.symm)) other
    · rw [if_neg here, Option.getD_none, books.values]
      constructor
      · rintro ⟨slot, mem, own, rfl⟩
        have other : slot.owner.id ≠ r.id := fun eq =>
          here (((books.sound.id_eq_iff known mem).mp eq).symm.trans own)
        exact ⟨slot, Store.mem_attach.mpr (.inr ⟨mem, other⟩), own, rfl⟩
      · rintro ⟨slot, mem, own, rfl⟩
        rcases Store.mem_attach.mp mem with rfl | ⟨mem, -⟩
        · exact absurd own here
        · exact ⟨slot, mem, own, rfl⟩

/-- A step that removes what is attached to one resource. -/
theorem erase {r : Resource} (known : s.Known r) {acts : Nat → Option (Option α)}
    (removes : ∀ b, acts b = if r.birth = b then some none else none) :
    ({ l with value := fun b => (acts b).getD (l.value b) } : Ledger α).Books
      { s with store := s.store.erase r.id } := by
  apply books.restock
  · exact fun slot mem => .entry (Store.mem_erase.mp mem).1 rfl
  · intro b v
    rw [removes]
    by_cases here : r.birth = b
    · rw [if_pos here, Option.getD_some]
      constructor
      · rintro ⟨⟩
      · rintro ⟨slot, mem, own, rfl⟩
        obtain ⟨mem, other⟩ := Store.mem_erase.mp mem
        exact absurd ((books.sound.id_eq_iff known mem).mpr (own.trans here.symm)) other
    · rw [if_neg here, Option.getD_none, books.values]
      constructor
      · rintro ⟨slot, mem, own, rfl⟩
        have other : slot.owner.id ≠ r.id := fun eq =>
          here (((books.sound.id_eq_iff known mem).mp eq).symm.trans own)
        exact ⟨slot, Store.mem_erase.mpr ⟨mem, other⟩, own, rfl⟩
      · rintro ⟨slot, mem, own, rfl⟩
        exact ⟨slot, (Store.mem_erase.mp mem).1, own, rfl⟩

theorem sweep : (l.next .sweep).Books { s with store := s.store.sweep s.resources.isAlive } := by
  apply books.restock
  · exact fun slot mem => .entry (List.mem_filter.mp mem).1 rfl
  · intro b v
    have alive : ∀ slot ∈ s.store.slots, l.alive slot.owner.birth = s.resources.isAlive slot.owner :=
      fun slot mem => books.alive (.entry mem rfl)
    rw [act?]
    cases live : l.alive b with
    | true =>
      rw [if_pos rfl, Option.getD_none, books.values]
      constructor
      · rintro ⟨slot, mem, rfl, rfl⟩
        exact ⟨slot, List.mem_filter.mpr ⟨mem, (alive slot mem).symm.trans live⟩, rfl, rfl⟩
      · rintro ⟨slot, mem, own, rfl⟩
        exact ⟨slot, (List.mem_filter.mp mem).1, own, rfl⟩
    | false =>
      constructor
      · rintro ⟨⟩
      · rintro ⟨slot, mem, rfl, rfl⟩
        obtain ⟨mem, live'⟩ := List.mem_filter.mp mem
        rw [alive slot mem, live'] at live
        cases live

theorem drop (name : String) : (l.next (.drop name)).Books (s.drop name) where
  sound := books.sound.drop name
  born := books.born.trans (s.born_drop name).symm
  handles := by
    intro query
    rw [Shelf.handles_drop]
    show (if name = query then none else l.handles query) = _
    split
    · rfl
    · exact books.handles query
  keys := books.keys
  alive := by
    intro r known
    have old := s.known_drop name known
    rw [Shelf.isAlive_drop, ← books.alive old]
    show (l.alive r.birth && decide (l.handles name ≠ some r.birth)) = _
    simp only [ne_eq, books.handles_eq old]
  values := books.values

theorem create (name : String) (id : Nat) : (l.next (.create name id)).Books (s.create name id) where
  sound := books.sound.create name id
  born := by
    rw [Shelf.born_create, ← books.born]
    rfl
  handles := by
    intro query
    rw [Shelf.handles_create]
    show (if name = query then some l.born else l.handles query) = _
    split
    · exact congrArg some books.born
    · exact books.handles query
  keys := books.keys
  alive := by
    intro r known
    rw [Shelf.isAlive_create]
    show ((decide (r.birth = l.born) || l.alive r.birth) && decide (l.handles name ≠ some r.birth)) = _
    rcases s.known_create name known with rfl | old
    · have unnamed : s.handles.get? name ≠ some (s.newest id) :=
        fun held => (Shelf.Known.handle held).ne_newest id rfl
      have unnamed' : l.handles name ≠ some (s.newest id).birth := by
        intro held
        rw [books.handles] at held
        obtain ⟨q, held, same⟩ := Option.map_eq_some_iff.mp held
        exact Nat.ne_of_lt (books.sound.made (.handle held)) same
      have here : (s.newest id).birth = l.born := books.born.symm
      rw [← here]
      simp [unnamed, unnamed']
    · have other : r ≠ s.newest id := fun eq => old.ne_newest id (congrArg Resource.id eq)
      have other' : r.birth ≠ l.born := by
        rw [books.born]
        exact Nat.ne_of_lt (books.sound.made old)
      simp only [other, other', decide_false, Bool.false_or, books.alive old, ne_eq,
        books.handles_eq old]
  values := books.values

theorem remember {name : String} {r : Resource} (held : s.handles.get? name = some r) (key : String) :
    (l.next (.remember name key)).Books { s with keys := s.keys.insert key r } := by
  have named := (books.handles_eq (.handle held)).mpr held
  have next : l.next (.remember name key) =
      { l with keys := fun k => if key = k then some r.birth else l.keys k } := by
    rw [Ledger.next, renamed, named]
    rfl
  rw [next]
  refine ⟨books.sound.remember held key, books.born, books.handles, ?_, ?_, books.values⟩
  · intro query
    show (if key = query then some r.birth else l.keys query) = _
    rw [Table.get?_insert]
    split
    · rfl
    · exact books.keys query
  · exact fun known => books.alive (Shelf.known_remember held known)

theorem unnamed {name : String} (free : s.handles.get? name = none) : l.handles name = none := by
  rw [books.handles, free]
  rfl

theorem named {name : String} {r : Resource} (held : s.handles.get? name = some r) :
    l.handles name = some r.birth := (books.handles_eq (.handle held)).mpr held

theorem unkept {key : String} (free : s.keys.get? key = none) : l.keys key = none := by
  rw [books.keys, free]
  rfl

theorem kept {key : String} {r : Resource} (kept : s.keys.get? key = some r) :
    l.keys key = some r.birth := by
  rw [books.keys, kept]
  rfl

theorem sameKey {key : String} {r : Resource} (kept : s.keys.get? key = some r) (other : String) :
    (s.keys.get? other == some r) = (l.keys other == some r.birth) := by
  cases kept' : s.keys.get? other with
  | none =>
    rw [books.unkept kept']
    rfl
  | some q =>
    have same : q = r ↔ q.birth = r.birth :=
      ⟨congrArg Resource.birth, books.sound.births (.key kept') (.key kept)⟩
    rw [books.kept kept', Bool.eq_iff_iff]
    simp [same]

/-! ## What is held -/

theorem mem_entries {b : Nat} {v : α} : (b, v) ∈ l.entries ↔ l.value b = some v := by
  rw [entries, List.mem_filterMap]
  constructor
  · rintro ⟨r, -, here⟩
    obtain ⟨w, value, pair⟩ := Option.map_eq_some_iff.mp here
    cases pair
    exact value
  · intro value
    obtain ⟨slot, listed, rfl, -⟩ := (books.values b v).mp value
    have made : slot.owner.birth < l.born := by
      rw [books.born]
      exact books.sound.made (.entry listed rfl)
    exact ⟨_, List.mem_range.mpr made, by rw [value]; rfl⟩

/-- A shelf holds what its ledger holds. -/
theorem entries_perm :
    (s.store.slots.map fun slot => (slot.owner.birth, slot.value)).Perm l.entries := by
  -- No birth comes twice on either side, so it is enough that the members are the same.
  have left : (s.store.slots.map fun slot => (slot.owner.birth, slot.value)).Nodup := by
    rw [List.nodup_iff_pairwise_ne, List.pairwise_map]
    apply s.store.distinct.imp_of_mem
    intro a b mem mem' apart same
    have own := books.sound.births (.entry mem rfl) (.entry mem' rfl) (congrArg Prod.fst same)
    exact apart (congrArg Resource.id own)
  have right : l.entries.Nodup := by
    apply List.Nodup.filterMap _ List.nodup_range
    intro a b e here here'
    obtain ⟨v, -, rfl⟩ := Option.map_eq_some_iff.mp here
    obtain ⟨w, -, same⟩ := Option.map_eq_some_iff.mp here'
    exact (congrArg Prod.fst same).symm
  rw [List.perm_ext_iff_of_nodup left right]
  rintro ⟨b, v⟩
  rw [books.mem_entries, books.values, List.mem_map]
  simp only [Prod.mk.injEq]

theorem size : s.store.size = l.entries.length := by
  rw [← books.entries_perm.length_eq, List.length_map]
  rfl

theorem swept : s.store.size - (s.store.sweep s.resources.isAlive).size =
    l.entries.countP fun e => !l.alive e.1 := by
  have dead : s.store.slots.countP (fun slot => !s.resources.isAlive slot.owner) =
      l.entries.countP fun e => !l.alive e.1 := by
    rw [← books.entries_perm.countP_eq, List.countP_map]
    apply List.countP_congr
    intro slot mem
    simp [books.alive (.entry mem rfl)]
  have live : (s.store.sweep s.resources.isAlive).size =
      s.store.slots.countP fun slot => s.resources.isAlive slot.owner := by
    rw [List.countP_eq_length_filter]
    rfl
  have all : s.store.size = s.store.slots.countP (fun slot => s.resources.isAlive slot.owner) +
      s.store.slots.countP fun slot => !s.resources.isAlive slot.owner := by
    rw [Store.size,
      List.length_eq_countP_add_countP fun slot : Slot α => s.resources.isAlive slot.owner]
    simp
  rw [← dead]
  omega

/-- A step that acts on nothing. -/
theorem idle {step : ShelfStep α} (silent : ∀ b, l.act? b step = none) (plain : l.renamed step = l) :
    (l.next step).Books s := by
  have same : l.next step = l := by
    rw [next, plain]
    simp only [silent]
    rfl
  rw [same]
  exact books

/-- A step through a handle or a key does nothing if there is none of the name. -/
theorem through {step : ShelfStep α} {found : Option Resource}
    {f : Resource → ShelfReport α × Shelf α}
    (absent : found = none →
      (∀ b, l.act? b step = none) ∧ l.renamed step = l ∧ l.report step = .unknown)
    (present : ∀ r, found = some r → (l.next step).Books (f r).2 ∧ (f r).1 = l.report step) :
    (l.next step).Books (found.elim (.unknown, s) f).2 ∧
      (found.elim (.unknown, s) f).1 = l.report step := by
  cases named : found with
  | none =>
    obtain ⟨silent, plain, answer⟩ := absent named
    exact ⟨books.idle silent plain, answer.symm⟩
  | some r => exact present r named

/-- A look-up by a key: it removes what is attached to a resource that is not alive. -/
theorem getKey {key : String} {r : Resource} (kept : s.keys.get? key = some r) :
    let (found, store) := s.store.getKey s.resources.isAlive r
    (l.next (.getKey key)).Books { s with store := store } ∧
      .value found = l.report (.getKey key) := by
  have known := books.kept kept
  have alive := books.alive (.key kept)
  rw [report, known, Option.elim_some]
  cases live : s.resources.isAlive r with
  | true =>
    have silent : ∀ b, l.act? b (.getKey key) = none := by
      intro b
      rw [act?, known, if_neg]
      rintro ⟨⟨⟩, dead⟩
      rw [alive, live] at dead
      cases dead
    rw [books.sound.getKey_of_alive (.key kept) live, alive, live, if_pos rfl, books.get? (.key kept)]
    exact ⟨books.idle silent rfl, rfl⟩
  | false =>
    have dead : l.alive r.birth = false := alive.trans live
    have removes : ∀ b, l.act? b (.getKey key) = if r.birth = b then some none else none := by
      intro b
      rw [act?, known]
      by_cases here : r.birth = b
      · rw [if_pos here, ← here, if_pos ⟨rfl, dead⟩]
      · rw [if_neg here, if_neg fun both => here (Option.some.inj both.1)]
    rw [books.sound.getKey_of_dead (.key kept) live, dead]
    exact ⟨books.erase (.key kept) removes, rfl⟩

/-- Every step is the ledger's, and is answered as the ledger says. -/
theorem step (step : ShelfStep α) :
    (l.next step).Books (s.step step).2 ∧ (s.step step).1 = l.report step := by
  cases step with
  | create name id => exact ⟨books.create name id, rfl⟩
  | drop name =>
    refine ⟨books.drop name, ?_⟩
    rw [Shelf.step, report, books.handles, Option.isSome_map]
  | remember name key =>
    apply books.through
    · exact fun free => by simp [act?, renamed, report, books.unnamed free]
    · exact fun r held => ⟨books.remember held key, by rw [report, books.named held]; rfl⟩
  | isAlive key =>
    apply books.through
    · exact fun free => by simp [act?, renamed, report, books.unkept free]
    · intro r kept
      refine ⟨books.idle (fun _ => rfl) rfl, ?_⟩
      rw [report, books.kept kept]
      exact congrArg ShelfReport.truth (books.alive (.key kept)).symm
  | sameKey key other =>
    apply books.through
    · exact fun free => by simp [act?, renamed, report, books.unkept free]
    · intro r kept
      refine ⟨books.idle (fun _ => rfl) rfl, ?_⟩
      rw [report, books.kept kept]
      exact congrArg ShelfReport.truth (books.sameKey kept other)
  | attach name value =>
    apply books.through
    · exact fun free => by simp [act?, renamed, report, books.unnamed free]
    · intro r held
      refine ⟨books.attach held value, ?_⟩
      rw [report, books.named held]
      exact congrArg ShelfReport.value (books.get? (.handle held))
  | get name =>
    apply books.through
    · exact fun free => by simp [act?, renamed, report, books.unnamed free]
    · intro r held
      refine ⟨books.idle (fun _ => rfl) rfl, ?_⟩
      rw [report, books.named held]
      exact congrArg ShelfReport.value (books.get? (.handle held))
  | detach name =>
    apply books.through
    · exact fun free => by simp [act?, renamed, report, books.unnamed free]
    · intro r held
      have named := books.named held
      refine ⟨books.erase (.handle held) fun b => by simp [act?, named], ?_⟩
      rw [report, named]
      exact congrArg ShelfReport.value (books.get? (.handle held))
  | getKey key =>
    apply books.through
    · exact fun free => by simp [act?, renamed, report, books.unkept free]
    · exact fun r kept => books.getKey kept
  | detachKey key =>
    apply books.through
    · exact fun free => by simp [act?, renamed, report, books.unkept free]
    · intro r kept
      have known := books.kept kept
      refine ⟨books.erase (.key kept) fun b => by simp [act?, known], ?_⟩
      rw [report, known]
      exact congrArg ShelfReport.value (books.get? (.key kept))
  | sweep => exact ⟨books.sweep, congrArg ShelfReport.number books.swept⟩

/-! ## Other resources -/

/-- What stands under the id of one resource is no entry of another. -/
theorem mem_erase_other {r : Resource} (known : s.Known r) {slot : Slot α}
    (other : some r.birth ≠ some slot.owner.birth) :
    slot ∈ (s.store.erase r.id).slots ↔ slot ∈ s.store.slots := by
  rw [Store.mem_erase]
  refine ⟨And.left, fun mem => ⟨mem, fun eq => other ?_⟩⟩
  exact congrArg some ((books.sound.id_eq_iff known mem).mp eq).symm

/-- A step through the handle or the key of one resource leaves the entries of all others alone. -/
theorem step_other {step : ShelfStep α} (narrow : step ≠ .sweep) {slot : Slot α}
    (other : l.subject? step ≠ some slot.owner.birth) :
    slot ∈ (s.step step).2.store.slots ↔ slot ∈ s.store.slots := by
  cases step with
  | create name id => exact Iff.rfl
  | drop name => exact Iff.rfl
  | remember name key => exact Shelf.mem_through fun _ _ => Iff.rfl
  | isAlive key => exact Shelf.mem_through fun _ _ => Iff.rfl
  | sameKey key other => exact Shelf.mem_through fun _ _ => Iff.rfl
  | attach name value =>
    apply Shelf.mem_through
    intro r held
    have ne : some r.birth ≠ some slot.owner.birth := books.named held ▸ other
    show slot ∈ (s.store.attach r value).slots ↔ _
    rw [Store.mem_attach, ← Store.mem_erase, books.mem_erase_other (.handle held) ne]
    constructor
    · rintro (rfl | mem)
      · exact absurd rfl ne
      · exact mem
    · exact .inr
  | get name => exact Shelf.mem_through fun _ _ => Iff.rfl
  | detach name =>
    apply Shelf.mem_through
    exact fun r held => books.mem_erase_other (.handle held) (books.named held ▸ other)
  | getKey key =>
    apply Shelf.mem_through
    intro r kept
    cases live : s.resources.isAlive r with
    | true => rw [books.sound.getKey_of_alive (.key kept) live]
    | false =>
      rw [books.sound.getKey_of_dead (.key kept) live]
      exact books.mem_erase_other (.key kept) (books.kept kept ▸ other)
  | detachKey key =>
    apply Shelf.mem_through
    exact fun r kept => books.mem_erase_other (.key kept) (books.kept kept ▸ other)
  | sweep => exact absurd rfl narrow

/-- A sweep takes out what is attached to resources that have no handle any more. -/
theorem mem_sweep {slot : Slot α} : slot ∈ (s.step .sweep).2.store.slots ↔
    slot ∈ s.store.slots ∧ ∃ name, s.handles.get? name = some slot.owner := by
  rw [← books.sound.held]
  exact List.mem_filter

end Books

theorem empty_books : (empty : Ledger α).Books Shelf.empty where
  sound := Shelf.empty_sound
  born := rfl
  handles := fun _ => rfl
  keys := fun _ => rfl
  alive := fun known => absurd known (Shelf.not_known_empty _)
  values := by
    intro b v
    constructor
    · rintro ⟨⟩
    · rintro ⟨slot, ⟨⟩, -⟩

end Ledger

namespace Shelf

/-- The shelf after several steps. -/
def run (s : Shelf α) (steps : List (ShelfStep α)) : Shelf α :=
  steps.foldl (fun s step => (s.step step).2) s

theorem run_books {l : Ledger α} {s : Shelf α} (books : l.Books s) (steps : List (ShelfStep α)) :
    (l.run steps).Books (s.run steps) := by
  induction steps generalizing l s with
  | nil => exact books
  | cons step steps ih => exact ih (books.step step).1

/-- Whatever is done with handles, keys and the store, in any order and with any ids that are free, a
shelf is the map of its ledger: each step is answered from it, the entries are those of the map, and what
is attached to a resource is what was last attached to it and not removed since. A step through one
resource's handle or key leaves the entries of all others, and a sweep takes out those whose handle was
dropped. -/
theorem run_refines (steps : List (ShelfStep α)) (step : ShelfStep α) :
    let s := Shelf.empty.run steps
    let l := Ledger.empty.run steps
    (s.step step).1 = l.report step ∧
    ((s.store.slots.map fun slot => (slot.owner.birth, slot.value)).Perm l.entries ∧
      s.store.size = l.entries.length) ∧
    (∀ r, l.value r = (Ledger.empty.acts r steps).getLast?.join) ∧
    (∀ slot, step ≠ .sweep → l.subject? step ≠ some slot.owner.birth →
      (slot ∈ (s.step step).2.store.slots ↔ slot ∈ s.store.slots)) ∧
    (∀ slot, slot ∈ (s.step .sweep).2.store.slots ↔
      slot ∈ s.store.slots ∧ ∃ name, s.handles.get? name = some slot.owner) := by
  intro s l
  have books : l.Books s := run_books Ledger.empty_books steps
  refine ⟨(books.step step).2, ⟨books.entries_perm, books.size⟩, ?_,
    fun slot narrow other => books.step_other narrow other, fun slot => books.mem_sweep⟩
  intro r
  have last : l.value r = _ := Ledger.value_run Ledger.empty r steps
  rw [last]
  cases (Ledger.empty.acts r steps).getLast? <;> rfl

end Shelf
end Turnstile.Capture
