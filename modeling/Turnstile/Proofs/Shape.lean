import Turnstile.Shape
import Mathlib.Data.List.Forall2
import Mathlib.Data.List.Pairwise
/-!
# Reading JSON values by shape

When a JSON value is read by a shape, and what comes of it. A record is read field by field: each field
has its own part of the structure that is being read (`Reaches`) and leaves the parts of the others
alone (`Spares`), so it holds what the value says about that field, wherever its member stands
(`record_reads`), and the record is read when every field takes what the value says about it (`record_ok`).
-/
namespace Turnstile

namespace Json

/-! ## The parts of a record -/

/-- The values of the members with any of these names. -/
def under (names : List String) (members : List (String × Json)) : List Json :=
  (members.filter fun m => names.contains m.1).map Prod.snd

/-- What a value says about one field of a record, by the names of the field and its place among the
fields: an object by its members, an array by its items. -/
def fieldValues (place : Nat) (names : List String) : Json → List Json
  | .object members => under names members
  | .array items => items[place]?.toList
  | _ => []

/-- The value may stand for a record of so many fields. -/
def IsRecord (count : Nat) : Json → Prop
  | .object _ => True
  | .array items => items.length ≤ count
  | _ => False

section

variable {names : List String} {m : String × Json} {members : List (String × Json)}

theorem under_cons_of_mem (named : m.1 ∈ names) : under names (m :: members) = m.2 :: under names members := by
  simp [under, named]

theorem under_cons_of_not_mem (other : m.1 ∉ names) : under names (m :: members) = under names members := by
  simp [under, other]

end

/-! ## Documents of values -/

theorem itemsToTree_eq (items : List Json) : itemsToTree items = items.map toTree := by
  induction items with
  | nil => rfl
  | cons item items ih => rw [itemsToTree, ih, List.map_cons]

mutual

/-- Nothing stops a reader that skips a value. -/
theorem skipFlaw_toTree : ∀ v : Json, v.toTree.skipFlaw = none
  | .null => rfl
  | .bool _ => rfl
  | .number _ => rfl
  | .string _ => rfl
  | .array items => by rw [toTree, Tree.skipFlaw, itemsFlaw_toTree items, Option.none_or]
  | .object members => by rw [toTree, Tree.skipFlaw, membersFlaw_toTree members, Option.none_or]

theorem itemsFlaw_toTree : ∀ items : List Json, Tree.itemsFlaw (itemsToTree items) = none
  | [] => rfl
  | item :: items => by
    rw [itemsToTree, Tree.itemsFlaw, skipFlaw_toTree item, itemsFlaw_toTree items, Option.none_or]

theorem membersFlaw_toTree : ∀ members : List (String × Json), Tree.membersFlaw (membersToTree members) = none
  | [] => rfl
  | (name, value) :: members => by
    rw [membersToTree, Tree.membersFlaw, skipFlaw_toTree value, membersFlaw_toTree members, Option.none_or,
      Option.none_or]

end

end Json

namespace Shape

open Json

variable {α β σ : Type}

theorem map_eq_ok_iff {x : Except Misfit α} {f : α → β} {b : β} :
    x.map f = .ok b ↔ ∃ a, x = .ok a ∧ f a = b := by
  cases x <;> simp [Except.map]

theorem bind_eq_ok_iff {x : Except Misfit α} {f : α → Except Misfit β} {b : β} :
    x >>= f = .ok b ↔ ∃ a, x = .ok a ∧ f a = .ok b := by
  cases x <;> simp [bind, Except.bind]

/-! ## Scalars and lists -/

theorem string_toTree_iff {v : Json} {s : String} : string v.toTree = .ok s ↔ v = .string s := by
  cases v <;> simp [string, text, toTree, Tree.ofString, written, Except.mapError, mismatch, Tree.found, Except.map]

theorem integer_toTree_iff {wanted : String} {low high n : Int} {v : Json} :
    integer wanted low high v.toTree = .ok n ↔ v = .ofInt n ∧ low ≤ n ∧ n ≤ high := by
  cases v with
  | number m =>
    cases m with
    | whole m =>
      simp only [integer, toTree, ofInt, Json.number.injEq, Number.whole.injEq]
      split
      · rename_i fits
        simp only [Except.ok.injEq]
        exact ⟨fun same => ⟨same, same ▸ fits⟩, And.left⟩
      · rename_i beyond
        constructor
        · intro read
          contradiction
        · rintro ⟨rfl, fits⟩
          exact absurd fits beyond
    | real x => simp [integer, toTree, ofInt, mismatch, Tree.found, Except.map]
  | _ => simp [integer, toTree, ofInt, mismatch, Tree.found, Tree.ofString, Except.map]

theorem natural_toTree {wanted : String} {high : Int} {n : Nat} (small : n ≤ high) :
    (integer wanted 0 high (Json.ofNat n).toTree).map Int.toNat = .ok n := by
  have read : integer wanted 0 high (Json.ofNat n).toTree = .ok (n : Int) :=
    integer_toTree_iff.mpr ⟨rfl, Int.natCast_nonneg n, small⟩
  rw [read]
  rfl

theorem optional_toTree_iff {shape : Shape α} {v : Json} {a : Option α} :
    optional shape v.toTree = .ok a ↔
      v = .null ∧ a = none ∨ v ≠ .null ∧ ∃ b, shape v.toTree = .ok b ∧ a = some b := by
  by_cases null : v = .null
  · subst null
    simp [optional, toTree, eq_comm]
  have same : optional shape v.toTree = (shape v.toTree).map some := by
    cases v with
    | null => contradiction
    | _ => rfl
  rw [same]
  cases shape v.toTree with
  | error e => simp [Except.map, null]
  | ok b =>
    simp only [Except.map, Except.ok.injEq, null, false_and, ne_eq, not_false_eq_true, true_and, false_or,
      exists_eq_left']
    exact eq_comm

theorem mapM_toTree_iff {shape : Shape α} {items : List Json} {as : List α} :
    (items.map toTree).mapM shape = .ok as ↔ List.Forall₂ (fun v a => shape v.toTree = .ok a) items as := by
  induction items generalizing as with
  | nil =>
    rw [List.map_nil, List.mapM_nil, List.forall₂_nil_left_iff]
    exact ⟨fun read => (Except.ok.inj read).symm, fun same => same ▸ rfl⟩
  | cons item items ih =>
    rw [List.map_cons, List.mapM_cons, List.forall₂_cons_left_iff]
    constructor
    · intro read
      obtain ⟨a, first, read⟩ := bind_eq_ok_iff.mp read
      obtain ⟨rest, later, read⟩ := bind_eq_ok_iff.mp read
      exact ⟨a, rest, first, ih.mp later, (Except.ok.inj read).symm⟩
    · rintro ⟨a, rest, first, later, rfl⟩
      rw [first, ih.mpr later]
      rfl

theorem list_toTree_iff {shape : Shape α} {v : Json} {as : List α} :
    list shape v.toTree = .ok as ↔
      ∃ items, v = .array items ∧ List.Forall₂ (fun v a => shape v.toTree = .ok a) items as := by
  cases v with
  | array items =>
    simp only [list, toTree, itemsToTree_eq, Json.array.injEq, exists_eq_left', ← mapM_toTree_iff]
    cases (items.map toTree).mapM shape <;> simp [bind, Except.bind, unlessFlaw]
  | _ => simp [list, toTree, Tree.ofString, mismatch, Tree.found, Except.map]

/-! ## Fields -/

/-- What the values of a field make of it: one is read, and none leaves it open. -/
inductive Reads (shape : Shape α) : List Json → Option α → Prop
  | absent : Reads shape [] none
  | once {v : Json} {a : α} (read : shape v.toTree = .ok a) : Reads shape [v] (some a)

theorem Reads.unique {shape : Shape α} {values : List Json} {a b : Option α} (first : Reads shape values a)
    (second : Reads shape values b) : a = b := by
  cases first with
  | absent =>
    cases second
    rfl
  | once read =>
    cases second with
    | once again => rw [Except.ok.inj (read.symm.trans again)]

namespace Field

variable {f g : Field σ} {shape : Shape α} {get : σ → Option α}

/-- All names of a field. -/
def names (f : Field σ) : List String := f.name :: f.aliases

theorem answersTo_iff {name : String} : f.answersTo name = true ↔ name ∈ f.names := by
  simp [answersTo, names, eq_comm (a := name)]

/-- The field is read by this shape into this part of the structure. -/
structure Reaches (f : Field σ) (shape : Shape α) (get : σ → Option α) : Prop where
  given : ∀ s, f.given s = (get s).isSome
  read : ∀ {t s s'}, f.read t s = .ok s' → ∃ a, shape t = .ok a ∧ get s' = some a
  takes : ∀ {t a}, shape t = .ok a → ∀ s, ∃ s', f.read t s = .ok s'

/-- Reading the field leaves this part of the structure as it is. -/
def Spares (f : Field σ) (part : σ → β) : Prop := ∀ t s s', f.read t s = .ok s' → part s' = part s

/-- Neither field is taken for the other. -/
structure Apart (f g : Field σ) : Prop where
  names : ∀ name ∈ f.names, name ∉ g.names
  spares : f.Spares g.given
  spared : g.Spares f.given

instance : Std.Symm (@Apart σ) where
  symm _ _ apart := ⟨fun name mine yours => apart.names name yours mine, apart.spared, apart.spares⟩

/-- A field that has been read counts as given. -/
def Marks (f : Field σ) : Prop := ∀ t s s', f.read t s = .ok s' → f.given s' = true

theorem Reaches.marks (reaches : f.Reaches shape get) : f.Marks := by
  intro t s s' read
  obtain ⟨a, -, held⟩ := reaches.read read
  rw [reaches.given, held]
  rfl

/-- The field is read from the value. -/
def Takes (f : Field σ) (v : Json) : Prop := ∀ s, ∃ s', f.read v.toTree s = .ok s'

/-- The field makes do with these values. -/
def Accepts (f : Field σ) : List Json → Prop
  | [] => f.required = false
  | [v] => f.Takes v
  | _ => False

/-- A field that is not required accepts whatever its shape reads. -/
theorem Reaches.accepts (reaches : f.Reaches shape get) (free : f.required = false) {values : List Json}
    {a : Option α} (reads : Reads shape values a) : f.Accepts values := by
  cases reads with
  | absent => exact free
  | once read => exact reaches.takes read

end Field

section

variable {name : String} {aliases : List String} {required : Bool} {shape : Shape α} {get : σ → Option α}
  {set : σ → α → σ}

theorem field_reaches (back : ∀ s a, get (set s a) = some a) :
    (field name aliases required shape get set).Reaches shape get where
  given _ := rfl
  read {t s s'} read := by
    obtain ⟨a, here, rfl⟩ := map_eq_ok_iff.mp read
    exact ⟨a, here, back s a⟩
  takes {t a} here s := ⟨set s a, by simp only [field, here, Except.map]⟩

theorem field_spares {part : σ → β} (other : ∀ s a, part (set s a) = part s) :
    (field name aliases required shape get set).Spares part := by
  intro t s s' read
  obtain ⟨a, -, rfl⟩ := map_eq_ok_iff.mp read
  exact other s a

end

/-! ## Objects -/

section

variable {fields before after : List (Field σ)} {f g : Field σ} {shape : Shape α} {get : σ → Option α}
  {part : σ → β} {name : String} {v : Json} {members : List (String × Json)} {s s' : σ}

theorem fillMembers_skip (unknown : ∀ f ∈ fields, name ∉ f.names) :
    fillMembers fields (membersToTree ((name, v) :: members)) s =
      fillMembers fields (membersToTree members) s := by
  have none : fields.find? (·.answersTo name) = none := by
    rw [List.find?_eq_none]
    exact fun f mem answers => unknown f mem (Field.answersTo_iff.mp answers)
  rw [membersToTree, fillMembers, written]
  simp only [Except.mapError, bind, Except.bind, none, skipFlaw_toTree, unlessFlaw]

theorem fillMembers_read (found : fields.find? (·.answersTo name) = some f) :
    fillMembers fields (membersToTree ((name, v) :: members)) s =
      if f.given s then .error (.repeatedField f.name)
      else f.read v.toTree s >>= fillMembers fields (membersToTree members) := by
  rw [membersToTree, fillMembers, written]
  simp only [Except.mapError, bind, Except.bind, found]

/-- Where the first member of an object goes. -/
theorem find_cases (fields : List (Field σ)) (name : String) :
    (∀ f ∈ fields, name ∉ f.names) ∨
      ∃ f ∈ fields, name ∈ f.names ∧ fields.find? (·.answersTo name) = some f := by
  cases found : fields.find? (·.answersTo name) with
  | none =>
    refine .inl fun f mem named => ?_
    exact List.find?_eq_none.mp found f mem (Field.answersTo_iff.mpr named)
  | some f =>
    have answers : f.answersTo name = true := List.find?_some (p := fun f : Field σ => f.answersTo name) found
    exact .inr ⟨f, List.mem_of_find?_eq_some found, Field.answersTo_iff.mp answers, rfl⟩

/-- What has been read of an object holds what the object says about each field. -/
theorem fillMembers_reads (reaches : f.Reaches shape get)
    (others : ∀ g ∈ before ++ after, g.Spares get ∧ ∀ name ∈ g.names, name ∉ f.names)
    (read : fillMembers (before ++ f :: after) (membersToTree members) s = .ok s') :
    under f.names members = [] ∧ get s' = get s ∨ get s = none ∧ Reads shape (under f.names members) (get s') := by
  induction members generalizing s with
  | nil =>
    obtain rfl : s = s' := Except.ok.inj read
    exact .inl ⟨rfl, rfl⟩
  | cons m members ih =>
    obtain ⟨name, v⟩ := m
    rcases find_cases (before ++ f :: after) name with unknown | ⟨g, mem, named, found⟩
    · have other := unknown f (by simp)
      rw [fillMembers_skip unknown] at read
      rw [under_cons_of_not_mem other]
      exact ih read
    rw [fillMembers_read found] at read
    split at read
    · contradiction
    rename_i fresh
    obtain ⟨next, first, read⟩ := bind_eq_ok_iff.mp read
    have later := ih read
    by_cases same : g = f
    · subst same
      rw [reaches.given, Bool.not_eq_true, Option.isSome_eq_false_iff, Option.isNone_iff_eq_none] at fresh
      obtain ⟨a, here, held⟩ := reaches.read first
      rw [under_cons_of_mem named]
      rcases later with ⟨none, kept⟩ | ⟨empty, -⟩
      · rw [none, kept, held]
        exact .inr ⟨fresh, .once here⟩
      · rw [held] at empty
        contradiction
    · have elsewhere : g ∈ before ++ after := by
        simp only [List.mem_append, List.mem_cons] at mem ⊢
        tauto
      obtain ⟨spares, apart⟩ := others g elsewhere
      rw [under_cons_of_not_mem (apart name named), ← spares _ _ _ first]
      exact later

/-- The field has values it can read, at most one of which is still to come. -/
def Ready (f : Field σ) (members : List (String × Json)) (s : σ) : Prop :=
  under f.names members = [] ∨ f.given s = false ∧ ∃ v, under f.names members = [v] ∧ f.Takes v

/-- An object is read when every field takes what the object says about it. -/
theorem fillMembers_ok (apart : fields.Pairwise Field.Apart) (marks : ∀ f ∈ fields, f.Marks)
    (ready : ∀ f ∈ fields, Ready f members s) :
    ∃ s', fillMembers fields (membersToTree members) s = .ok s' ∧
      ∀ f ∈ fields, f.given s' = (f.given s || !(under f.names members).isEmpty) := by
  induction members generalizing s with
  | nil => exact ⟨s, rfl, fun f _ => by simp [under]⟩
  | cons m members ih =>
    obtain ⟨name, v⟩ := m
    rcases find_cases fields name with unknown | ⟨g, mem, named, found⟩
    · have same : ∀ f ∈ fields, under f.names ((name, v) :: members) = under f.names members :=
        fun f mem => under_cons_of_not_mem (unknown f mem)
      have later : ∀ f ∈ fields, Ready f members s := by
        intro f mem
        rw [Ready, ← same f mem]
        exact ready f mem
      obtain ⟨s', read, given⟩ := ih later
      refine ⟨s', (fillMembers_skip unknown).trans read, fun f mem => ?_⟩
      rw [same f mem]
      exact given f mem
    -- the field that answers takes the value, and has no other
    have here := ready g mem
    rw [Ready, under_cons_of_mem named] at here
    obtain ⟨fresh, takes, last⟩ : g.given s = false ∧ g.Takes v ∧ under g.names members = [] := by
      rcases here with none | ⟨fresh, w, once, takes⟩
      · contradiction
      · injection once with same last
        obtain rfl : v = w := same
        exact ⟨fresh, takes, last⟩
    obtain ⟨next, first⟩ := takes s
    have others : ∀ f ∈ fields, f ≠ g →
        f.given next = f.given s ∧ under f.names ((name, v) :: members) = under f.names members := by
      intro f here other
      have apart := apart.forall mem here (Ne.symm other)
      exact ⟨apart.spares _ _ _ first, under_cons_of_not_mem (apart.names name named)⟩
    have later : ∀ f ∈ fields, Ready f members next := by
      intro f here
      by_cases same : f = g
      · exact .inl (same ▸ last)
      · obtain ⟨given, values⟩ := others f here same
        rw [Ready, given, ← values]
        exact ready f here
    obtain ⟨s', read, given⟩ := ih later
    refine ⟨s', ?_, fun f here => ?_⟩
    · rw [fillMembers_read found, fresh]
      simp only [Bool.false_eq_true, if_false, first]
      exact read
    · rw [given f here]
      by_cases same : f = g
      · rw [same, marks g mem _ _ _ first, under_cons_of_mem named]
        simp
      · rw [(others f here same).1, (others f here same).2]

end

/-! ## Arrays -/

section

variable {tooShort : Nat → Misfit} {length index : Nat} {fields before after : List (Field σ)} {f : Field σ}
  {shape : Shape α} {get : σ → Option α} {part : σ → β} {items : List Json} {s s' : σ}

theorem fillItems_cons_iff {item : Tree} {items : List Tree} :
    fillItems tooShort length none (f :: fields) index (item :: items) s = .ok s' ↔
      ∃ next, f.read item s = .ok next ∧
        fillItems tooShort length none fields (index + 1) items next = .ok s' := by
  rw [fillItems, bind_eq_ok_iff]

theorem fillItems_done_iff :
    fillItems tooShort length none (f :: fields) index (([] : List Json).map toTree) s = .ok s' ↔
      f.required = false ∧
        fillItems tooShort length none fields (index + 1) (([] : List Json).map toTree) s = .ok s' := by
  rw [List.map_nil, fillItems]
  cases f.required <;> simp [bind, Except.bind, unlessFlaw]

theorem fillItems_length (read : fillItems tooShort length none fields index (items.map toTree) s = .ok s') :
    items.length ≤ fields.length := by
  induction fields generalizing index items s with
  | nil =>
    cases items with
    | nil => exact Nat.le_refl 0
    | cons item items => contradiction
  | cons f fields ih =>
    cases items with
    | nil => exact Nat.zero_le _
    | cons item items =>
      obtain ⟨next, -, later⟩ := fillItems_cons_iff.mp read
      exact Nat.succ_le_succ (ih later)

theorem fillItems_spares (spares : ∀ f ∈ fields, f.Spares part)
    (read : fillItems tooShort length none fields index (items.map toTree) s = .ok s') : part s' = part s := by
  induction fields generalizing index items s with
  | nil =>
    cases items with
    | nil =>
      obtain rfl : s = s' := Except.ok.inj read
      rfl
    | cons item items => contradiction
  | cons f fields ih =>
    rw [List.forall_mem_cons] at spares
    cases items with
    | nil => exact ih spares.2 (fillItems_done_iff.mp read).2
    | cons item items =>
      obtain ⟨next, first, later⟩ := fillItems_cons_iff.mp read
      rw [ih spares.2 later, spares.1 _ _ _ first]

/-- What has been read of an array holds what the item in its place says about each field. -/
theorem fillItems_reads (reaches : f.Reaches shape get) (others : ∀ g ∈ before ++ after, g.Spares get)
    (fresh : get s = none)
    (read : fillItems tooShort length none (before ++ f :: after) index (items.map toTree) s = .ok s') :
    Reads shape items[before.length]?.toList (get s') := by
  induction before generalizing index items s with
  | nil =>
    cases items with
    | nil =>
      rw [fillItems_spares others (fillItems_done_iff.mp read).2, fresh]
      exact .absent
    | cons item items =>
      obtain ⟨next, first, later⟩ := fillItems_cons_iff.mp read
      obtain ⟨a, here, held⟩ := reaches.read first
      rw [fillItems_spares others later, held]
      exact .once here
  | cons g before ih =>
    rw [List.cons_append, List.forall_mem_cons] at others
    cases items with
    | nil => exact ih others.2 fresh (fillItems_done_iff.mp read).2
    | cons item items =>
      obtain ⟨next, first, later⟩ := fillItems_cons_iff.mp read
      exact ih others.2 ((others.1 _ _ _ first).trans fresh) later

/-- An array is read when it has no more items than there are fields, and each field takes its item. -/
theorem fillItems_ok (short : items.length ≤ fields.length)
    (accepts : ∀ (i : Nat) (f : Field σ), fields[i]? = some f → f.Accepts items[i]?.toList) :
    ∃ s', fillItems tooShort length none fields index (items.map toTree) s = .ok s' := by
  induction fields generalizing index items s with
  | nil =>
    obtain rfl := List.length_eq_zero_iff.mp (Nat.le_zero.mp short)
    exact ⟨s, rfl⟩
  | cons f fields ih =>
    have here := accepts 0 f rfl
    cases items with
    | nil =>
      obtain ⟨s', read⟩ : ∃ s', fillItems tooShort length none fields (index + 1) (([] : List Json).map toTree) s =
          .ok s' := ih (Nat.zero_le _) fun i g found => accepts (i + 1) g found
      exact ⟨s', fillItems_done_iff.mpr ⟨here, read⟩⟩
    | cons item items =>
      obtain ⟨next, first⟩ : ∃ next, f.read item.toTree s = .ok next := here s
      obtain ⟨s', read⟩ : ∃ s', fillItems tooShort length none fields (index + 1) (items.map toTree) next = .ok s' :=
        ih (Nat.le_of_succ_le_succ short) fun i g found => accepts (i + 1) g found
      exact ⟨s', fillItems_cons_iff.mpr ⟨next, first, read⟩⟩

end

/-! ## Records -/

section

variable {wanted : String} {fields : List (Field σ)} {f : Field σ} {shape : Shape α} {get : σ → Option α} {v : Json}
  {start s : σ}

theorem record_object_iff {members : List (String × Json)} :
    record wanted fields start (Json.object members).toTree = .ok s ↔
      fillMembers fields (membersToTree members) start = .ok s ∧ missing? fields s = none := by
  rw [toTree, record, bind_eq_ok_iff]
  constructor
  · rintro ⟨filled, read, complete⟩
    split at complete
    · contradiction
    · rename_i missing
      obtain rfl : filled = s := Except.ok.inj complete
      exact ⟨read, missing⟩
  · rintro ⟨read, missing⟩
    exact ⟨s, read, by rw [missing]; rfl⟩

/-- Only what may stand for a record is read as one. -/
theorem record_isRecord (read : record wanted fields start v.toTree = .ok s) : v.IsRecord fields.length := by
  cases v with
  | object members => trivial
  | array items =>
    rw [toTree, itemsToTree_eq] at read
    exact fillItems_length read
  | _ => simp [record, toTree, Tree.ofString, mismatch, Tree.found, Except.map] at read

/-- A record that has been read holds what the value says about each field. -/
theorem record_reads (before after : List (Field σ)) (reaches : f.Reaches shape get)
    (others : ∀ g ∈ before ++ after, g.Spares get ∧ ∀ name ∈ g.names, name ∉ f.names)
    (fresh : get start = none) (read : record wanted (before ++ f :: after) start v.toTree = .ok s) :
    Reads shape (v.fieldValues before.length f.names) (get s) := by
  cases v with
  | object members =>
    rcases fillMembers_reads reaches others (record_object_iff.mp read).1 with ⟨none, kept⟩ | ⟨-, reads⟩
    · rw [fieldValues, none, kept, fresh]
      exact .absent
    · exact reads
  | array items =>
    rw [toTree, itemsToTree_eq] at read
    exact fillItems_reads reaches (fun g mem => (others g mem).1) fresh read
  | _ => exact (record_isRecord read).elim

/-- A value is read as a record when it may stand for one and every field takes what it says. -/
theorem record_ok (apart : fields.Pairwise Field.Apart) (marks : ∀ f ∈ fields, f.Marks)
    (fresh : ∀ f ∈ fields, f.given start = false) (stands : v.IsRecord fields.length)
    (accepts : ∀ (i : Nat) (f : Field σ), fields[i]? = some f → f.Accepts (v.fieldValues i f.names)) :
    ∃ s, record wanted fields start v.toTree = .ok s := by
  cases v with
  | object members =>
    have each : ∀ f ∈ fields, f.Accepts (under f.names members) := by
      intro f mem
      obtain ⟨i, found⟩ := List.mem_iff_getElem?.mp mem
      exact accepts i f found
    have ready : ∀ f ∈ fields, Ready f members start := by
      intro f mem
      have accepts := each f mem
      rw [Ready]
      match values : under f.names members with
      | [] => exact .inl rfl
      | [w] =>
        rw [values] at accepts
        exact .inr ⟨fresh f mem, w, rfl, accepts⟩
      | _ :: _ :: _ =>
        rw [values] at accepts
        exact accepts.elim
    obtain ⟨s, read, given⟩ := fillMembers_ok apart marks ready
    have complete : missing? fields s = none := by
      rw [missing?, Option.map_eq_none_iff, List.find?_eq_none]
      intro f mem missing
      rw [given f mem, fresh f mem] at missing
      have accepts := each f mem
      match values : under f.names members with
      | [] =>
        rw [values] at accepts
        have free : f.required = false := accepts
        simp [free] at missing
      | _ :: _ => simp [values] at missing
    exact ⟨s, record_object_iff.mpr ⟨read, complete⟩⟩
  | array items =>
    rw [toTree, itemsToTree_eq]
    exact fillItems_ok stands accepts
  | _ => exact stands.elim

/-- What is made of a record of two fields, when either may be left out. -/
theorem record_pair_iff {ρ : Type} {make : σ → ρ} {r : ρ} {g : Field σ} {shape' : Shape β} {get' : σ → Option β}
    {P : Option α → Prop} {Q : Option β → Prop} (made : ∀ s, make s = r ↔ P (get s) ∧ Q (get' s)) (reaches : f.Reaches shape get) (reaches' : g.Reaches shape' get')
    (names : ∀ name ∈ f.names, name ∉ g.names) (spares : f.Spares get') (spares' : g.Spares get)
    (free : f.required = false) (free' : g.required = false) (fresh : get start = none)
    (fresh' : get' start = none) :
    (record wanted [f, g] start v.toTree).map make = .ok r ↔
      v.IsRecord 2 ∧ (∃ a, Reads shape (v.fieldValues 0 f.names) a ∧ P a) ∧
        ∃ b, Reads shape' (v.fieldValues 1 g.names) b ∧ Q b := by
  have names' : ∀ name ∈ g.names, name ∉ f.names := fun name mine yours => names name yours mine
  have parts {s : σ} (read : record wanted [f, g] start v.toTree = .ok s) :
      Reads shape (v.fieldValues 0 f.names) (get s) ∧ Reads shape' (v.fieldValues 1 g.names) (get' s) := by
    constructor
    · refine record_reads [] [g] reaches ?_ fresh read
      simpa using ⟨spares', names'⟩
    · refine record_reads [f] [] reaches' ?_ fresh' read
      simpa using ⟨spares, names⟩
  simp only [map_eq_ok_iff, made]
  constructor
  · rintro ⟨s, read, p, q⟩
    exact ⟨record_isRecord read, ⟨_, (parts read).1, p⟩, _, (parts read).2, q⟩
  · rintro ⟨stands, ⟨a, first, p⟩, b, second, q⟩
    have apart : f.Apart g := by
      refine ⟨names, fun t s s' read => ?_, fun t s s' read => ?_⟩
      · rw [reaches'.given, reaches'.given, spares _ _ _ read]
      · rw [reaches.given, reaches.given, spares' _ _ _ read]
    have accepts : ∀ (i : Nat) (h : Field σ), [f, g][i]? = some h → h.Accepts (v.fieldValues i h.names) := by
      intro i h found
      match i with
      | 0 =>
        obtain rfl : f = h := Option.some.inj found
        exact reaches.accepts free first
      | 1 =>
        obtain rfl : g = h := Option.some.inj found
        exact reaches'.accepts free' second
    have marks : ∀ h ∈ [f, g], h.Marks := by
      simpa using ⟨reaches.marks, reaches'.marks⟩
    have still : ∀ h ∈ [f, g], h.given start = false := by
      simp [reaches.given, reaches'.given, fresh, fresh']
    obtain ⟨s, read⟩ : ∃ s, record wanted [f, g] start v.toTree = .ok s :=
      record_ok (List.pairwise_pair.mpr apart) marks still stands accepts
    refine ⟨s, read, ?_, ?_⟩
    · rwa [(parts read).1.unique first]
    · rwa [(parts read).2.unique second]

end

end Shape
end Turnstile
