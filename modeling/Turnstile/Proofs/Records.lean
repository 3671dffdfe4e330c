import Turnstile.Proofs.Json.RoundTrip
import Turnstile.Proofs.Shape
/-!
# Records by their components

A record has a part for each of its fields (`Layout`). An object is read as the record whose every part is what
the object says about it (`record_object_eq`), whatever other members there are and however they are mixed.
`ReadsAs` says of a value that it and its text are both read as something.
-/
namespace Turnstile.Shape

open Json

variable {α β σ : Type}

/-- A field, with the shape it is read by and the part of the record that it fills. -/
structure Component (σ : Type) where
  Content : Type
  field : Field σ
  shape : Shape Content
  get : σ → Option Content
  reaches : field.Reaches shape get

namespace Component

/-- The part of a field that is read into a place of its own. -/
def ofField (name : String) (aliases : List String) (required : Bool) (shape : Shape α) (get : σ → Option α)
    (set : σ → α → σ) (back : ∀ s a, get (set s a) = some a) : Component σ where
  Content := α
  field := Shape.field name aliases required shape get set
  shape := shape
  get := get
  reaches := field_reaches back

/-- Neither part is taken for the other, and filling one leaves the other alone. -/
structure Apart (p q : Component σ) : Prop where
  names : ∀ name ∈ p.field.names, name ∉ q.field.names
  spares : p.field.Spares q.get
  spared : q.field.Spares p.get

theorem Apart.symm {p q : Component σ} (apart : p.Apart q) : q.Apart p :=
  ⟨fun name mine yours => apart.names name yours mine, apart.spared, apart.spares⟩

theorem Apart.fields {p q : Component σ} (apart : p.Apart q) : p.field.Apart q.field := by
  refine ⟨apart.names, fun t s s' read => ?_, fun t s s' read => ?_⟩
  · rw [q.reaches.given, q.reaches.given, apart.spares t s s' read]
  · rw [p.reaches.given, p.reaches.given, apart.spared t s s' read]

theorem ofField_apart {name name' : String} {aliases aliases' : List String} {required required' : Bool}
    {shape : Shape α} {shape' : Shape β} {get : σ → Option α} {get' : σ → Option β} {set : σ → α → σ}
    {set' : σ → β → σ} {back : ∀ s a, get (set s a) = some a} {back' : ∀ s a, get' (set' s a) = some a}
    (names : ∀ n ∈ name :: aliases, n ∉ name' :: aliases') (kept' : ∀ s a, get' (set s a) = get' s)
    (kept : ∀ s a, get (set' s a) = get s) :
    (ofField name aliases required shape get set back).Apart
      (ofField name' aliases' required' shape' get' set' back') :=
  ⟨names, field_spares kept', field_spares kept⟩

/-- What the object with these members says about the part is what the record holds there. -/
structure Told (members : List (String × Json)) (s : σ) (p : Component σ) : Prop where
  reads : Reads p.shape (under p.field.names members) (p.get s)
  present : p.field.required = true → p.get s ≠ none

theorem told_of_free {members : List (String × Json)} {s : σ} {p : Component σ} (free : p.field.required = false)
    (reads : Reads p.shape (under p.field.names members) (p.get s)) : p.Told members s :=
  ⟨reads, fun required => absurd (free.symm.trans required) Bool.false_ne_true⟩

theorem told_of_read {members : List (String × Json)} {s : σ} {p : Component σ} {v : Json} {a : p.Content}
    (here : under p.field.names members = [v]) (read : p.shape v.toTree = .ok a) (held : p.get s = some a) :
    p.Told members s := by
  refine ⟨?_, fun _ absent => ?_⟩
  · rw [here, held]
    exact .once read
  · rw [held] at absent
    contradiction

theorem Told.accepts {members : List (String × Json)} {s : σ} {p : Component σ} (told : p.Told members s) :
    p.field.Accepts (under p.field.names members) := by
  obtain ⟨reads, present⟩ := told
  generalize p.get s = content at reads present
  generalize under p.field.names members = values at reads
  -- a field that is required and holds something has been said
  cases reads with
  | absent => exact Bool.eq_false_iff.mpr fun required => present required rfl
  | once read => exact p.reaches.takes read

end Component

section

variable {parts before after : List (Component σ)} {p : Component σ} {members : List (String × Json)} {start s : σ}
  {wanted : String}

theorem apart_of_pairwise (apart : (before ++ p :: after).Pairwise Component.Apart) :
    ∀ q ∈ before ++ after, q.Apart p := by
  obtain ⟨-, later, earlier⟩ := List.pairwise_append.mp apart
  intro q mem
  rcases List.mem_append.mp mem with mem | mem
  · exact earlier q mem p List.mem_cons_self
  · exact ((List.pairwise_cons.mp later).1 q mem).symm

/-- What has been read of an object holds in each part what the object says about it. -/
theorem record_object_reads (apart : parts.Pairwise Component.Apart) (fresh : ∀ p ∈ parts, p.get start = none)
    (read : record wanted (parts.map Component.field) start (Json.object members).toTree = .ok s) (mem : p ∈ parts) :
    Reads p.shape (under p.field.names members) (p.get s) := by
  obtain ⟨before, after, rfl⟩ := List.append_of_mem mem
  rw [List.map_append, List.map_cons] at read
  refine record_reads (before.map Component.field) (after.map Component.field) p.reaches ?_ (fresh p mem) read
  intro g other
  rw [← List.map_append] at other
  obtain ⟨q, mem, rfl⟩ := List.mem_map.mp other
  have apart := apart_of_pairwise apart q mem
  exact ⟨apart.spares, apart.names⟩

end

/-- The parts that a record consists of. Where each is read into a place of its own, the names decide whether they
are apart. -/
structure Layout (σ : Type) where
  parts : List (Component σ)
  apart : parts.Pairwise Component.Apart := by
    simp only [List.pairwise_cons, List.forall_mem_cons, List.not_mem_nil, IsEmpty.forall_iff, implies_true,
      List.Pairwise.nil, and_true]
    and_intros <;> exact Component.ofField_apart (by decide) (fun _ _ => rfl) fun _ _ => rfl
  /-- The record of which nothing has been read. -/
  start : σ
  fresh : ∀ p ∈ parts, p.get start = none := by simp [Component.ofField]
  only : ∀ s s', (∀ p ∈ parts, p.get s = p.get s') → s = s'

namespace Layout

def fields (layout : Layout σ) : List (Field σ) := layout.parts.map Component.field

variable {layout : Layout σ} {members : List (String × Json)} {s : σ} {wanted : String}

theorem fields_apart : layout.fields.Pairwise Field.Apart :=
  List.pairwise_map.mpr (layout.apart.imp Component.Apart.fields)

/-- An object is read as the record that holds in each part what the object says about it. -/
theorem record_object_eq (told : ∀ p ∈ layout.parts, p.Told members s) :
    record wanted layout.fields layout.start (Json.object members).toTree = .ok s := by
  have marks : ∀ f ∈ layout.fields, f.Marks := by
    intro f mem
    obtain ⟨p, -, rfl⟩ := List.mem_map.mp mem
    exact p.reaches.marks
  have still : ∀ f ∈ layout.fields, f.given layout.start = false := by
    intro f mem
    obtain ⟨p, here, rfl⟩ := List.mem_map.mp mem
    rw [p.reaches.given, layout.fresh p here]
    rfl
  have accepts : ∀ (i : Nat) (f : Field σ), layout.fields[i]? = some f →
      f.Accepts ((Json.object members).fieldValues i f.names) := by
    intro i f found
    obtain ⟨p, mem, rfl⟩ := List.mem_map.mp (List.mem_of_getElem? found)
    exact (told p mem).accepts
  obtain ⟨s', read⟩ : ∃ s', record wanted layout.fields layout.start (Json.object members).toTree = .ok s' :=
    record_ok layout.fields_apart marks still trivial accepts
  -- what is read and what was told agree in each part, and a record is its parts
  have same : s' = s := layout.only s' s fun p mem =>
    (record_object_reads layout.apart layout.fresh read mem).unique (told p mem).reads
  rw [read, same]

end Layout

/-! ## Texts -/

/-- The value is read as this, and so is its text. -/
def ReadsAs (shape : Shape α) (v : Json) (a : α) : Prop :=
  shape.ofJson v = .ok a ∧ Shape.ofText shape (Document.ofText v.render) = .ok a

/-- A value without floating point numbers is read from its text as it is read itself. -/
theorem readsAs_of_whole {shape : Shape α} {v : Json} {a : α} (whole : v.Whole) (read : shape v.toTree = .ok a) :
    shape.ReadsAs v a := by
  refine ⟨read, ?_⟩
  rw [Json.ofText_render whole, Shape.ofText, read]
  rfl

end Turnstile.Shape
