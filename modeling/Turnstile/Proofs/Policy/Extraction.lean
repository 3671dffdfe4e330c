import Turnstile.Proofs.Policy.Address
import Turnstile.Proofs.Text.Pairs
/-!
# Addresses among noise

A header that lists addresses may have blanks around each of them, and parts among them that name none. The
addresses are read exactly as they were listed, in order (`Listing`). Whatever the header holds, what is read from
it is never empty, never begins or ends with a blank, and stands in the header as it is (`Clean`).
-/
namespace Turnstile.Policy

open Text

/-- The parts name the addresses, in order. Some parts name one each, and the others name none. -/
inductive Listing (named : List Char → String → Prop) (silent : List Char → Prop) :
    List (List Char) → List String → Prop
  | nil : Listing named silent [] []
  | named {part : List Char} {a : String} {parts : List (List Char)} {addresses : List String}
      (first : named part a) (rest : Listing named silent parts addresses) :
      Listing named silent (part :: parts) (a :: addresses)
  | silent {part : List Char} {parts : List (List Char)} {addresses : List String}
      (first : silent part) (rest : Listing named silent parts addresses) :
      Listing named silent (part :: parts) addresses

/-- The text has nothing but blanks. -/
def Blank (cs : List Char) : Prop := ∀ c ∈ cs, isBlank c = true

/-- A part between commas that is one address. -/
def Item (part : List Char) (a : String) : Prop := Holds part a ∧ ',' ∉ a.toList

/-- A part between semicolons that gives one address under the key `for`. -/
def ForPair (part : List Char) (a : String) : Prop := ∃ value, Gives "for" part value ∧ Holds value a ∧ ';' ∉ a.toList

/-- A part between semicolons that gives none: it is no pair, or has another key, or its value is blank. -/
def OtherPair (part : List Char) : Prop :=
  ';' ∉ part ∧ ('=' ∉ part ∨ ∃ key value, part = key ++ '=' :: value ∧ '=' ∉ key ∧ (¬Spells "for" key ∨ Blank value))

/-- The address is not empty, has no blank at its ends and stands in the text. -/
structure Clean (raw : String) (a : String) : Prop where
  filled : a ≠ ""
  first : ∀ c, a.toList.head? = some c → isBlank c = false
  last : ∀ c, a.toList.getLast? = some c → isBlank c = false
  within : a.toList <:+: raw.toList

namespace Listing

variable {named : List Char → String → Prop} {silent : List Char → Prop} {parts : List (List Char)}
  {addresses : List String}

/-- What reads each part rightly reads all of them in order. -/
theorem filterMap {read : List Char → Option String} (listing : Listing named silent parts addresses)
    (reads : ∀ part a, named part a → read part = some a) (skips : ∀ part, silent part → read part = none) :
    parts.filterMap read = addresses := by
  induction listing with
  | nil => rfl
  | named first _ ih => rw [List.filterMap_cons_some (reads _ _ first), ih]
  | silent first _ ih => rw [List.filterMap_cons_none (skips _ first), ih]

theorem plain {sep : Char} (listing : Listing named silent parts addresses)
    (ofNamed : ∀ part a, named part a → sep ∉ part) (ofSilent : ∀ part, silent part → sep ∉ part) :
    ∀ part ∈ parts, sep ∉ part := by
  induction listing with
  | nil => exact List.forall_mem_nil _
  | named first _ ih => exact List.forall_mem_cons.mpr ⟨ofNamed _ _ first, ih⟩
  | silent first _ ih => exact List.forall_mem_cons.mpr ⟨ofSilent _ first, ih⟩

/-- So does what cuts the text before it reads. The text of no parts is one empty part. -/
theorem filterMap_pieces {sep : Char} {read : List Char → Option String}
    (listing : Listing named silent parts addresses) (plain : ∀ part ∈ parts, sep ∉ part)
    (reads : ∀ part a, named part a → read part = some a) (skips : ∀ part, silent part → read part = none)
    (empty : read [] = none) : (pieces sep ([sep].intercalate parts)).filterMap read = addresses := by
  by_cases none : parts = []
  · subst none
    cases listing
    exact List.filterMap_cons_none empty
  · rw [pieces_intercalate plain none]
    exact listing.filterMap reads skips

end Listing

section

variable {part value : List Char} {a raw : String} {c : Char}

theorem Holds.not_mem (held : Holds part a) (solid : isBlank c = false) (absent : c ∉ a.toList) : c ∉ part :=
  fun mem => absent (held.2.mem_core mem solid)

theorem Holds.clean (held : Holds part a) (stands : part <:+: raw.toList) : Clean raw a :=
  ⟨held.1, held.2.first, held.2.last, held.2.isInfix.trans stands⟩

theorem addressOf_blank (blank : Blank part) : addressOf part = none := by
  have nothing : strip isBlank part = [] := by
    rw [strip_eq_iff]
    exact ⟨⟨part, [], by simp, blank, List.forall_mem_nil _⟩, by simp, by simp⟩
  rw [addressOf, nothing]
  rfl

/-! ## Pairs -/

theorem pairAddress_eq (part : List Char) : pairAddress part = (valueOf "for" part).bind addressOf := by
  rw [pairAddress, valueOf]
  cases splitFirst '=' part with
  | none => rfl
  | some cut =>
    simp only
    split <;> rfl

theorem pairAddress_of_gives (gives : Gives "for" part value) : pairAddress part = addressOf value := by
  rw [pairAddress_eq, (valueOf_eq_some_iff (by decide)).mpr gives, Option.bind_some]

theorem pairAddress_of_other (other : OtherPair part) : pairAddress part = none := by
  obtain ⟨-, single | ⟨key, value, whole, first, said⟩⟩ := other
  · have none : ∀ value, ¬Gives "for" part value := by
      rintro value ⟨key, rfl, -, -⟩
      exact single (List.mem_append_right _ List.mem_cons_self)
    rw [pairAddress_eq, (valueOf_eq_none_iff (by decide)).mpr none, Option.bind_none]
  · by_cases spells : Spells "for" key
    · have blank : Blank value := said.resolve_left (not_not_intro spells)
      rw [pairAddress_of_gives ⟨key, whole, first, spells⟩, addressOf_blank blank]
    · have none : ∀ value, ¬Gives "for" part value := fun _ gives => spells (gives.unique whole first).2
      rw [pairAddress_eq, (valueOf_eq_none_iff (by decide)).mpr none, Option.bind_none]

theorem ForPair.plain (pair : ForPair part a) : ';' ∉ part := by
  obtain ⟨value, ⟨key, rfl, -, spells⟩, held, absent⟩ := pair
  have before : ';' ∉ key := spells.not_mem (by decide) (by decide)
  have after : ';' ∉ value := held.not_mem (by decide) absent
  simp [before, after]

/-! ## What is read is clean -/

theorem clean_of_mem_addresses {convention : Convention} (mem : a ∈ convention.addresses raw) : Clean raw a := by
  cases convention with
  | single => exact (mem_singleAddress_iff.mp mem).clean (List.infix_refl _)
  | commaList =>
    obtain ⟨part, cut, read⟩ := List.mem_filterMap.mp mem
    exact (addressOf_eq_some_iff.mp read).clean (infix_of_mem_pieces cut)
  | forwardedPairs =>
    obtain ⟨part, cut, read⟩ := List.mem_filterMap.mp mem
    obtain ⟨key, value, -, rfl, -, -, -, held⟩ := pairAddress_eq_some_iff.mp read
    have inside : value <:+: key ++ '=' :: value := (List.suffix_append_of_suffix (List.suffix_cons _ _)).isInfix
    exact held.clean (inside.trans (infix_of_mem_pieces cut))

end

/-- Addresses are read exactly as they are listed, whatever blanks and other parts stand among them, and what is
read is always clean. -/
theorem listed_addresses_read :
    (∀ (raw : String) (parts : List (List Char)) (addresses : List String), Listing Item Blank parts addresses →
      raw.toList = [','].intercalate parts → commaAddresses raw = addresses) ∧
    (∀ (raw : String) (parts : List (List Char)) (addresses : List String), Listing ForPair OtherPair parts addresses →
      raw.toList = [';'].intercalate parts → forwardedAddresses raw = addresses) ∧
    ∀ (convention : Convention) (raw a : String), a ∈ convention.addresses raw → Clean raw a := by
  refine ⟨fun raw parts addresses listing joined => ?_, fun raw parts addresses listing joined => ?_,
    fun convention raw a => clean_of_mem_addresses⟩
  · have plain : ∀ part ∈ parts, ',' ∉ part := by
      refine listing.plain (fun part a item => item.1.not_mem (by decide) item.2) fun part blank mem => ?_
      exact absurd (blank ',' mem) (by decide)
    rw [commaAddresses, joined]
    exact listing.filterMap_pieces plain (fun part a item => addressOf_eq_some_iff.mpr item.1)
      (fun part => addressOf_blank) rfl
  · have plain : ∀ part ∈ parts, ';' ∉ part :=
      listing.plain (fun part a => ForPair.plain) fun part other => other.1
    rw [forwardedAddresses, joined]
    refine listing.filterMap_pieces plain (fun part a pair => ?_) (fun part => pairAddress_of_other) rfl
    obtain ⟨value, gives, held, -⟩ := pair
    rw [pairAddress_of_gives gives]
    exact addressOf_eq_some_iff.mpr held

/-- Blanks of several kinds around two addresses and in a part of their own, and pairs of which one counts. -/
theorem listed_addresses_read_past_blanks :
    commaAddresses " a\u00a0,,\tb" = ["a", "b"] ∧ forwardedAddresses "by=x; For = a=b ;for;for= " = ["a=b"] ∧
      Clean " a\u00a0,,\tb" "a" := by
  have first : Item [' ', 'a', '\u00a0'] "a" := ⟨addressOf_eq_some_iff.mp (by decide), by decide⟩
  have second : Item ['\t', 'b'] "b" := ⟨addressOf_eq_some_iff.mp (by decide), by decide⟩
  have items : Listing Item Blank [[' ', 'a', '\u00a0'], [], ['\t', 'b']] ["a", "b"] :=
    .named first (.silent (List.forall_mem_nil _) (.named second .nil))
  have foreign : OtherPair ['b', 'y', '=', 'x'] :=
    ⟨by decide, .inr ⟨['b', 'y'], ['x'], rfl, by decide,
      .inl ((sameLetters_strip_iff (by decide)).not.mp (by decide))⟩⟩
  have pair : ForPair " For = a=b ".toList "a=b" :=
    ⟨" a=b ".toList, (valueOf_eq_some_iff (by decide)).mp (by decide), addressOf_eq_some_iff.mp (by decide), by decide⟩
  have single : OtherPair ['f', 'o', 'r'] := ⟨by decide, .inl (by decide)⟩
  have blank : OtherPair ['f', 'o', 'r', '=', ' '] :=
    ⟨by decide, .inr ⟨['f', 'o', 'r'], [' '], rfl, by decide, .inr (by simp [Blank, isBlank])⟩⟩
  have pairs := Listing.silent foreign (.named pair (.silent single (.silent blank .nil)))
  obtain ⟨listed, paired, clean⟩ := listed_addresses_read
  have read := listed " a\u00a0,,\tb" _ _ items (by decide)
  exact ⟨read, paired "by=x; For = a=b ;for;for= " _ _ pairs (by decide),
    clean .commaList _ _ (by rw [Convention.addresses, read]; exact List.mem_cons_self)⟩

end Turnstile.Policy
