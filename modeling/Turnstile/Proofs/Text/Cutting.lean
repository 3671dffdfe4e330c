import Mathlib.Data.List.TakeWhile
import Turnstile.Text.Basic
/-!
# Cut and trimmed text

What cutting and trimming give, said without either: a text is its pieces with the separator between them
(`mem_pieces_iff`), and what trimming leaves stands between blanks and begins and ends with none (`Trims`).
-/
namespace Turnstile.Text

variable {α : Type}

/-! ## Cutting -/

theorem infix_intercalate {sep : α} {segments : List (List α)} {segment : List α} (mem : segment ∈ segments) :
    segment <:+: [sep].intercalate segments := by
  induction segments with
  | nil => contradiction
  | cons first rest ih =>
    cases rest with
    | nil => simp [List.mem_singleton.mp mem]
    | cons second others =>
      rw [List.intercalate_cons_cons]
      rcases List.mem_cons.mp mem with rfl | later
      · rw [List.append_assoc]
        exact List.infix_append' [] segment _
      · exact (ih later).trans (List.suffix_append _ _).isInfix

section

variable [DecidableEq α] {sep : α} {xs : List α}

theorem pieces_eq_splitOn (sep : α) (xs : List α) : pieces sep xs = xs.splitOn sep := by
  induction xs with
  | nil => rfl
  | cons x xs ih =>
    rw [List.splitOn_cons_eq_if_modifyHead, ← ih]
    by_cases here : x = sep
    · simp [pieces, here]
    · cases cut : pieces sep xs with
      | nil => exact absurd (ih.symm.trans cut) (List.splitOn_ne_nil sep xs)
      | cons first others =>
        rw [pieces] at cut ⊢
        simp [here, cut]

theorem sep_not_mem_of_mem_pieces {segment : List α} (mem : segment ∈ pieces sep xs) : sep ∉ segment := by
  rw [pieces_eq_splitOn] at mem
  induction xs generalizing segment with
  | nil =>
    simp only [List.splitOn_nil, List.mem_singleton] at mem
    simp [mem]
  | cons x xs ih =>
    rw [List.splitOn_cons_eq_if_modifyHead] at mem
    by_cases here : x = sep
    · simp only [here, beq_self_eq_true, if_true, List.mem_cons] at mem
      rcases mem with rfl | mem
      · exact List.not_mem_nil
      · exact ih mem
    · cases cut : xs.splitOn sep with
      | nil => exact absurd cut (List.splitOn_ne_nil sep xs)
      | cons first others =>
        rw [cut] at mem ih
        simp only [beq_iff_eq, here, if_false, List.modifyHead_cons, List.mem_cons] at mem
        rcases mem with rfl | mem
        · simpa [Ne.symm here] using ih List.mem_cons_self
        · exact ih (List.mem_cons_of_mem _ mem)

/-- A text is cut into the parts it was joined from. -/
theorem pieces_intercalate {segments : List (List α)} (plain : ∀ s ∈ segments, sep ∉ s) (some : segments ≠ []) :
    pieces sep ([sep].intercalate segments) = segments := by
  rw [pieces_eq_splitOn, List.splitOn_intercalate sep plain some]

/-- A piece is a part of the text between separators, in the one way that the text is such parts. -/
theorem mem_pieces_iff {segment : List α} : segment ∈ pieces sep xs ↔
    ∃ segments, xs = [sep].intercalate segments ∧ (∀ s ∈ segments, sep ∉ s) ∧ segment ∈ segments := by
  constructor
  · intro mem
    refine ⟨pieces sep xs, ?_, fun s => sep_not_mem_of_mem_pieces, mem⟩
    rw [pieces_eq_splitOn, List.intercalate_splitOn]
  · rintro ⟨segments, rfl, plain, mem⟩
    rwa [pieces_intercalate plain (List.ne_nil_of_mem mem)]

/-- A piece stands in the text. -/
theorem infix_of_mem_pieces {segment : List α} (mem : segment ∈ pieces sep xs) : segment <:+: xs := by
  obtain ⟨segments, rfl, -, inside⟩ := mem_pieces_iff.mp mem
  exact infix_intercalate inside

theorem splitFirst_cons (sep x : α) (xs : List α) : splitFirst sep (x :: xs) =
    if x = sep then some ([], xs) else (splitFirst sep xs).map fun cut => (x :: cut.1, cut.2) := by
  by_cases here : x = sep
  · simp [splitFirst, here]
  · simp only [splitFirst, ne_eq, here, not_false_eq_true, decide_true, List.dropWhile_cons_of_pos,
      List.takeWhile_cons_of_pos, if_false]
    cases xs.dropWhile fun c => decide ¬c = sep <;> rfl

theorem splitFirst_eq_some_iff {key value : List α} :
    splitFirst sep xs = some (key, value) ↔ xs = key ++ sep :: value ∧ sep ∉ key := by
  induction xs generalizing key with
  | nil => simp [splitFirst]
  | cons x xs ih =>
    rw [splitFirst_cons]
    by_cases here : x = sep
    · rw [if_pos here]
      constructor
      · rintro ⟨⟩
        exact ⟨by rw [here, List.nil_append], List.not_mem_nil⟩
      · rintro ⟨whole, plain⟩
        cases key with
        | nil => simp_all
        | cons c cs => simp_all
    · rw [if_neg here, Option.map_eq_some_iff]
      constructor
      · rintro ⟨⟨before, after⟩, cut, ⟨⟩⟩
        obtain ⟨rfl, plain⟩ := ih.mp cut
        exact ⟨rfl, by simp [Ne.symm here, plain]⟩
      · rintro ⟨whole, plain⟩
        cases key with
        | nil => simp_all
        | cons c cs =>
          obtain ⟨rfl, rfl⟩ := List.cons.inj whole
          exact ⟨(cs, value), ih.mpr ⟨rfl, fun mem => plain (List.mem_cons_of_mem _ mem)⟩, rfl⟩

end

/-! ## Trimming -/

variable {p : α → Bool} {xs core : List α}

/-- `core` is what is left of the list when all that satisfies `p` is taken off both its ends. -/
structure Trims (p : α → Bool) (xs core : List α) : Prop where
  around : ∃ left right, xs = left ++ core ++ right ∧ (∀ c ∈ left, p c = true) ∧ ∀ c ∈ right, p c = true
  first : ∀ c, core.head? = some c → p c = false
  last : ∀ c, core.getLast? = some c → p c = false

theorem Trims.isInfix (trims : Trims p xs core) : core <:+: xs := by
  obtain ⟨left, right, rfl, -, -⟩ := trims.around
  exact List.infix_append left core right

/-- What is not trimmed off is left. -/
theorem Trims.mem_core (trims : Trims p xs core) {c : α} (mem : c ∈ xs) (solid : p c = false) : c ∈ core := by
  obtain ⟨left, right, rfl, blankLeft, blankRight⟩ := trims.around
  rw [List.mem_append, List.mem_append] at mem
  rcases mem with (mem | mem) | mem
  · simp [blankLeft c mem] at solid
  · exact mem
  · simp [blankRight c mem] at solid

theorem dropWhile_of_head (first : ∀ c, xs.head? = some c → p c = false) : xs.dropWhile p = xs := by
  cases xs with
  | nil => rfl
  | cons c cs => simp [first c rfl]

theorem head_dropWhile (xs : List α) : ∀ c, (xs.dropWhile p).head? = some c → p c = false := by
  intro c here
  have head := List.head?_dropWhile_not p xs
  rwa [here] at head

theorem dropEndWhile_append (xs : List α) :
    ∃ right, xs = dropEndWhile p xs ++ right ∧ ∀ c ∈ right, p c = true := by
  refine ⟨(xs.reverse.takeWhile p).reverse, ?_, ?_⟩
  · rw [dropEndWhile, ← List.reverse_append, List.takeWhile_append_dropWhile, List.reverse_reverse]
  · intro c mem
    exact List.mem_takeWhile_imp (List.mem_reverse.mp mem)

theorem trims_strip (p : α → Bool) (xs : List α) : Trims p xs (strip p xs) := by
  obtain ⟨right, kept, blank⟩ := dropEndWhile_append (p := p) (xs.dropWhile p)
  refine ⟨⟨xs.takeWhile p, right, ?_, fun c mem => List.mem_takeWhile_imp mem, blank⟩, ?_, ?_⟩
  · rw [strip, List.append_assoc, ← kept, List.takeWhile_append_dropWhile]
  · intro c here
    apply head_dropWhile xs
    rw [kept, List.head?_append, ← strip, here, Option.some_or]
  · intro c here
    rw [strip, dropEndWhile, List.getLast?_reverse] at here
    exact head_dropWhile _ c here

theorem strip_eq_iff : strip p xs = core ↔ Trims p xs core := by
  constructor
  · rintro rfl
    exact trims_strip p xs
  · rintro ⟨⟨left, right, rfl, blankLeft, blankRight⟩, first, last⟩
    rw [strip, List.append_assoc, List.dropWhile_append_of_pos blankLeft]
    cases core with
    | nil =>
      have none : right.dropWhile p = [] := List.dropWhile_eq_nil_iff.mpr blankRight
      rw [List.nil_append, none]
      rfl
    | cons c cs =>
      have start : ((c :: cs) ++ right).dropWhile p = (c :: cs) ++ right := by
        simp [first c rfl]
      have blank : ∀ a ∈ right.reverse, p a = true := fun a mem => blankRight a (List.mem_reverse.mp mem)
      rw [start, dropEndWhile, List.reverse_append, List.dropWhile_append_of_pos blank,
        dropWhile_of_head, List.reverse_reverse]
      rwa [List.head?_reverse]

theorem strip_strip (p : α → Bool) (xs : List α) : strip p (strip p xs) = strip p xs := by
  rw [strip_eq_iff]
  have trims := trims_strip p xs
  exact ⟨⟨[], [], by simp, List.forall_mem_nil _, List.forall_mem_nil _⟩, trims.first, trims.last⟩

/-- What lies between the runs at its ends is trimmed out of a list. -/
theorem trims_of_plain {left right : List α} (blank : ∀ c ∈ left ++ right, p c = true)
    (plain : ∀ c ∈ core, p c = false) : Trims p (left ++ core ++ right) core where
  around := ⟨left, right, rfl, fun c mem => blank c (List.mem_append_left _ mem),
    fun c mem => blank c (List.mem_append_right _ mem)⟩
  first c here := plain c (List.mem_of_head? here)
  last c here := plain c (List.mem_of_getLast? here)

end Turnstile.Text
