import Turnstile.Proofs.Text.Cutting
import Turnstile.Text.Basic
/-!
# Pairs of a key and a value

A part of a header is a pair if it has an equals sign: the key stands before the first one and the value after it.
A key counts without the blanks around it and in letters of either case (`Spells`), so which value a part gives for
a name is said without cutting or trimming it (`Gives`).
-/
namespace Turnstile.Text

/-- Between the blanks around it, the key is the name in letters of either case. -/
def Spells (name : String) (key : List Char) : Prop :=
  ∃ core, Trims isBlank key core ∧ core.map Char.toLower = name.toList

/-- The part is a pair whose key is the name. -/
def Gives (name : String) (part value : List Char) : Prop :=
  ∃ key, part = key ++ '=' :: value ∧ '=' ∉ key ∧ Spells name key

variable {name : String} {key part value : List Char}

theorem sameLetters_strip_iff (low : lower name = name) :
    sameLetters (String.ofList (strip isBlank key)) name = true ↔ Spells name key := by
  have folded : sameLetters (String.ofList (strip isBlank key)) name = true ↔
      (strip isBlank key).map Char.toLower = name.toList := by
    rw [sameLetters, low, beq_iff_eq, lower, String.toList_ofList, ← String.toList_inj, String.toList_ofList]
  rw [folded]
  constructor
  · intro same
    exact ⟨_, trims_strip isBlank key, same⟩
  · rintro ⟨core, trims, same⟩
    rw [strip_eq_iff.mpr trims, same]

/-- The value that a part gives for a name. -/
def valueOf (name : String) (part : List Char) : Option (List Char) :=
  match splitFirst '=' part with
  | none => none
  | some (key, value) => if sameLetters (String.ofList (strip isBlank key)) name then some value else none

theorem valueOf_eq_some_iff (low : lower name = name) : valueOf name part = some value ↔ Gives name part value := by
  rw [valueOf]
  constructor
  · intro found
    split at found
    · cases found
    · rename_i key other cut
      split at found
      · rename_i spelled
        cases found
        obtain ⟨whole, first⟩ := splitFirst_eq_some_iff.mp cut
        exact ⟨key, whole, first, (sameLetters_strip_iff low).mp spelled⟩
      · cases found
  · rintro ⟨key, whole, first, spells⟩
    have cut : splitFirst '=' part = some (key, value) := splitFirst_eq_some_iff.mpr ⟨whole, first⟩
    simp only [cut, (sameLetters_strip_iff low).mpr spells, if_true]

theorem valueOf_eq_none_iff (low : lower name = name) : valueOf name part = none ↔ ∀ value, ¬Gives name part value := by
  simp only [Option.eq_none_iff_forall_ne_some, ne_eq, valueOf_eq_some_iff low]

/-- A part gives one value at most. -/
theorem Gives.unique {key' value' : List Char} (gives : Gives name part value) (whole : part = key' ++ '=' :: value')
    (first : '=' ∉ key') : value = value' ∧ Spells name key' := by
  obtain ⟨key, whole', first', spells⟩ := gives
  have cut := splitFirst_eq_some_iff.mpr ⟨whole, first⟩
  rw [splitFirst_eq_some_iff.mpr ⟨whole', first'⟩] at cut
  cases cut
  exact ⟨rfl, spells⟩

/-- A key has nothing in it but blanks and the letters of the name. -/
theorem Spells.not_mem {c : Char} (spells : Spells name key) (solid : isBlank c = false)
    (foreign : c.toLower ∉ name.toList) : c ∉ key := by
  obtain ⟨core, trims, same⟩ := spells
  exact fun mem => foreign (same ▸ List.mem_map_of_mem (trims.mem_core mem solid))

end Turnstile.Text
