import Turnstile.Capture.Settings
import Turnstile.Proofs.Text.Cutting
/-!
# Which content types pass

The gate is decided by the configured fragments alone: one of them has to stand, trimmed, in the content type,
in letters of either case. A fragment of nothing but blanks stands nowhere.
-/
namespace Turnstile

namespace Text

theorem occursIn_iff {α : Type} [DecidableEq α] {needle xs : List α} : occursIn needle xs = true ↔ needle <:+: xs := by
  induction xs with
  | nil => rw [occursIn, List.isEmpty_iff, List.infix_nil]
  | cons x xs ih => rw [occursIn, Bool.or_eq_true, List.isPrefixOf_iff_prefix, ih, List.infix_cons_iff]

end Text

namespace Capture

open Text

/-- The trimmed form of the fragment stands in the text, in letters of either case. -/
def Mentions (text fragment : String) : Prop :=
  ∃ core part, Trims isBlank fragment.toList core ∧ core ≠ [] ∧ part <:+: text.toList ∧
    part.map Char.toLower = core.map Char.toLower

theorem mem_ofFragments {allowed : List String} {s : String} :
    s ∈ (Gate.ofFragments allowed).fragments ↔
      ∃ fragment ∈ allowed, s.toList = (strip isBlank fragment.toList).map Char.toLower ∧ s.toList ≠ [] := by
  have trimmed (fragment : String) :
      (lower (trim fragment)).toList = (strip isBlank fragment.toList).map Char.toLower := by
    rw [lower, trim, String.toList_ofList, String.toList_ofList]
  rw [Gate.ofFragments, List.mem_filter, List.mem_map, Bool.not_eq_true', String.isEmpty_eq_false_iff,
    Ne, ← String.toList_eq_nil_iff]
  constructor
  · rintro ⟨⟨fragment, given, rfl⟩, filled⟩
    exact ⟨fragment, given, trimmed fragment, filled⟩
  · rintro ⟨fragment, given, same, filled⟩
    exact ⟨⟨fragment, given, String.toList_injective ((trimmed fragment).trans same.symm)⟩, filled⟩

/-- A body is captured if its content type mentions a configured fragment. -/
theorem admits_iff {settings : Settings} {contentType : Option String} :
    settings.gate.admits contentType = true ↔
      ∃ text ∈ contentType, ∃ fragment ∈ settings.contentTypes, Mentions text fragment := by
  cases contentType with
  | none => simp [Gate.admits]
  | some text =>
    rw [Gate.admits, List.any_eq_true]
    constructor
    · rintro ⟨s, listed, occurs⟩
      obtain ⟨fragment, given, same, filled⟩ := mem_ofFragments.mp listed
      rw [occursIn_iff, lower, String.toList_ofList, List.infix_map_iff] at occurs
      obtain ⟨part, stands, folded⟩ := occurs
      refine ⟨text, rfl, fragment, given, strip isBlank fragment.toList, part, trims_strip _ _, ?_, stands,
        folded.symm.trans same⟩
      rintro blank
      rw [blank] at same
      exact filled same
    · rintro ⟨_, ⟨⟩, fragment, given, core, part, trims, filled, stands, folded⟩
      have stripped := strip_eq_iff.mpr trims
      refine ⟨.ofList (core.map Char.toLower), mem_ofFragments.mpr ⟨fragment, given, ?_, ?_⟩, ?_⟩
      · rw [String.toList_ofList, stripped]
      · rw [String.toList_ofList]
        exact fun none => filled (List.map_eq_nil_iff.mp none)
      · rw [occursIn_iff, lower, String.toList_ofList, String.toList_ofList, List.infix_map_iff]
        exact ⟨part, stands, folded.symm⟩

end Capture
end Turnstile
