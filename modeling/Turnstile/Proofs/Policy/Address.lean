import Turnstile.Policy.Address
import Turnstile.Proofs.Headers
import Turnstile.Proofs.NameSet
import Turnstile.Proofs.Text.Cutting
/-!
# The addresses a request names

`Names` says of headers, in the order in which they were given and under any spelling of their names, which
client addresses they hold. The candidates are these (`members_candidates`).
-/
namespace Turnstile.Policy

open Text Headers

/-- The address is what a text has between the blanks around it, and is not empty. -/
def Holds (raw : List Char) (a : String) : Prop := a ≠ "" ∧ Trims isBlank raw a.toList

theorem addressOf_eq_some_iff {raw : List Char} {a : String} : addressOf raw = some a ↔ Holds raw a := by
  have stripped : strip isBlank raw = a.toList ↔ Trims isBlank raw a.toList := strip_eq_iff
  rw [addressOf, Holds, ← stripped]
  constructor
  · intro found
    split at found
    · cases found
    · rename_i some
      cases found
      refine ⟨fun empty => some ?_, String.toList_ofList.symm⟩
      simpa using empty
  · rintro ⟨nonempty, rest⟩
    have some : ¬ (strip isBlank raw).isEmpty = true := by
      rw [rest, List.isEmpty_iff, String.toList_eq_nil_iff]
      exact nonempty
    rw [if_neg some, rest, String.ofList_toList]

/-- The headers name the address. -/
inductive Names (pairs : List (String × String)) (a : String) : Prop
  /-- A header that holds one address. -/
  | whole {name raw : String} (single : name ∈ ["x-real-ip", "x-proxyuser-ip", "proxy.client.addr"])
      (given : Given pairs name raw) (held : Holds raw.toList a)
  /-- A part between commas. -/
  | listed {raw : String} {parts : List (List Char)} {part : List Char}
      (given : Given pairs "x-forwarded-for" raw) (cut : raw.toList = [','].intercalate parts)
      (plain : ∀ p ∈ parts, ',' ∉ p) (mem : part ∈ parts) (held : Holds part a)
  /-- The value of a part between semicolons whose key is `for`. -/
  | paired {raw : String} {parts : List (List Char)} {key value : List Char} {trimmed : String}
      (given : Given pairs "forwarded" raw) (cut : raw.toList = [';'].intercalate parts)
      (plain : ∀ p ∈ parts, ';' ∉ p) (mem : key ++ '=' :: value ∈ parts) (first : '=' ∉ key)
      (trims : Trims isBlank key trimmed.toList) (spelled : sameLetters trimmed "for" = true)
      (held : Holds value a)

section

variable {raw a : String}

theorem mem_singleAddress_iff : a ∈ (singleAddress raw).toList ↔ Holds raw.toList a := by
  rw [Option.mem_toList, singleAddress, addressOf_eq_some_iff]

theorem mem_commaAddresses_iff : a ∈ commaAddresses raw ↔
    ∃ parts, raw.toList = [','].intercalate parts ∧ (∀ p ∈ parts, ',' ∉ p) ∧ ∃ part ∈ parts, Holds part a := by
  simp only [commaAddresses, List.mem_filterMap, mem_pieces_iff, addressOf_eq_some_iff]
  constructor
  · rintro ⟨part, ⟨parts, cut, plain, mem⟩, held⟩
    exact ⟨parts, cut, plain, part, mem, held⟩
  · rintro ⟨parts, cut, plain, part, mem, held⟩
    exact ⟨part, ⟨parts, cut, plain, mem⟩, held⟩

theorem pairAddress_eq_some_iff {part : List Char} : pairAddress part = some a ↔
    ∃ (key value : List Char) (trimmed : String), part = key ++ '=' :: value ∧ '=' ∉ key ∧
      Trims isBlank key trimmed.toList ∧ sameLetters trimmed "for" = true ∧ Holds value a := by
  rw [pairAddress]
  constructor
  · intro found
    split at found
    · cases found
    · rename_i key value cut
      split at found
      · rename_i spelled
        obtain ⟨whole, first⟩ := splitFirst_eq_some_iff.mp cut
        refine ⟨key, value, _, whole, first, ?_, spelled, addressOf_eq_some_iff.mp found⟩
        rw [String.toList_ofList]
        exact trims_strip isBlank key
      · cases found
  · rintro ⟨key, value, trimmed, whole, first, trims, spelled, held⟩
    have cut : splitFirst '=' part = some (key, value) := splitFirst_eq_some_iff.mpr ⟨whole, first⟩
    have named : String.ofList (strip isBlank key) = trimmed := by
      rw [strip_eq_iff.mpr trims, String.ofList_toList]
    simp only [cut, named, spelled, if_true]
    exact addressOf_eq_some_iff.mpr held

theorem mem_forwardedAddresses_iff : a ∈ forwardedAddresses raw ↔
    ∃ parts, raw.toList = [';'].intercalate parts ∧ (∀ p ∈ parts, ';' ∉ p) ∧
      ∃ part ∈ parts, pairAddress part = some a := by
  simp only [forwardedAddresses, List.mem_filterMap, mem_pieces_iff]
  constructor
  · rintro ⟨part, ⟨parts, cut, plain, mem⟩, found⟩
    exact ⟨parts, cut, plain, part, mem, found⟩
  · rintro ⟨parts, cut, plain, part, mem, found⟩
    exact ⟨part, ⟨parts, cut, plain, mem⟩, found⟩

end

theorem mem_candidates {h : Headers} {a : String} : a ∈ (candidates h).members ↔
    ∃ header ∈ addressHeaders, ∃ raw, h.get? header.1 = some raw ∧ a ∈ header.2.addresses raw := by
  rw [candidates, NameSet.members_ofList]
  simp only [Set.mem_ofPred_eq, List.mem_flatMap, Option.mem_toList]

/-- The candidates are the addresses that the headers name. -/
theorem members_candidates (pairs : List (String × String)) :
    (candidates (ofList pairs)).members = {a | Names pairs a} := by
  ext a
  rw [mem_candidates]
  constructor
  · rintro ⟨⟨name, convention⟩, listed, raw, given, mem⟩
    rw [get?_ofList_iff] at given
    simp only [addressHeaders, List.mem_cons, Prod.mk.injEq, List.not_mem_nil, or_false] at listed
    rcases listed with ⟨rfl, rfl⟩ | ⟨rfl, rfl⟩ | ⟨rfl, rfl⟩ | ⟨rfl, rfl⟩ | ⟨rfl, rfl⟩
    · exact .whole (by simp) given (mem_singleAddress_iff.mp mem)
    · obtain ⟨parts, cut, plain, part, mem, held⟩ := mem_commaAddresses_iff.mp mem
      exact .listed given cut plain mem held
    · exact .whole (by simp) given (mem_singleAddress_iff.mp mem)
    · obtain ⟨parts, cut, plain, part, mem, found⟩ := mem_forwardedAddresses_iff.mp mem
      obtain ⟨key, value, trimmed, rfl, first, trims, spelled, held⟩ := pairAddress_eq_some_iff.mp found
      exact .paired given cut plain mem first trims spelled held
    · exact .whole (by simp) given (mem_singleAddress_iff.mp mem)
  · intro names
    cases names with
    | @whole name raw single given held =>
      refine ⟨(name, .single), ?_, raw, get?_ofList_iff.mpr given, mem_singleAddress_iff.mpr held⟩
      simp only [List.mem_cons, List.not_mem_nil, or_false] at single
      rcases single with rfl | rfl | rfl <;> simp [addressHeaders]
    | listed given cut plain mem held =>
      refine ⟨("x-forwarded-for", .commaList), by simp [addressHeaders], _, get?_ofList_iff.mpr given, ?_⟩
      exact mem_commaAddresses_iff.mpr ⟨_, cut, plain, _, mem, held⟩
    | paired given cut plain mem first trims spelled held =>
      refine ⟨("forwarded", .forwardedPairs), by simp [addressHeaders], _, get?_ofList_iff.mpr given, ?_⟩
      refine mem_forwardedAddresses_iff.mpr ⟨_, cut, plain, _, mem, ?_⟩
      exact pairAddress_eq_some_iff.mpr ⟨_, _, _, rfl, first, trims, spelled, held⟩

/-- Only the five headers that carry addresses count. -/
theorem candidates_congr {h h' : Headers}
    (same : ∀ header ∈ addressHeaders, h.get? header.1 = h'.get? header.1) : candidates h = candidates h' := by
  apply NameSet.ext_members
  ext a
  rw [mem_candidates, mem_candidates]
  constructor
  · rintro ⟨header, listed, raw, given, mem⟩
    exact ⟨header, listed, raw, same header listed ▸ given, mem⟩
  · rintro ⟨header, listed, raw, given, mem⟩
    exact ⟨header, listed, raw, (same header listed).trans given, mem⟩

end Turnstile.Policy
