import Mathlib.Data.List.Forall2
import Turnstile.Json.Pointer
import Turnstile.Proofs.Json.RoundTrip
import Turnstile.Proofs.Text.Cutting
/-!
# What a pointer addresses

`Addresses` says which value a pointer means, without reading the pointer: what it spells (`Spells`) and
where a list of tokens leads (`Leads`). `atPointer?` finds that value (`atPointer?_iff`). Every list of
tokens is spelled by its pointer, whatever characters are in it (`spells_pointerOf`).
-/
namespace Turnstile.Json

/-! ## Tokens -/

/-- A part of a pointer stands for a token. A tilde stands for itself unless `0` or `1` comes after it. -/
inductive Denotes : List Char → List Char → Prop
  | done : Denotes [] []
  | tilde {w t : List Char} : Denotes w t → Denotes ('~' :: '0' :: w) ('~' :: t)
  | slash {w t : List Char} : Denotes w t → Denotes ('~' :: '1' :: w) ('/' :: t)
  | plain {c : Char} {w t : List Char} :
      (c = '~' → ∀ d ∈ w.head?, d ≠ '0' ∧ d ≠ '1') → Denotes w t → Denotes (c :: w) (c :: t)

theorem denotes_unescapeToken (w : List Char) : Denotes w (unescapeToken w) := by
  fun_induction unescapeToken w with
  | case1 => exact .done
  | case2 => exact .plain (fun _ d mem => by simp at mem) .done
  | case3 w ih => exact .tilde ih
  | case4 w ih => exact .slash ih
  | case5 c w alone zero one ih =>
    refine .plain ?_ ih
    rintro rfl d mem
    cases w with
    | nil => exact (alone rfl rfl).elim
    | cons e w =>
      obtain rfl : e = d := by simpa using mem
      exact ⟨fun same => zero w rfl (same ▸ rfl), fun same => one w rfl (same ▸ rfl)⟩

theorem unescapeToken_plain {c : Char} {w : List Char} (plain : c = '~' → ∀ d ∈ w.head?, d ≠ '0' ∧ d ≠ '1') :
    unescapeToken (c :: w) = c :: unescapeToken w := by
  by_cases tilde : c = '~'
  · subst tilde
    cases w with
    | nil => rfl
    | cons d w =>
      obtain ⟨zero, one⟩ := plain rfl d rfl
      rw [unescapeToken]
      all_goals simp [zero, one]
  · cases w <;> simp [unescapeToken, tilde]

theorem denotes_iff {w t : List Char} : Denotes w t ↔ unescapeToken w = t := by
  constructor
  · intro denotes
    induction denotes with
    | done => rfl
    | tilde _ ih => rw [unescapeToken, ih]
    | slash _ ih => rw [unescapeToken, ih]
    | plain plain _ ih => rw [unescapeToken_plain plain, ih]
  · rintro rfl
    exact denotes_unescapeToken w

/-- An escaped token stands for the token. -/
theorem denotes_escapeToken (t : List Char) : Denotes (escapeToken t) t := by
  induction t with
  | nil => exact .done
  | cons c t ih =>
    rw [escapeToken, List.flatMap_cons]
    by_cases tilde : c = '~'
    · rw [if_pos tilde, tilde]
      exact .tilde ih
    by_cases slash : c = '/'
    · rw [if_neg tilde, if_pos slash, slash]
      exact .slash ih
    · rw [if_neg tilde, if_neg slash]
      exact .plain (fun same => absurd same tilde) ih

theorem slash_not_mem_escapeToken (t : List Char) : '/' ∉ escapeToken t := by
  intro mem
  obtain ⟨c, -, here⟩ := List.mem_flatMap.mp mem
  split at here
  · simp at here
  split at here
  · simp at here
  · rename_i slash
    exact slash (List.mem_singleton.mp here).symm

/-! ## Pointers -/

/-- The pointer has these tokens, a slash before each. -/
inductive Spells : List Char → List String → Prop
  | root : Spells [] []
  | token {w rest : List Char} {token : String} {tokens : List String} :
      '/' ∉ w → Denotes w token.toList → Spells rest tokens → Spells ('/' :: (w ++ rest)) (token :: tokens)

/-- The token that a part of a pointer without slashes stands for. -/
def tokenOf (w : List Char) : String := String.ofList (unescapeToken w)

theorem spells_iff {cs : List Char} {tokens : List String} :
    Spells cs tokens ↔ ∃ parts : List (List Char),
      (∀ w ∈ parts, '/' ∉ w) ∧ cs = parts.flatMap ('/' :: ·) ∧ tokens = parts.map tokenOf := by
  constructor
  · intro spells
    induction spells with
    | root => exact ⟨[], by simp⟩
    | @token w rest token tokens plain denotes _ ih =>
      obtain ⟨parts, others, rfl, rfl⟩ := ih
      refine ⟨w :: parts, List.forall_mem_cons.mpr ⟨plain, others⟩, rfl, ?_⟩
      rw [List.map_cons, tokenOf, denotes_iff.mp denotes, String.ofList_toList]
  · rintro ⟨parts, plain, rfl, rfl⟩
    induction parts with
    | nil => exact .root
    | cons w parts ih =>
      rw [List.forall_mem_cons] at plain
      refine .token plain.1 ?_ (ih plain.2)
      rw [tokenOf, String.toList_ofList]
      exact denotes_unescapeToken w

theorem spells_pointerOf (tokens : List String) : Spells (pointerOf tokens).toList tokens := by
  rw [pointerOf, String.toList_ofList]
  induction tokens with
  | nil => exact .root
  | cons token tokens ih => exact .token (slash_not_mem_escapeToken _) (denotes_escapeToken _) ih

theorem intercalate_cons_eq (sep : Char) (first : List Char) (parts : List (List Char)) :
    [sep].intercalate (first :: parts) = first ++ parts.flatMap (sep :: ·) := by
  induction parts generalizing first with
  | nil => simp
  | cons next parts ih =>
    rw [List.intercalate_cons_cons, ih, List.flatMap_cons, List.append_assoc, List.cons_append, List.nil_append,
      List.cons_append]

theorem pointerTokens?_iff {cs : List Char} {tokens : List String} :
    pointerTokens? cs = some (tokens.map String.toList) ↔ Spells cs tokens := by
  have back (parts : List (List Char)) : (parts.map tokenOf).map String.toList = parts.map unescapeToken := by
    simp [tokenOf]
  rw [spells_iff]
  constructor
  · intro found
    cases cs with
    | nil =>
      obtain rfl : tokens = [] := by simpa [pointerTokens?, eq_comm] using found
      exact ⟨[], by simp⟩
    | cons c rest =>
      obtain ⟨rfl, parts⟩ : c = '/' ∧ (Text.pieces '/' rest).map unescapeToken = tokens.map String.toList := by
        rw [pointerTokens?.eq_def] at found
        split at found
        · contradiction
        · rename_i same
          obtain ⟨rfl, rfl⟩ := List.cons.inj same
          exact ⟨rfl, Option.some.inj found⟩
        · contradiction
      refine ⟨Text.pieces '/' rest, fun w => Text.sep_not_mem_of_mem_pieces, ?_, ?_⟩
      · have whole : ['/'].intercalate (Text.pieces '/' rest) = rest := by
          rw [Text.pieces_eq_splitOn, List.intercalate_splitOn]
        cases cut : Text.pieces '/' rest with
        | nil =>
          rw [Text.pieces_eq_splitOn] at cut
          exact absurd cut (List.splitOn_ne_nil '/' rest)
        | cons first others =>
          rw [cut, intercalate_cons_eq] at whole
          rw [List.flatMap_cons, List.cons_append, whole]
      · rw [← back] at parts
        exact (List.map_injective_iff.mpr fun _ _ => String.toList_inj.mp) parts.symm
  · rintro ⟨parts, plain, rfl, rfl⟩
    rw [back]
    cases parts with
    | nil => rfl
    | cons first others =>
      have cut : Text.pieces '/' (first ++ others.flatMap ('/' :: ·)) = first :: others := by
        rw [← intercalate_cons_eq, Text.pieces_eq_splitOn, List.splitOn_intercalate '/' plain (List.cons_ne_nil _ _)]
      rw [List.flatMap_cons, List.cons_append, pointerTokens?, cut]

/-! ## Counting items -/

theorem toDigits_digit {c : Char} (digit : c.isDigit = true) : Nat.toDigits 10 (c.toNat - '0'.toNat) = [c] := by
  have range := range_of_isDigit digit
  have same : Nat.digitChar (c.toNat - 48) = c := by
    apply Char.toNat_inj.mp
    rw [Nat.toNat_digitChar_of_lt_ten (by omega)]
    omega
  rw [show '0'.toNat = 48 from rfl, Nat.toDigits_of_lt_base (by omega), same]

theorem toDigits_append_of_digits {cs : List Char} (digits : cs.all Char.isDigit = true) {n : Nat} (some : 0 < n) :
    Nat.toDigits 10 n ++ cs = Nat.toDigits 10 (Nat.ofDigitChars 10 cs n) := by
  induction cs generalizing n with
  | nil => simp [Nat.ofDigitChars]
  | cons c cs ih =>
    rw [List.all_cons, Bool.and_eq_true] at digits
    have small := value_lt_of_isDigit digits.1
    have one : Nat.toDigits 10 n ++ [c] = Nat.toDigits 10 (10 * n + (c.toNat - '0'.toNat)) := by
      rw [← Nat.toDigits_append_toDigits (by decide) some small, toDigits_digit digits.1]
    calc
      Nat.toDigits 10 n ++ c :: cs = Nat.toDigits 10 n ++ [c] ++ cs := by simp
      _ = Nat.toDigits 10 (Nat.ofDigitChars 10 cs (10 * n + (c.toNat - '0'.toNat))) := by
        rw [one, ih digits.2 (by omega)]
      _ = Nat.toDigits 10 (Nat.ofDigitChars 10 (c :: cs) n) := by rw [Nat.ofDigitChars_cons]

/-- Digits without a leading zero are those of their number. -/
theorem toDigits_ofDigitChars {cs : List Char} (filled : cs ≠ []) (digits : cs.all Char.isDigit = true)
    (canonical : cs.head? = some '0' → cs.length = 1) : Nat.toDigits 10 (Nat.ofDigitChars 10 cs 0) = cs := by
  cases cs with
  | nil => contradiction
  | cons c cs =>
    rw [List.all_cons, Bool.and_eq_true] at digits
    have first := toDigits_digit digits.1
    rw [Nat.ofDigitChars_cons, Nat.mul_zero, Nat.zero_add]
    by_cases zero : c = '0'
    · subst zero
      obtain rfl : cs = [] := by simpa using canonical rfl
      exact first
    · have some : 0 < c.toNat - '0'.toNat := by
        refine Nat.pos_of_ne_zero fun none => zero ?_
        rw [none] at first
        exact (List.cons.inj first).1.symm
      rw [← toDigits_append_of_digits digits.2 some, first]
      rfl

/-- A token counts an item when it is the decimal of its place. -/
theorem itemIndex?_iff {token : List Char} {i : Nat} :
    itemIndex? token = some i ↔ token = Nat.toDigits 10 i ∧ i < 2 ^ 64 := by
  rw [itemIndex?, foldl_digits]
  constructor
  · intro found
    split at found
    · contradiction
    rename_i form
    split at found
    · contradiction
    rename_i canonical
    simp only [Bool.or_eq_true, List.isEmpty_iff, Bool.not_eq_true', not_or, Bool.not_eq_false] at form
    simp only [Bool.and_eq_true, decide_eq_true_eq, not_and, not_not] at canonical
    obtain ⟨small, rfl⟩ : Nat.ofDigitChars 10 token 0 < Nat.pow 2 64 ∧ Nat.ofDigitChars 10 token 0 = i := by
      simpa using found
    exact ⟨(toDigits_ofDigitChars form.1 form.2 canonical).symm, small⟩
  · rintro ⟨rfl, small⟩
    have filled : (Nat.toDigits 10 i).isEmpty = false := by simp
    have digits : (Nat.toDigits 10 i).all Char.isDigit = true :=
      List.all_eq_true.mpr fun c mem => Nat.isDigit_of_mem_toDigits (by decide) (by decide) mem
    have canonical : ¬((Nat.toDigits 10 i).head? = some '0' ∧ (Nat.toDigits 10 i).length ≠ 1) := by
      rintro ⟨zero, long⟩
      rw [toDigits_head zero] at long
      exact long rfl
    have small : i < Nat.pow 2 64 := small
    simp only [filled, digits, canonical, Nat.ofDigitChars_ten_toDigits, small, Bool.not_true, Bool.or_false,
      Bool.false_eq_true, if_false, if_true, Bool.and_eq_true, decide_eq_true_eq]

/-! ## Paths -/

/-- The tokens lead from a value to a value inside it: by an object's member of that name, or by an array's
item that the token counts in decimal. -/
inductive Leads : Json → List String → Json → Prop
  | here {v : Json} : Leads v [] v
  | member {members : List (String × Json)} {token : String} {tokens : List String} {child node : Json} :
      members.lookup token = some child → Leads child tokens node → Leads (.object members) (token :: tokens) node
  | item {items : List Json} {i : Nat} {token : String} {tokens : List String} {child node : Json} :
      token.toList = Nat.toDigits 10 i → i < 2 ^ 64 → items[i]? = some child → Leads child tokens node →
      Leads (.array items) (token :: tokens) node

theorem descend?_iff {tokens : List String} {v node : Json} :
    descend? (tokens.map String.toList) v = some node ↔ Leads v tokens node := by
  constructor
  · intro found
    induction tokens generalizing v with
    | nil =>
      obtain rfl : v = node := Option.some.inj found
      exact .here
    | cons token tokens ih =>
      obtain ⟨child, first, later⟩ := Option.bind_eq_some_iff.mp found
      have deeper := ih later
      cases v with
      | object members =>
        simp only [child?, String.ofList_toList] at first
        exact .member first deeper
      | array items =>
        obtain ⟨i, counted, here⟩ := Option.bind_eq_some_iff.mp first
        obtain ⟨decimal, small⟩ := itemIndex?_iff.mp counted
        exact .item decimal small here deeper
      | _ => contradiction
  · intro leads
    induction leads with
    | here => rfl
    | member found _ ih =>
      refine Option.bind_eq_some_iff.mpr ⟨_, ?_, ih⟩
      simp only [child?, String.ofList_toList, found]
    | item decimal small found _ ih =>
      refine Option.bind_eq_some_iff.mpr ⟨_, ?_, ih⟩
      simp only [child?, itemIndex?_iff.mpr ⟨decimal, small⟩, Option.bind_some, found]

/-- The pointer means this value inside the document. -/
def Addresses (document : Json) (pointer : String) (node : Json) : Prop :=
  ∃ tokens, Spells pointer.toList tokens ∧ Leads document tokens node

theorem atPointer?_iff {document node : Json} {pointer : String} :
    document.atPointer? pointer = some node ↔ Addresses document pointer node := by
  rw [atPointer?, Option.bind_eq_some_iff]
  constructor
  · rintro ⟨parts, spelled, found⟩
    obtain ⟨tokens, rfl⟩ : ∃ tokens : List String, parts = tokens.map String.toList :=
      ⟨parts.map String.ofList, by simp⟩
    exact ⟨tokens, pointerTokens?_iff.mp spelled, descend?_iff.mp found⟩
  · rintro ⟨tokens, spells, leads⟩
    exact ⟨_, pointerTokens?_iff.mpr spells, descend?_iff.mpr leads⟩

/-- The document has the value under the path, each token of it the name of one member. What else stands in
the document has no part in it. -/
inductive Nests (node : Json) : List String → Json → Prop
  | here : Nests node [] node
  | under {token : String} {tokens : List String} {child : Json} {before after : List (String × Json)} :
      (∀ m ∈ before, m.1 ≠ token) → Nests node tokens child →
      Nests node (token :: tokens) (.object (before ++ (token, child) :: after))

theorem Nests.leads {node document : Json} {tokens : List String} (nests : Nests node tokens document) :
    Leads document tokens node := by
  induction nests with
  | here => exact .here
  | @under token tokens child before after first _ ih =>
    refine .member ?_ ih
    have none : before.lookup token = none := by
      rw [List.lookup_eq_none_iff]
      intro m mem
      simpa using (first m mem).symm
    rw [List.lookup_append, none, Option.none_or, List.lookup_cons_self]

/-- A path leads to what is nested under it, by the pointer of its tokens. -/
theorem Nests.addresses {node document : Json} {tokens : List String} (nests : Nests node tokens document) :
    Addresses document (pointerOf tokens) node :=
  ⟨tokens, spells_pointerOf tokens, nests.leads⟩

end Turnstile.Json
