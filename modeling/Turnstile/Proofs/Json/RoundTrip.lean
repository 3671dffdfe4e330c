import Turnstile.Json.Printer
import Turnstile.Proofs.Json.Numbers
import Turnstile.Text.Basic
/-!
# Reading what has been printed

A value is read from its text, whatever comes after it (`readValue_chars`), but for its floating point
numbers: for these some numbers are read (`reread`). A value without any is what is read (`ofText_render`).
-/
namespace Turnstile.Json

/-! ## Strings -/

theorem hexDigit?_digitChar : ∀ n < 16, hexDigit? (Nat.digitChar n) = some n := by decide

section

variable (done rest : List Char) {c : Char}

theorem readString_short {e : Char} (known : shortEscape? e = some c) :
    readString (.text done none) ('\\' :: e :: rest) = readString (.text (c :: done) none) rest := by
  have other : e ≠ 'u' := by
    rintro rfl
    contradiction
  simp [readString, other, known, Unquoted.push]

/-- A control is read from its number. -/
theorem readString_control (small : c.toNat < 0x20) :
    readString (.text done none)
        ('\\' :: 'u' :: '0' :: '0' :: Nat.digitChar (c.toNat / 16) :: Nat.digitChar (c.toNat % 16) :: rest) =
      readString (.text (c :: done) none) rest := by
  have high := hexDigit?_digitChar (c.toNat / 16) (by omega)
  have low := hexDigit?_digitChar (c.toNat % 16) (by omega)
  have zero : hexDigit? '0' = some 0 := by decide
  have number : hex4? '0' '0' (Nat.digitChar (c.toNat / 16)) (Nat.digitChar (c.toNat % 16)) =
      some c.toNat := by
    simp only [hex4?, zero, high, low, Option.bind_eq_bind, Option.bind_some]
    congr 1
    omega
  have unit : (Unquoted.text done none).pushUnit c.toNat = .text (c :: done) none := by
    have second : isLowUnit c.toNat = false := by simp [isLowUnit]; omega
    have first : isHighUnit c.toNat = false := by simp [isHighUnit]; omega
    simp [Unquoted.pushUnit, first, second]
  rw [readString, number]
  simp only [unit]

theorem readString_plain (quote : c ≠ '"') (backslash : c ≠ '\\') (large : ¬c.toNat < 0x20) :
    readString (.text done none) (c :: rest) = readString (.text (c :: done) none) rest := by
  simp [readString, backslash, large, Unquoted.push]

/-- What stands for a character in a string is read as the character. -/
theorem readString_escape (c : Char) :
    readString (.text done none) (escape c ++ rest) = readString (.text (c :: done) none) rest := by
  have named {n : Nat} (same : c.toNat = n) : Char.ofNat n = c := by rw [← same, Char.ofNat_toNat]
  rw [escape]
  iterate 5
    split
    · subst_vars
      exact readString_short done rest rfl
  split
  · rename_i backspace
    exact readString_short done rest (congrArg some (named backspace))
  split
  · rename_i feed
    exact readString_short done rest (congrArg some (named feed))
  split
  · rename_i small
    exact readString_control done rest small
  · rename_i quote backslash _ _ _ _ _ large
    exact readString_plain done rest quote backslash large

end

theorem readString_flatMap (cs done rest : List Char) :
    readString (.text done none) (cs.flatMap escape ++ '"' :: rest) =
      (⟨.ok (String.ofList (done.reverse ++ cs)), none⟩, some rest) := by
  induction cs generalizing done with
  | nil => simp [readString, Unquoted.close]
  | cons c cs ih =>
    rw [List.flatMap_cons, List.append_assoc, readString_escape, ih]
    simp

/-- A string is read from its text. -/
theorem readString_quoted (s : String) (rest : List Char) :
    readString (.text [] none) (s.toList.flatMap escape ++ '"' :: rest) = (⟨.ok s, none⟩, some rest) := by
  rw [readString_flatMap]
  simp

/-! ## Values -/

/-- The numbers that values have: whole ones of 64 bits, and finite ones. -/
def IsNumber : Number → Prop
  | .whole n => IsWhole n
  | .real x => x.size.Finite

mutual

/-- All numbers of the value are such numbers. -/
def Proper : Json → Prop
  | .number n => IsNumber n
  | .array items => ItemsProper items
  | .object members => MembersProper members
  | _ => True

/-- So are those of all items. -/
def ItemsProper : List Json → Prop
  | [] => True
  | item :: rest => Proper item ∧ ItemsProper rest

/-- So are those of all members. -/
def MembersProper : List (String × Json) → Prop
  | [] => True
  | (_, value) :: rest => Proper value ∧ MembersProper rest

end

/-- The number that the text of a number reads as. -/
def rereadNumber (n : Number) : Number :=
  match readValue 1 (numberChars n) with
  | (.number (.ok m), _) => m
  | _ => n

mutual

/-- The value with every number as its text reads. -/
def reread : Json → Json
  | .number n => .number (rereadNumber n)
  | .array items => .array (rereadItems items)
  | .object members => .object (rereadMembers members)
  | v => v

def rereadItems : List Json → List Json
  | [] => []
  | item :: rest => reread item :: rereadItems rest

def rereadMembers : List (String × Json) → List (String × Json)
  | [] => []
  | (name, value) :: rest => (name, reread value) :: rereadMembers rest

end

theorem readValue_reread {n : Number} (number : IsNumber n) {rest : List Char} (ends : Ends rest) (fuel : Nat) :
    readValue (fuel + 1) (numberChars n ++ rest) = (.number (.ok (rereadNumber n)), some rest) := by
  obtain ⟨m, read⟩ : ∃ m, ∀ fuel rest, Ends rest →
      readValue (fuel + 1) (numberChars n ++ rest) = (.number (.ok m), some rest) := by
    cases n with
    | whole n => exact ⟨.whole n, fun fuel rest ends => readValue_number number ends fuel⟩
    | real x =>
      obtain ⟨y, read⟩ := readValue_real number
      exact ⟨.real y, read⟩
  have alone := read 0 [] fun c none => by simp at none
  rw [List.append_nil] at alone
  rw [rereadNumber, alone]
  exact read fuel rest ends

theorem rereadNumber_whole {n : Int} (whole : IsWhole n) : rereadNumber (.whole n) = .whole n := by
  have ends : Ends [] := fun c none => by simp at none
  have alone := readValue_number whole ends 0
  rw [List.append_nil] at alone
  rw [rereadNumber, alone]

/-- The text of a value begins with no blank, and not like the end of an array. -/
theorem chars_head (v : Json) :
    ∃ c rest, v.chars = c :: rest ∧ isSpace c = false ∧ c ≠ ']' := by
  cases v with
  | null => exact ⟨_, _, rfl, rfl, by decide⟩
  | bool b => cases b <;> exact ⟨_, _, rfl, rfl, by decide⟩
  | string s => exact ⟨_, _, rfl, rfl, by decide⟩
  | array items => exact ⟨_, _, rfl, rfl, by decide⟩
  | object members => exact ⟨_, _, rfl, rfl, by decide⟩
  | number n =>
    cases n with
    | real x =>
      rw [chars, numberChars, text_toList]
      split
      · exact ⟨_, _, rfl, rfl, by decide⟩
      · obtain ⟨c, rest, text, digit⟩ := layOut_head x.size.shortest.1 x.size.shortest.2
        exact ⟨c, rest, text, isSpace_of_isDigit digit, ne_of_isDigit digit (by decide)⟩
    | whole n =>
      rw [chars, numberChars]
      split
      · exact ⟨_, _, rfl, rfl, by decide⟩
      · obtain ⟨c, rest, digits, digit⟩ := toDigits_eq_cons n.natAbs
        exact ⟨c, rest, digits, isSpace_of_isDigit digit, ne_of_isDigit digit (by decide)⟩

theorem itemsChars_head {items : List Json} (filled : items ≠ []) :
    ∃ c rest, itemsChars items = c :: rest ∧ isSpace c = false ∧ c ≠ ']' := by
  obtain ⟨item, items, rfl⟩ := List.exists_cons_of_ne_nil filled
  obtain ⟨c, rest, text, starts⟩ := chars_head item
  cases items with
  | nil => exact ⟨c, rest, text, starts⟩
  | cons next items =>
    refine ⟨c, rest ++ ',' :: itemsChars (next :: items), ?_, starts⟩
    rw [itemsChars, text, List.cons_append]

/-! ### Steps -/

/-- No separator and no bracket belongs to a number. -/
theorem ends_of_mem {c : Char} (mem : c ∈ [',', ']', '\x7d']) (rest : List Char) : Ends (c :: rest) := by
  intro d head
  rw [List.head?_cons, Option.mem_some_iff] at head
  subst head
  simp only [List.mem_cons, List.not_mem_nil, or_false] at mem
  obtain rfl | rfl | rfl := mem <;> decide

theorem readValue_filled_array {c : Char} (filled : isSpace c = false) (other : c ≠ ']') (fuel : Nat)
    (cs : List Char) : readValue (fuel + 1) ('[' :: c :: cs) = readItems fuel [] (c :: cs) := by
  have bracket : skipSpace ('[' :: c :: cs) = '[' :: c :: cs := rfl
  rw [readValue, bracket]
  simp [skipSpace_cons filled, other]

theorem quote_append (s : String) (rest : List Char) :
    quote s ++ rest = '"' :: (s.toList.flatMap escape ++ '"' :: rest) := by
  simp [quote]

theorem readValue_quote (s : String) (rest : List Char) (fuel : Nat) :
    readValue (fuel + 1) (quote s ++ rest) = (.ofString s, some rest) := by
  have read : ∀ inside, readValue (fuel + 1) ('"' :: inside) =
      (.string (readString (.text [] none) inside).1, (readString (.text [] none) inside).2) :=
    fun _ => rfl
  rw [quote_append, read, readString_quoted]
  rfl

section

variable {fuel : Nat} {cs rest : List Char}

theorem readItems_last {item : Tree} (read : readValue fuel cs = (item, some (']' :: rest)))
    (done : List Tree) :
    readItems (fuel + 1) done cs = (.array (item :: done).reverse none, some rest) := by
  rw [readItems, read]
  rfl

theorem readItems_comma {item : Tree} (read : readValue fuel cs = (item, some (',' :: rest)))
    (done : List Tree) : readItems (fuel + 1) done cs = readItems fuel (item :: done) rest := by
  rw [readItems, read]
  rfl

theorem readMembers_last {value : Tree} (read : readValue fuel cs = (value, some ('\x7d' :: rest)))
    (name : String) (done : List (Written × Tree)) :
    readMembers (fuel + 1) done (quote name ++ ':' :: cs) =
      (.object ((⟨.ok name, none⟩, value) :: done).reverse none, some rest) := by
  have colon : skipSpace (':' :: cs) = ':' :: cs := rfl
  rw [quote_append, readMembers, skipSpace_cons (by decide)]
  simp only [readString_quoted, colon, read]
  rfl

theorem readMembers_comma {value : Tree} (read : readValue fuel cs = (value, some (',' :: rest)))
    (name : String) (done : List (Written × Tree)) :
    readMembers (fuel + 1) done (quote name ++ ':' :: cs) =
      readMembers fuel ((⟨.ok name, none⟩, value) :: done) rest := by
  have colon : skipSpace (':' :: cs) = ':' :: cs := rfl
  rw [quote_append, readMembers, skipSpace_cons (by decide)]
  simp only [readString_quoted, colon, read]
  rfl

end

/-! ### Complete values -/

-- Each call of the reader takes one unit of fuel and at least one character, so the text's length is the
-- bound that the cases hand on.
mutual

/-- A value is read from its text, with a unit of fuel for each character. -/
theorem readValue_chars : ∀ (v : Json) (fuel : Nat) (rest : List Char), v.Proper →
    v.chars.length ≤ fuel → Ends rest → readValue fuel (v.chars ++ rest) = (v.reread.toTree, some rest)
  | v, 0, rest, _, enough, _ => by
    obtain ⟨c, cs, text, -⟩ := chars_head v
    rw [text] at enough
    contradiction
  | .null, fuel + 1, rest, _, _, _ => rfl
  | .bool true, fuel + 1, rest, _, _, _ => rfl
  | .bool false, fuel + 1, rest, _, _, _ => rfl
  | .number n, fuel + 1, rest, proper, _, ends => readValue_reread proper ends fuel
  | .string s, fuel + 1, rest, _, _, _ => readValue_quote s rest fuel
  | .array [], fuel + 1, rest, _, _, _ => rfl
  | .array (item :: items), fuel + 1, rest, proper, enough, _ => by
    have text : (Json.array (item :: items)).chars ++ rest =
        '[' :: (itemsChars (item :: items) ++ ']' :: rest) := by
      simp [chars]
    rw [chars, List.length_append, List.length_cons, List.length_singleton] at enough
    obtain ⟨fuel, rfl⟩ : ∃ k, fuel = k + 1 := Nat.exists_eq_add_one_of_ne_zero (by omega)
    have inside := readItems_chars (item :: items) fuel [] rest (List.cons_ne_nil _ _) proper (by omega)
    obtain ⟨c, cs, starts, filled, other⟩ := itemsChars_head (List.cons_ne_nil item items)
    rw [starts, List.cons_append] at text inside
    rw [text, readValue_filled_array filled other, inside]
    rfl
  | .object [], fuel + 1, rest, _, _, _ => rfl
  | .object ((name, value) :: members), fuel + 1, rest, proper, enough, _ => by
    have text : (Json.object ((name, value) :: members)).chars ++ rest =
        '\x7b' :: (membersChars ((name, value) :: members) ++ '\x7d' :: rest) := by
      simp [chars]
    have opened (cs : List Char) :
        readValue (fuel + 1) ('\x7b' :: (membersChars ((name, value) :: members) ++ cs)) =
          readMembers fuel [] (membersChars ((name, value) :: members) ++ cs) := by
      cases members <;> rfl
    rw [chars, List.length_append, List.length_cons, List.length_singleton] at enough
    obtain ⟨fuel, rfl⟩ : ∃ k, fuel = k + 1 := Nat.exists_eq_add_one_of_ne_zero (by omega)
    rw [text, opened, readMembers_chars ((name, value) :: members) fuel [] rest (List.cons_ne_nil _ _)
      proper (by omega)]
    rfl

theorem readItems_chars : ∀ (items : List Json) (fuel : Nat) (done : List Tree) (rest : List Char),
    items ≠ [] → ItemsProper items → (itemsChars items).length ≤ fuel →
    readItems (fuel + 1) done (itemsChars items ++ ']' :: rest) =
      (.array (done.reverse ++ itemsToTree (rereadItems items)) none, some rest)
  | [], _, _, _, filled, _, _ => absurd rfl filled
  | [item], fuel, done, rest, _, proper, enough => by
    have read := readValue_chars item fuel _ proper.1 enough (ends_of_mem (c := ']') (by decide) rest)
    rw [itemsChars, readItems_last read, List.reverse_cons]
    rfl
  | item :: next :: items, fuel, done, rest, _, proper, enough => by
    rw [itemsChars, List.length_append, List.length_cons] at enough
    obtain ⟨fuel, rfl⟩ : ∃ k, fuel = k + 1 := Nat.exists_eq_add_one_of_ne_zero (by omega)
    have read := readValue_chars item (fuel + 1) _ proper.1 (by omega)
      (ends_of_mem (c := ',') (by decide) (itemsChars (next :: items) ++ ']' :: rest))
    have later := readItems_chars (next :: items) fuel (item.reread.toTree :: done) rest (List.cons_ne_nil _ _)
      proper.2 (by omega)
    rw [itemsChars, List.append_assoc, List.cons_append, readItems_comma read, later, List.reverse_cons,
      List.append_assoc]
    rfl

theorem readMembers_chars : ∀ (members : List (String × Json)) (fuel : Nat) (done : List (Written × Tree))
    (rest : List Char), members ≠ [] → MembersProper members → (membersChars members).length ≤ fuel →
    readMembers (fuel + 1) done (membersChars members ++ '\x7d' :: rest) =
      (.object (done.reverse ++ membersToTree (rereadMembers members)) none, some rest)
  | [], _, _, _, filled, _, _ => absurd rfl filled
  | [(name, value)], fuel, done, rest, _, proper, enough => by
    rw [membersChars, List.length_append, List.length_cons] at enough
    have read := readValue_chars value fuel _ proper.1 (by omega)
      (ends_of_mem (c := '\x7d') (by decide) rest)
    rw [membersChars, List.append_assoc, List.cons_append, readMembers_last read, List.reverse_cons]
    rfl
  | (name, value) :: next :: members, fuel, done, rest, _, proper, enough => by
    rw [membersChars, List.length_append, List.length_cons, List.length_append, List.length_cons] at enough
    obtain ⟨fuel, rfl⟩ : ∃ k, fuel = k + 1 := Nat.exists_eq_add_one_of_ne_zero (by omega)
    have read := readValue_chars value (fuel + 1) _ proper.1 (by omega)
      (ends_of_mem (c := ',') (by decide) (membersChars (next :: members) ++ '\x7d' :: rest))
    have later := readMembers_chars (next :: members) fuel ((⟨.ok name, none⟩, value.reread.toTree) :: done) rest
      (List.cons_ne_nil _ _) proper.2 (by omega)
    rw [membersChars, List.append_assoc, List.cons_append, List.append_assoc, List.cons_append,
      readMembers_comma read, later, List.reverse_cons, List.append_assoc]
    rfl

end

/-- The text of a value holds the value with its numbers as they read. -/
theorem ofText_reread {v : Json} (proper : v.Proper) : Document.ofText v.render = ⟨v.reread.toTree, false⟩ := by
  have read := readValue_chars v (2 * v.chars.length + 2) [] proper (by omega)
    fun _ none => absurd none (by simp)
  rw [List.append_nil] at read
  rw [Document.ofText, render, String.toList_ofList]
  simp only [read]
  rfl

/-! ### Values without floating point numbers -/

mutual

/-- The numbers of the value are kept whole. -/
def Whole : Json → Prop
  | .number (.whole n) => IsWhole n
  | .number (.real _) => False
  | .array items => ItemsWhole items
  | .object members => MembersWhole members
  | _ => True

/-- So are those of all items. -/
def ItemsWhole : List Json → Prop
  | [] => True
  | item :: rest => Whole item ∧ ItemsWhole rest

/-- So are those of all members. -/
def MembersWhole : List (String × Json) → Prop
  | [] => True
  | (_, value) :: rest => Whole value ∧ MembersWhole rest

end

mutual

theorem proper_of_whole : ∀ {v : Json}, v.Whole → v.Proper
  | .null, _ => trivial
  | .bool _, _ => trivial
  | .number (.whole _), whole => whole
  | .number (.real _), whole => whole.elim
  | .string _, _ => trivial
  | .array _, whole => itemsProper_of_whole whole
  | .object _, whole => membersProper_of_whole whole

theorem itemsProper_of_whole : ∀ {items : List Json}, ItemsWhole items → ItemsProper items
  | [], _ => trivial
  | _ :: _, whole => ⟨proper_of_whole whole.1, itemsProper_of_whole whole.2⟩

theorem membersProper_of_whole : ∀ {members : List (String × Json)}, MembersWhole members → MembersProper members
  | [], _ => trivial
  | _ :: _, whole => ⟨proper_of_whole whole.1, membersProper_of_whole whole.2⟩

end

mutual

theorem reread_of_whole : ∀ {v : Json}, v.Whole → v.reread = v
  | .null, _ => rfl
  | .bool _, _ => rfl
  | .number (.whole _), whole => by rw [reread, rereadNumber_whole whole]
  | .number (.real _), whole => whole.elim
  | .string _, _ => rfl
  | .array _, whole => by rw [reread, rereadItems_of_whole whole]
  | .object _, whole => by rw [reread, rereadMembers_of_whole whole]

theorem rereadItems_of_whole : ∀ {items : List Json}, ItemsWhole items → rereadItems items = items
  | [], _ => rfl
  | _ :: _, whole => by rw [rereadItems, reread_of_whole whole.1, rereadItems_of_whole whole.2]

theorem rereadMembers_of_whole :
    ∀ {members : List (String × Json)}, MembersWhole members → rereadMembers members = members
  | [], _ => rfl
  | _ :: _, whole => by rw [rereadMembers, reread_of_whole whole.1, rereadMembers_of_whole whole.2]

end

theorem ofText_render {v : Json} (whole : v.Whole) : Document.ofText v.render = ⟨v.toTree, false⟩ := by
  rw [ofText_reread (proper_of_whole whole), reread_of_whole whole]

/-- In a text of blanks there is no value. -/
theorem readValue_blank {cs : List Char} (blank : cs.all Text.isBlank = true) (fuel : Nat) :
    ∃ flaw, readValue (fuel + 1) cs = (.broken flaw, none) := by
  rw [readValue]
  cases left : skipSpace cs with
  | nil => exact ⟨_, rfl⟩
  | cons c rest =>
    have here : Text.isBlank c = true := by
      apply List.all_eq_true.mp blank c
      exact (List.dropWhile_sublist _).subset (left ▸ List.mem_cons_self)
    have other : ∀ d ∈ ['n', 't', 'f', '"', '-', '[', '\x7b'], c ≠ d := by
      have filled : ['n', 't', 'f', '"', '-', '[', '\x7b'].all (!Text.isBlank ·) = true := rfl
      rintro d mem rfl
      have other := List.all_eq_true.mp filled c mem
      rw [here] at other
      contradiction
    have digit : c.isDigit = false := by
      rw [Bool.eq_false_iff]
      intro digit
      have range := range_of_isDigit digit
      simp [Text.isBlank] at here
      omega
    simp only [List.forall_mem_cons] at other
    exact ⟨.malformed, by simp [digit, other]⟩

/-! ### Line feeds -/

theorem feed_not_mem_escape (c : Char) : '\n' ∉ escape c := by
  have digit : ∀ n < 16, Nat.digitChar n ≠ '\n' := by decide
  rw [escape]
  iterate 7
    split
    · decide
  split
  · have high := digit (c.toNat / 16) (by omega)
    have low := digit (c.toNat % 16) (by omega)
    simp [Ne.symm high, Ne.symm low]
  · rename_i feed _ _ _ _ _
    simpa using Ne.symm feed

theorem feed_not_mem_quote (s : String) : '\n' ∉ quote s := by
  simp [quote, feed_not_mem_escape]

mutual

/-- The text of a value is a single line. -/
theorem feed_not_mem_chars : ∀ {v : Json}, v.Whole → '\n' ∉ v.chars
  | .null, _ => by decide
  | .bool true, _ => by decide
  | .bool false, _ => by decide
  | .number (.whole n), _ => by
    intro mem
    rw [chars, numberChars, List.mem_append] at mem
    rcases mem with sign | digit
    · split at sign <;> simp at sign
    · have := Nat.isDigit_of_mem_toDigits (by decide) (by decide) digit
      contradiction
  | .number (.real _), whole => whole.elim
  | .string s, _ => feed_not_mem_quote s
  | .array items, whole => by
    have inside : '\n' ∉ itemsChars items := feed_not_mem_itemsChars whole
    simp [chars, inside]
  | .object members, whole => by
    have inside : '\n' ∉ membersChars members := feed_not_mem_membersChars whole
    simp [chars, inside]

theorem feed_not_mem_itemsChars : ∀ {items : List Json}, ItemsWhole items → '\n' ∉ itemsChars items
  | [], _ => by decide
  | [item], whole => by
    rw [itemsChars]
    exact feed_not_mem_chars whole.1
  | item :: next :: items, whole => by
    have first := feed_not_mem_chars whole.1
    have later : '\n' ∉ itemsChars (next :: items) := feed_not_mem_itemsChars whole.2
    simp [itemsChars, first, later]

theorem feed_not_mem_membersChars :
    ∀ {members : List (String × Json)}, MembersWhole members → '\n' ∉ membersChars members
  | [], _ => by decide
  | [(name, value)], whole => by
    have inside := feed_not_mem_chars whole.1
    simp [membersChars, feed_not_mem_quote, inside]
  | (name, value) :: next :: members, whole => by
    have first := feed_not_mem_chars whole.1
    have later : '\n' ∉ membersChars (next :: members) := feed_not_mem_membersChars whole.2
    simp [membersChars, feed_not_mem_quote, first, later]

end

end Turnstile.Json
