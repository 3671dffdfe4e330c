import Turnstile.Log.Identifier
import Turnstile.Log.Instant
import Turnstile.Proofs.Json.Numbers
/-!
# Identifiers and times read back

An identifier is read from its printed form (`Identifier.parse?_text`), and so is every time that there is
(`Instant.parse?_text`), with its sign if the year has not four digits and with its fraction to the nanosecond.
-/
namespace Turnstile.Log

open Text

namespace Identifier

variable {cs : List Char}

theorem ofDigits?_digits (i : Identifier) : ofDigits? (i.digits.map fun d => Nat.digitChar d.val) = some i := by
  have digit : ∀ d : Fin 16, (Shape.digitIn? 16 (Nat.digitChar d.val)).map (Fin.ofNat 16) = some d := by decide
  have read : (i.digits.map fun d => Nat.digitChar d.val).mapM
      (fun c => (Shape.digitIn? 16 c).map (Fin.ofNat 16)) = some i.digits := by
    rw [List.mapM_map, show (fun c => (Shape.digitIn? 16 c).map (Fin.ofNat 16)) ∘
      (fun d : Fin 16 => Nat.digitChar d.val) = some from funext digit]
    exact List.mapM_pure.trans (by simp)
  rw [ofDigits?, read]
  simp only [bind, Option.bind_some]
  exact dif_pos i.length_eq

theorem filter_hyphenated (plain : '-' ∉ cs) : (hyphenated cs).filter (· ≠ '-') = cs := by
  have keep : ∀ part : List Char, part.Sublist cs → part.filter (· ≠ '-') = part := by
    intro part inside
    rw [List.filter_eq_self]
    intro c mem
    exact decide_eq_true fun hyphen => plain (hyphen ▸ inside.subset mem)
  have rejoin (n k : Nat) : (cs.drop n).take k ++ cs.drop (n + k) = cs.drop n := by
    rw [← List.drop_drop, List.take_append_drop]
  have group (n : Nat) : ((cs.drop n).take 4).filter (· ≠ '-') = (cs.drop n).take 4 :=
    keep _ ((List.take_sublist _ _).trans (List.drop_sublist _ _))
  have hyphen (rest : List Char) : ('-' :: rest).filter (· ≠ '-') = rest.filter (· ≠ '-') := rfl
  simp only [hyphenated, List.append_assoc, List.cons_append, List.filter_append, hyphen, group,
    keep _ (List.take_sublist _ _), keep _ (List.drop_sublist _ _)]
  rw [rejoin 16 4, rejoin 12 4, rejoin 8 4, List.take_append_drop]

theorem parse?_text (i : Identifier) : parse? i.text = some i := by
  have digit : ∀ d : Fin 16,
      Nat.digitChar d.val ≠ '\x7b' ∧ (Nat.digitChar d.val).toLower ≠ 'u' ∧ Nat.digitChar d.val ≠ '-' := by decide
  let cs := i.digits.map fun d => Nat.digitChar d.val
  have length : cs.length = 32 := (List.length_map _).trans i.length_eq
  have plain : '-' ∉ cs := by
    intro mem
    obtain ⟨d, -, is⟩ := List.mem_map.mp mem
    exact (digit d).2.2 is
  have long : ¬(hyphenated cs).length = 32 := by simp [hyphenated, length]
  obtain ⟨first, rest, is⟩ := List.exists_cons_of_length_eq_add_one i.length_eq
  have begins : hyphenated cs = Nat.digitChar first.val :: (hyphenated cs).tail := by
    show hyphenated (i.digits.map fun d => Nat.digitChar d.val) =
      _ :: (hyphenated (i.digits.map fun d => Nat.digitChar d.val)).tail
    rw [is]
    rfl
  have bare : ¬(hyphenated cs).head? = some '\x7b' := by
    rw [begins]
    exact fun brace => (digit first).1 (Option.some.inj brace)
  have marked : ¬((hyphenated cs).take 9).map Char.toLower = "urn:uuid:".toList := by
    rw [begins]
    exact fun mark => (digit first).2.1 (List.cons.inj mark).1
  rw [parse?, text, String.toList_ofList]
  simp only [show i.digits.map (fun d => Nat.digitChar d.val) = cs from rfl]
  rw [if_neg long, if_neg bare, if_neg marked, ofHyphenated?]
  simp only [filter_hyphenated plain, if_true]
  exact i.ofDigits?_digits

end Identifier

namespace Instant

/-- There is such a time: its day is in the calendar, and only a leap second may come after the last second of
its minute. -/
structure Valid (t : Instant) : Prop where
  date : t.date.isValid = true
  minute : t.minute < 1440
  second : t.second ≤ 60
  nanosecond : t.nanosecond < 10 ^ 9

/-! ## Numbers -/

theorem numberOf_eq (digits : List Char) : numberOf digits = Nat.ofDigitChars 10 digits 0 := Json.foldl_digits digits

theorem numberOf_padded (width n : Nat) : numberOf (padded width n) = n := by
  rw [numberOf_eq, padded, Nat.ofDigitChars_append, Nat.ofDigitChars_replicate_zero, Nat.mul_zero,
    Nat.ofDigitChars_ten_toDigits]

theorem digits_padded (width n : Nat) : Json.Digits (padded width n) := by
  have digits := Json.digits_toDigits n
  refine ⟨List.append_ne_nil_of_right_ne_nil _ digits.filled, fun c mem => ?_⟩
  rcases List.mem_append.mp mem with zero | digit
  · rw [List.eq_of_mem_replicate zero]
    rfl
  · exact digits.all c digit

theorem length_padded {width n : Nat} (some : 0 < width) (fits : n < 10 ^ width) :
    (padded width n).length = width := by
  have short := (Nat.length_toDigits_le_iff (b := 10) (by decide) some).mpr fits
  rw [padded, List.length_append, List.length_replicate]
  exact Nat.sub_add_cancel short

/-- A number ends before anything that is no digit. -/
theorem stops_at {c : Char} (other : c.isDigit = false) (rest : List Char) :
    ∀ d ∈ (c :: rest).head?, d.isDigit = false := by
  intro d mem
  rwa [← Option.some.inj mem]

theorem number?_padded {most width n : Nat} {rest : List Char} (fits : (padded width n).length ≤ most)
    (stop : ∀ c ∈ rest.head?, c.isDigit = false) : number? most (padded width n ++ rest) = some (n, rest) := by
  have digits := digits_padded width n
  have filled : (padded width n).isEmpty = false := by simp [digits.filled]
  have taken := (Json.cut_digits digits.all stop).1
  simp only [number?, taken, List.take_of_length_le fits, filled, Bool.false_eq_true, if_false, numberOf_padded,
    List.drop_left]

theorem skipBlanks_padded (width n : Nat) (rest : List Char) :
    skipBlanks (padded width n ++ rest) = padded width n ++ rest := by
  obtain ⟨filled, all⟩ := digits_padded width n
  obtain ⟨c, cs, is⟩ := List.exists_cons_of_ne_nil filled
  have digit := Json.range_of_isDigit (all c (is ▸ List.mem_cons_self))
  have solid : isBlank c = false := by
    simp [isBlank]
    omega
  rw [is, skipBlanks, List.cons_append, List.dropWhile_cons_of_neg (by simp [solid])]

theorem year?_chars (year : Int) {rest : List Char} (stop : ∀ c ∈ rest.head?, c.isDigit = false) :
    year? (yearChars year ++ rest) = some (year, rest) := by
  by_cases plain : 0 ≤ year ∧ year ≤ 9999
  · have four : (padded 4 year.natAbs).length ≤ 4 := (length_padded (by decide) (by omega)).le
    obtain ⟨filled, all⟩ := digits_padded 4 year.natAbs
    obtain ⟨c, cs, is⟩ := List.exists_cons_of_ne_nil filled
    have digit := all c (is ▸ List.mem_cons_self)
    have minus := Json.ne_of_isDigit digit (d := '-') (by decide)
    have plus := Json.ne_of_isDigit digit (d := '+') (by decide)
    have number := number?_padded four stop
    have chars : yearChars year = padded 4 year.natAbs := by simp [yearChars, plain]
    have whole : (year.natAbs : Int) = year := by omega
    rw [chars, year?, skipBlanks_padded]
    rw [is, List.cons_append] at number ⊢
    split
    · rename_i same
      exact absurd (List.cons.inj same).1 minus
    · rename_i same
      exact absurd (List.cons.inj same).1 plus
    · rw [number, Option.map_some]
      simp only [whole]
  · have number : number? (padded 4 year.natAbs ++ rest).length (padded 4 year.natAbs ++ rest) =
        some (year.natAbs, rest) := number?_padded (by simp) stop
    have chars : yearChars year = (if year < 0 then '-' else '+') :: padded 4 year.natAbs := by
      simp [yearChars, plain]
    rw [chars, year?, List.cons_append]
    by_cases negative : year < 0
    · have whole : -(year.natAbs : Int) = year := by omega
      have solid : skipBlanks ('-' :: (padded 4 year.natAbs ++ rest)) = '-' :: (padded 4 year.natAbs ++ rest) := rfl
      rw [if_pos negative, solid]
      simp only [number, Option.map_some, whole]
    · have whole : (year.natAbs : Int) = year := by omega
      have solid : skipBlanks ('+' :: (padded 4 year.natAbs ++ rest)) = '+' :: (padded 4 year.natAbs ++ rest) := rfl
      rw [if_neg negative, solid]
      simp only [number, Option.map_some, whole]

theorem pair?_padded {n : Nat} {rest : List Char} (two : n < 100) (stop : ∀ c ∈ rest.head?, c.isDigit = false) :
    pair? (padded 2 n ++ rest) = some (n, rest) := by
  rw [pair?, skipBlanks_padded]
  exact number?_padded (length_padded (by decide) two).le stop

/-- The digits of a fraction are those of its nanoseconds, without the zeros at the end. -/
theorem fraction?_padded {width n : Nat} {rest : List Char} (some : 0 < width) (fits : n < 10 ^ width)
    (stop : ∀ c ∈ rest.head?, c.isDigit = false) (short : width ≤ 9) :
    fraction? ('.' :: (padded width n ++ rest)) = Option.some (n * 10 ^ (9 - width), rest) := by
  have digits := digits_padded width n
  have length := length_padded some fits
  have taken := (Json.cut_digits digits.all stop).1
  have filled : (padded width n).isEmpty = false := by simp [digits.filled]
  have nine : (padded width n ++ List.replicate 9 '0').take 9 = padded width n ++ List.replicate (9 - width) '0' := by
    rw [List.take_append, length, List.take_of_length_le (by omega), List.take_replicate]
    congr 2
    omega
  have value : numberOf (padded width n ++ List.replicate (9 - width) '0') = n * 10 ^ (9 - width) := by
    rw [numberOf_eq, Nat.ofDigitChars_append, ← numberOf_eq, numberOf_padded, Nat.ofDigitChars_replicate_zero,
      Nat.mul_comm]
  simp only [fraction?, taken, filled, nine, value, Bool.false_eq_true, if_false, List.drop_left]

theorem fraction?_chars {nanosecond : Nat} (fits : nanosecond < 10 ^ 9) :
    fraction? (fractionChars nanosecond ++ ['Z']) = some (nanosecond, ['Z']) := by
  have stop : ∀ c ∈ ['Z'].head?, c.isDigit = false := stops_at rfl []
  rw [fractionChars]
  split
  · rename_i none
    rw [none]
    rfl
  · split
    · have small : nanosecond / 1000000 < 10 ^ 3 := by omega
      have whole : nanosecond / 1000000 * 10 ^ (9 - 3) = nanosecond := by omega
      rw [List.cons_append, fraction?_padded (by decide) small stop (by decide), whole]
    · split
      · have small : nanosecond / 1000 < 10 ^ 6 := by omega
        have whole : nanosecond / 1000 * 10 ^ (9 - 6) = nanosecond := by omega
        rw [List.cons_append, fraction?_padded (by decide) small stop (by decide), whole]
      · rw [List.cons_append, fraction?_padded (by decide) fits stop (by decide), Nat.sub_self, Nat.pow_zero,
          Nat.mul_one]

theorem ofLocal?_utc {t : Instant} (valid : t.Valid) :
    ofLocal? t.date t.minute t.second t.nanosecond 0 = some t := by
  obtain ⟨date, minute, second, -⟩ := valid
  have same : (if (t.minute : Int) - 0 < 0 then t.date.previous
      else if 1440 ≤ (t.minute : Int) - 0 then t.date.next else t.date) = t.date := by
    rw [if_neg (by omega), if_neg (by omega)]
  have rest : (((t.minute : Int) - 0) % 1440).toNat = t.minute := by omega
  simp only [ofLocal?, same, rest, date, minute, second]
  rfl

theorem stops_before_fraction (nanosecond : Nat) (rest : List Char) :
    ∀ c ∈ (fractionChars nanosecond ++ 'Z' :: rest).head?, c.isDigit = false := by
  rw [fractionChars]
  split
  · exact stops_at rfl rest
  · split
    · exact stops_at rfl _
    · split <;> exact stops_at rfl _

theorem pair?_before {n : Nat} (two : n < 100) {c : Char} (other : c.isDigit = false) (rest : List Char) :
    pair? (padded 2 n ++ c :: rest) = some (n, c :: rest) := pair?_padded two (stops_at other rest)

theorem expect?_solid {c : Char} (solid : isBlank c = false) (rest : List Char) :
    expect? c (skipBlanks (c :: rest)) = some rest := by
  rw [skipBlanks, List.dropWhile_cons_of_neg (by simp [solid]), expect?, if_pos rfl]

theorem two_digits_of_isValid {d : Date} (valid : d.isValid = true) : d.month < 100 ∧ d.day < 100 := by
  have days : Date.daysIn d.year d.month ≤ 31 := by
    rw [Date.daysIn]
    split
    · split <;> decide
    · split <;> decide
  simp only [Date.isValid, Bool.and_eq_true, decide_eq_true_eq] at valid
  omega

/-- Every time is read from its printed form. -/
theorem parse?_text {t : Instant} (valid : t.Valid) : parse? t.text = some t := by
  obtain ⟨twoMonth, twoDay⟩ := two_digits_of_isValid valid.date
  have inDay := valid.minute
  have inMinute := valid.second
  have dash := expect?_solid (show isBlank '-' = false from rfl)
  have colon := expect?_solid (show isBlank ':' = false from rfl)
  have year (rest : List Char) := year?_chars t.date.year (stops_at (show '-'.isDigit = false from rfl) rest)
  have month := pair?_before twoMonth (show '-'.isDigit = false from rfl)
  have day := pair?_before twoDay (show 'T'.isDigit = false from rfl)
  have hour := pair?_before (show t.minute / 60 < 100 by omega) (show ':'.isDigit = false from rfl)
  have minute := pair?_before (show t.minute % 60 < 100 by omega) (show ':'.isDigit = false from rfl)
  have second := pair?_padded (show t.second < 100 by omega) (stops_before_fraction t.nanosecond [])
  have utc : offset? (skipBlanks ['Z']) = some (0, []) := by decide
  have whole : t.minute / 60 * 60 + t.minute % 60 = t.minute := Nat.div_add_mod' _ _
  have passes : (!(skipBlanks []).isEmpty || decide (60 ≤ t.minute % 60) || decide (24 ≤ t.minute / 60)) = false := by
    simp [skipBlanks]
    omega
  have chars : t.text.toList = yearChars t.date.year ++ '-' :: (padded 2 t.date.month ++
      '-' :: (padded 2 t.date.day ++ 'T' :: (padded 2 (t.minute / 60) ++ ':' :: (padded 2 (t.minute % 60) ++
        ':' :: (padded 2 t.second ++ (fractionChars t.nanosecond ++ ['Z'])))))) := by
    rw [text, String.toList_ofList]
    simp only [List.append_assoc, List.cons_append]
  -- Each part is read up to what comes after it. A simp over the whole reader is slow: what comes after the
  -- separator stands in it twice.
  rw [parse?, chars]
  refine Option.bind_eq_some_iff.mpr ⟨_, year _, ?_⟩
  refine Option.bind_eq_some_iff.mpr ⟨_, dash _, Option.bind_eq_some_iff.mpr ⟨_, month _, ?_⟩⟩
  refine Option.bind_eq_some_iff.mpr ⟨_, dash _, Option.bind_eq_some_iff.mpr ⟨_, day _, ?_⟩⟩
  refine Option.bind_eq_some_iff.mpr ⟨_, hour _, ?_⟩
  refine Option.bind_eq_some_iff.mpr ⟨_, colon _, Option.bind_eq_some_iff.mpr ⟨_, minute _, ?_⟩⟩
  refine Option.bind_eq_some_iff.mpr ⟨_, colon _, Option.bind_eq_some_iff.mpr ⟨_, second, ?_⟩⟩
  refine Option.bind_eq_some_iff.mpr ⟨_, fraction?_chars valid.nanosecond, ?_⟩
  refine Option.bind_eq_some_iff.mpr ⟨_, utc, ?_⟩
  simp only [passes, whole]
  exact ofLocal?_utc valid

end Instant
end Turnstile.Log
