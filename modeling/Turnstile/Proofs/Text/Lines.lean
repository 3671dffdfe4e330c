import Turnstile.Text.Basic
/-!
# Lines of joined inputs

An input is cut after each of its line feeds, so what stands before a line feed does not change the lines
after it.
-/
namespace Turnstile.Text

theorem linesOf_feed (rest : Bytes) : linesOf (10 :: rest) = [] :: linesOf rest := rfl

theorem linesOf_cons {b : UInt8} (other : b ≠ 10) (rest : Bytes) :
    linesOf (b :: rest) = match linesOf rest with
      | [] => [[b]]
      | line :: later => (b :: line) :: later := if_neg other

theorem linesOf_ne_nil {bytes : Bytes} (some : bytes ≠ []) : linesOf bytes ≠ [] := by
  cases bytes with
  | nil => contradiction
  | cons b rest =>
    by_cases feed : b = 10
    · rw [feed, linesOf_feed]
      exact List.cons_ne_nil _ _
    · rw [linesOf_cons feed]
      cases linesOf rest <;> exact List.cons_ne_nil _ _

/-- A line feed ends a line, whatever comes after it. -/
theorem linesOf_append_feed (before after : Bytes) :
    linesOf (before ++ 10 :: after) = linesOf (before ++ [10]) ++ linesOf after := by
  induction before with
  | nil => rfl
  | cons b before ih =>
    rw [List.cons_append, List.cons_append]
    by_cases feed : b = 10
    · rw [feed, linesOf_feed, linesOf_feed, ih]
      rfl
    · rw [linesOf_cons feed, linesOf_cons feed, ih]
      have ended : linesOf (before ++ [10]) ≠ [] := linesOf_ne_nil (by simp)
      cases lines : linesOf (before ++ [10]) with
      | nil => contradiction
      | cons line later => rfl

theorem linesOf_joinLines_append (lines : List Bytes) (rest : Bytes) :
    linesOf (joinLines lines ++ rest) = linesOf (joinLines lines) ++ linesOf rest := by
  induction lines with
  | nil => rfl
  | cons line lines ih =>
    have first : joinLines (line :: lines) = line ++ 10 :: joinLines lines := by
      simp [joinLines]
    rw [first, List.append_assoc, List.cons_append, linesOf_append_feed line, ih,
      linesOf_append_feed line (joinLines lines), List.append_assoc]

theorem joinLines_append (xs ys : List Bytes) : joinLines (xs ++ ys) = joinLines xs ++ joinLines ys :=
  List.flatMap_append

/-- What has no line feed is one line once it is ended. -/
theorem linesOf_joinLines_line {line : Bytes} (plain : 10 ∉ line) :
    linesOf (joinLines [line]) = [line] := by
  have ended : joinLines [line] = line ++ [10] := List.append_nil _
  rw [ended]
  induction line with
  | nil => rfl
  | cons b line ih =>
    have other : b ≠ 10 := fun same => plain (same ▸ List.mem_cons_self)
    rw [List.cons_append, linesOf_cons other,
      ih (fun mem => plain (List.mem_cons_of_mem _ mem)) (List.append_nil _)]

/-- Lines that have no line feed are told from each other where each one is ended. -/
theorem linesOf_joinLines {lines : List Bytes} (plain : ∀ line ∈ lines, 10 ∉ line) :
    linesOf (joinLines lines) = lines := by
  induction lines with
  | nil => rfl
  | cons line rest ih =>
    rw [List.forall_mem_cons] at plain
    rw [← List.singleton_append, joinLines_append, linesOf_joinLines_append, linesOf_joinLines_line plain.1,
      ih plain.2]

/-- There are as many line feeds as lines. -/
theorem count_joinLines {lines : List Bytes} (plain : ∀ line ∈ lines, 10 ∉ line) :
    (joinLines lines).count 10 = lines.length := by
  induction lines with
  | nil => rfl
  | cons line rest ih =>
    rw [List.forall_mem_cons] at plain
    rw [← List.singleton_append, joinLines_append, List.count_append, ih plain.2, joinLines]
    simp [List.count_eq_zero.mpr plain.1, Nat.add_comm]

/-- No line has a line feed in it. -/
theorem plain_of_mem_linesOf {bytes line : Bytes} (mem : line ∈ linesOf bytes) : 10 ∉ line := by
  induction bytes generalizing line with
  | nil => contradiction
  | cons b rest ih =>
    by_cases feed : b = 10
    · rw [feed, linesOf_feed] at mem
      rcases List.mem_cons.mp mem with rfl | mem
      · exact List.not_mem_nil
      · exact ih mem
    · rw [linesOf_cons feed] at mem
      cases lines : linesOf rest with
      | nil =>
        rw [lines] at mem
        rw [List.mem_singleton.mp mem]
        simpa using Ne.symm feed
      | cons first later =>
        rw [lines] at mem ih
        rcases List.mem_cons.mp mem with rfl | mem
        · have inside := ih List.mem_cons_self
          simpa [Ne.symm feed] using inside
        · exact ih (List.mem_cons_of_mem _ mem)

/-! ## Complete lines -/

/-- The lines that are ended by a line feed, and what comes after them. -/
def cutLines (bytes : Bytes) : List Bytes × Bytes :=
  bytes.foldr (fun b cut =>
    if b = 10 then ([] :: cut.1, cut.2)
    else match cut.1 with
      | [] => ([], b :: cut.2)
      | line :: rest => ((b :: line) :: rest, cut.2)) ([], [])

/-- What comes after the last line feed. -/
def unfinished (bytes : Bytes) : Bytes := (cutLines bytes).2

end Turnstile.Text
