import Turnstile.Policy.Poller
import Turnstile.Proofs.Text.Utf8
/-!
# The policy in force over a run of polls

Which answers give a snapshot is said by `Gives`, without any poller. A poll of such an answer puts the
snapshot in force as a new edition; any other poll is an error and leaves the cell as it was. So the last
good answer decides (`run_keeps`), and an edition that a reader holds stays what it is.
-/
namespace Turnstile.Policy

/-- The answer reports success, and its body is JSON with a snapshot in the place that the path names. -/
inductive Fetched.Gives (path : String) : Fetched → Snapshot → Prop
  | intro {status : Status} {body : Bytes} {text : List Char} {document node : Json} {snapshot : Snapshot}
    (success : 200 ≤ status.code ∧ status.code ≤ 299)
    (decoded : Text.Utf8.decode? body = some text)
    (parsed : Json.parse (String.ofList text) = .ok document)
    (addressed : document.atPointer? path = some node)
    (shaped : Snapshot.shape.ofJson node = .ok snapshot) :
    Gives path (.answered status body) snapshot

/-- The edition in force has been printed. -/
def Cell.Sound (c : Cell) : Prop := ∀ e, c.current = some e → e.number < c.printed

namespace Cell

theorem empty_sound : empty.Sound := by simp [Sound, empty]

theorem store_sound (c : Cell) (snapshot : Snapshot) : (c.store snapshot).Sound := by
  simp [Sound, store, print, publish]

theorem ofSnapshot_sound (snapshot : Option Snapshot) : (ofSnapshot snapshot).Sound := by
  cases snapshot with
  | none => exact empty_sound
  | some snapshot => exact store_sound empty snapshot

end Cell

namespace Poller

variable {p : Poller} {cell : Cell} {f : Fetched} {s : Snapshot}

theorem snapshotOf_eq_ok_iff : p.snapshotOf f = .ok s ↔ f.Gives p.documentPath s := by
  constructor
  · intro read
    cases f with
    | lost => contradiction
    | answered status body =>
      rw [snapshotOf] at read
      split at read
      · contradiction
      · rename_i success
        split at read
        · contradiction
        · rename_i text decoded
          split at read
          · contradiction
          · rename_i document parsed
            have range : 200 ≤ status.code ∧ status.code ≤ 299 := by
              simp only [Status.isSuccess, Bool.not_eq_true', Bool.not_eq_false, Bool.and_eq_true,
                decide_eq_true_eq] at success
              omega
            rw [Snapshot.ofDocument] at read
            split at read
            · contradiction
            · rename_i node addressed
              cases shaped : Snapshot.shape.ofJson node with
              | error cause => rw [shaped] at read; contradiction
              | ok found =>
                rw [shaped] at read
                cases read
                exact .intro range decoded parsed addressed shaped
  · rintro @⟨status, _, _, _, _, _, success, decoded, parsed, addressed, shaped⟩
    have reports : status.isSuccess = true := by
      simp only [Status.isSuccess, Bool.and_eq_true, decide_eq_true_eq]
      omega
    simp only [snapshotOf, reports, decoded, parsed, Snapshot.ofDocument, addressed, shaped]
    rfl

/-- A good answer is put in force whole, as an edition that there has not been before. -/
theorem poll_of_gives (gives : f.Gives p.documentPath s) (cell : Cell) :
    p.poll cell f = (.ok ⟨cell.printed, s⟩, ⟨cell.printed + 1, some ⟨cell.printed, s⟩⟩) := by
  rw [poll, snapshotOf_eq_ok_iff.mpr gives]
  rfl

theorem poll_of_not_gives (bad : ∀ s, ¬ f.Gives p.documentPath s) (cell : Cell) :
    ∃ cause, p.poll cell f = (.error cause, cell) := by
  rw [poll]
  cases read : p.snapshotOf f with
  | error cause => exact ⟨cause, rfl⟩
  | ok s => exact absurd (snapshotOf_eq_ok_iff.mp read) (bad s)

/-- All that a poll can do. -/
theorem poll_cases (p : Poller) (cell : Cell) (f : Fetched) :
    (∃ s, f.Gives p.documentPath s ∧
      p.poll cell f = (.ok ⟨cell.printed, s⟩, ⟨cell.printed + 1, some ⟨cell.printed, s⟩⟩)) ∨
    (∀ s, ¬ f.Gives p.documentPath s) ∧ ∃ cause, p.poll cell f = (.error cause, cell) := by
  by_cases good : ∃ s, f.Gives p.documentPath s
  · obtain ⟨s, gives⟩ := good
    exact .inl ⟨s, gives, poll_of_gives gives cell⟩
  · have bad : ∀ s, ¬ f.Gives p.documentPath s := fun s gives => good ⟨s, gives⟩
    exact .inr ⟨bad, poll_of_not_gives bad cell⟩

theorem poll_sound (sound : cell.Sound) (p : Poller) (f : Fetched) : (p.poll cell f).2.Sound := by
  obtain ⟨s, -, polled⟩ | ⟨-, cause, polled⟩ := p.poll_cases cell f
  · rw [polled]
    exact Cell.store_sound cell s
  · rw [polled]
    exact sound

theorem run_sound (sound : cell.Sound) (p : Poller) (answers : List Fetched) :
    (p.run cell answers).Sound := by
  induction answers generalizing cell with
  | nil => exact sound
  | cons f rest ih => exact ih (poll_sound sound p f)

theorem run_append (p : Poller) (cell : Cell) (before after : List Fetched) :
    p.run cell (before ++ after) = p.run (p.run cell before) after := List.foldl_append

theorem run_of_bad {answers : List Fetched} (bad : ∀ f ∈ answers, ∀ s, ¬ f.Gives p.documentPath s)
    (cell : Cell) : p.run cell answers = cell := by
  induction answers with
  | nil => rfl
  | cons f rest ih =>
    obtain ⟨cause, polled⟩ := poll_of_not_gives (bad f List.mem_cons_self) cell
    have first : p.run cell (f :: rest) = p.run (p.poll cell f).2 rest := rfl
    rw [first, polled]
    exact ih fun g mem => bad g (List.mem_cons_of_mem _ mem)

/-! ## Editions -/

/-- The editions that polls have printed, in order. -/
def editions (p : Poller) (cell : Cell) : List Fetched → List Edition
  | [] => []
  | f :: rest => (p.poll cell f).1.toOption.toList ++ p.editions (p.poll cell f).2 rest

/-- All editions a reader can have got hold of: the one in force at first and the later ones. -/
def archive (p : Poller) (cell : Cell) (answers : List Fetched) : List Edition :=
  cell.current.toList ++ p.editions cell answers

theorem editions_append (p : Poller) (cell : Cell) (before after : List Fetched) :
    p.editions cell (before ++ after) = p.editions cell before ++ p.editions (p.run cell before) after := by
  induction before generalizing cell with
  | nil => rfl
  | cons f rest ih =>
    rw [List.cons_append, editions, ih, editions, List.append_assoc]
    rfl

/-- Each edition has a number of its own, above all that were printed before. -/
theorem editions_ascending (p : Poller) (cell : Cell) (answers : List Fetched) :
    (p.editions cell answers).Pairwise (·.number < ·.number) ∧
      ∀ e ∈ p.editions cell answers, cell.printed ≤ e.number := by
  induction answers generalizing cell with
  | nil => exact ⟨.nil, fun _ mem => absurd mem List.not_mem_nil⟩
  | cons f rest ih =>
    rw [editions]
    obtain ⟨s, -, polled⟩ | ⟨-, cause, polled⟩ := p.poll_cases cell f
    · rw [polled]
      obtain ⟨ascending, above⟩ := ih ⟨cell.printed + 1, some ⟨cell.printed, s⟩⟩
      have later : ∀ e ∈ p.editions ⟨cell.printed + 1, some ⟨cell.printed, s⟩⟩ rest,
          cell.printed < e.number := above
      refine ⟨List.pairwise_cons.mpr ⟨later, ascending⟩, ?_⟩
      intro e mem
      rcases List.mem_cons.mp mem with rfl | mem
      · exact Nat.le_refl _
      · exact Nat.le_of_lt (later e mem)
    · rw [polled]
      exact ih cell

theorem archive_ascending (sound : cell.Sound) (answers : List Fetched) :
    (p.archive cell answers).Pairwise (·.number < ·.number) := by
  obtain ⟨ascending, above⟩ := p.editions_ascending cell answers
  rw [archive]
  cases current : cell.current with
  | none => exact ascending
  | some e =>
    refine List.pairwise_cons.mpr ⟨fun later mem => ?_, ascending⟩
    exact Nat.lt_of_lt_of_le (sound e current) (above later mem)

/-- What comes into force has been printed or was in force at first. -/
theorem current_mem_archive {e : Edition} {answers : List Fetched}
    (current : (p.run cell answers).current = some e) : e ∈ p.archive cell answers := by
  induction answers generalizing cell with
  | nil =>
    rw [archive, show cell.current = some e from current]
    exact List.mem_cons_self
  | cons f rest ih =>
    have mem : e ∈ p.archive (p.poll cell f).2 rest := ih current
    rw [archive, editions]
    obtain ⟨s, -, polled⟩ | ⟨-, cause, polled⟩ := p.poll_cases cell f
    · rw [polled] at mem ⊢
      exact List.mem_append_right _ mem
    · rw [polled] at mem ⊢
      exact mem

/-- An edition that has been in force is found under its number after any more polls. -/
theorem find?_archive (sound : cell.Sound) {e : Edition} {before : List Fetched}
    (current : (p.run cell before).current = some e) (after : List Fetched) :
    (p.archive cell (before ++ after)).find? (fun a => a.number == e.number) = some e := by
  have mem : e ∈ p.archive cell (before ++ after) := by
    have held := current_mem_archive current
    rw [archive, editions_append, ← List.append_assoc]
    exact List.mem_append_left _ held
  obtain ⟨earlier, later, split⟩ := List.append_of_mem mem
  have ascending := p.archive_ascending sound (before ++ after)
  rw [split] at ascending ⊢
  have others : earlier.find? (fun a => a.number == e.number) = none := by
    rw [List.find?_eq_none]
    intro a inEarlier same
    have less := (List.pairwise_append.mp ascending).2.2 a inEarlier e List.mem_cons_self
    have equal : a.number = e.number := by simpa using same
    omega
  simp [List.find?_append, others]

/-! ## Runs -/

/-- What holds after a run of polls. -/
structure Keeps (p : Poller) (cell : Cell) (answers : List Fetched) : Prop where
  /-- More polls can follow. -/
  sound : (p.run cell answers).Sound
  /-- A good answer is put in force as it is, whatever was in force before. Any other is an error, and the
  cell stays as it was. -/
  polled : ∀ before f after, answers = before ++ f :: after →
    (∃ s e, f.Gives p.documentPath s ∧ e.snapshot = s ∧ (p.poll (p.run cell before) f).1 = .ok e ∧
      (p.poll (p.run cell before) f).2.current = some e) ∨
    (∀ s, ¬ f.Gives p.documentPath s) ∧
      ∃ cause, p.poll (p.run cell before) f = (.error cause, p.run cell before)
  /-- The last good answer is in force, as the edition that its poll has given. -/
  last : ∀ before f after s, answers = before ++ f :: after → f.Gives p.documentPath s →
    (∀ g ∈ after, ∀ t, ¬ g.Gives p.documentPath t) →
    ∃ e, e.snapshot = s ∧ (p.poll (p.run cell before) f).1 = .ok e ∧
      (p.run cell answers).current = some e
  /-- Without one, what was there is still there. -/
  first : (∀ f ∈ answers, ∀ s, ¬ f.Gives p.documentPath s) → p.run cell answers = cell
  /-- A reader finds under the number of the edition it has loaded what it has loaded. -/
  loaded : ∀ before after e, answers = before ++ after → (p.run cell before).current = some e →
    (p.archive cell answers).find? (fun a => a.number == e.number) = some e
  /-- No poll changes what has been in force. -/
  grows : ∀ before after, answers = before ++ after →
    p.archive cell before <+: p.archive cell answers

theorem run_keeps (sound : cell.Sound) (p : Poller) (answers : List Fetched) : p.Keeps cell answers where
  sound := run_sound sound p answers
  polled := by
    rintro before f after -
    obtain ⟨s, gives, polled⟩ | bad := p.poll_cases (p.run cell before) f
    · rw [polled]
      exact .inl ⟨s, _, gives, rfl, rfl, rfl⟩
    · exact .inr bad
  last := by
    rintro before f after s rfl gives bad
    have here := poll_of_gives gives (p.run cell before)
    have rest : p.run cell (before ++ f :: after) = (p.poll (p.run cell before) f).2 := by
      rw [run_append]
      exact run_of_bad bad _
    rw [rest, here]
    exact ⟨_, rfl, rfl, rfl⟩
  first := fun bad => run_of_bad bad cell
  loaded := by
    rintro before after e rfl current
    exact find?_archive sound current after
  grows := by
    rintro before after rfl
    rw [archive, archive, editions_append, ← List.append_assoc]
    exact List.prefix_append _ _

/-- An outage after a good answer. The snapshot of that answer stays in force, and who has loaded the one
before still has it. -/
theorem run_keeps_over_an_outage :
    let p : Poller := ⟨"http://localhost:8181/v1/data", 1000000, "", none⟩
    let former : Snapshot := ⟨[⟨NameSet.ofList ["10.0.0.1"], none⟩], []⟩
    let cell := Cell.ofSnapshot (some former)
    let answers := [Fetched.answered .ok [123, 125], .answered ⟨503, by decide⟩ [123, 125], .lost]
    cell.Sound ∧ (p.run cell answers).current = some ⟨1, ⟨[], []⟩⟩ ∧
      (p.archive cell answers).find? (fun a => a.number == 0) = some ⟨0, former⟩ := by
  intro p former cell answers
  have sound : cell.Sound := Cell.ofSnapshot_sound _
  have kept := run_keeps sound p answers
  have good : Fetched.Gives p.documentPath (.answered .ok [123, 125]) ⟨[], []⟩ := by
    have decoded : Text.Utf8.decode? [123, 125] = some ['\x7b', '\x7d'] :=
      Text.Utf8.decode?_encode ['\x7b', '\x7d']
    have parsed : Json.parse (String.ofList ['\x7b', '\x7d']) = .ok (.object []) := rfl
    exact .intro (by decide) decoded parsed rfl rfl
  have bad : ∀ g ∈ [Fetched.answered ⟨503, by decide⟩ [123, 125], .lost],
      ∀ t, ¬ g.Gives p.documentPath t := by
    rintro g mem t ⟨success, -, -, -, -⟩
    simp at mem
    simp [mem] at success
  refine ⟨sound, ?_, kept.loaded [] answers _ rfl rfl⟩
  obtain ⟨e, -, polled, current⟩ := kept.last [] _ _ _ rfl good bad
  rw [poll_of_gives good] at polled
  rw [current, ← Except.ok.inj polled]
  rfl

end Poller
end Turnstile.Policy
