import Turnstile.Log.Exporter
import Turnstile.Proofs.HeaderNames
import Turnstile.Proofs.Records
import Turnstile.Proofs.Text.Lines
import Turnstile.Proofs.Text.Utf8
/-!
# Records read back from the log

A record is one line of the log, whatever its texts hold, and what it leaves out of the line is what is read
where nothing is said. So the bytes that an export appends are cut into the lines of its records, and each line
is read as its record (`export_reads_back`).
-/
namespace Turnstile.Log

open Json Shape Text

/-! ## Rulings -/

namespace Ruling

def layout : Layout Fields where
  parts := [
    .ofField "blocked" [] true bool Fields.blocked (fun s v => { s with blocked := some v }) fun _ _ => rfl,
    .ofField "status" [] true (fun t => (integer "u16" 0 (Int.pow 2 16 - 1) t).map Int.toNat) Fields.status
      (fun s v => { s with status := some v }) fun _ _ => rfl,
    .ofField "reason" [] false string Fields.reason (fun s v => { s with reason := some v }) fun _ _ => rfl]
  start := {}
  only := by
    rintro ⟨_, _, _⟩ s same
    simp only [List.forall_mem_cons, Component.ofField] at same
    obtain ⟨rfl, rfl, rfl, -⟩ := same
    rfl

theorem shape_object {members : List (String × Json)} {blocked : Bool} {status : Nat} {reason : Option String}
    (told : ∀ p ∈ layout.parts, p.Told members ⟨some blocked, some status, reason⟩) :
    shape (Json.object members).toTree = .ok ⟨blocked, status, reason.getD ""⟩ :=
  bind_eq_ok_iff.mpr ⟨_, layout.record_object_eq told, rfl⟩

variable {r : Ruling}

theorem shape_toJson (small : r.status < 2 ^ 16) : shape r.toJson.toTree = .ok r := by
  have limit : Int.pow 2 16 - 1 = 2 ^ 16 - 1 := by decide
  have status : (integer "u16" 0 (Int.pow 2 16 - 1) (Json.ofNat r.status).toTree).map Int.toNat = .ok r.status :=
    natural_toTree (by omega)
  rw [toJson]
  by_cases empty : r.reason = ""
  · -- an empty reason is not written, and what is not written is read as the empty reason
    have same : r = ⟨r.blocked, r.status, (none : Option String).getD ""⟩ := by
      rw [Option.getD_none, ← empty]
    rw [if_pos (String.isEmpty_iff.mpr empty), same]
    apply shape_object
    simp only [layout, List.forall_mem_cons]
    exact ⟨Component.told_of_read rfl rfl rfl, Component.told_of_read rfl status rfl,
      Component.told_of_free rfl .absent, List.forall_mem_nil _⟩
  · have same : r = ⟨r.blocked, r.status, (some r.reason).getD ""⟩ := rfl
    rw [if_neg (mt String.isEmpty_iff.mp empty), same]
    apply shape_object
    simp only [layout, List.forall_mem_cons]
    exact ⟨Component.told_of_read rfl rfl rfl, Component.told_of_read rfl status rfl,
      Component.told_of_read rfl rfl rfl, List.forall_mem_nil _⟩

theorem whole_toJson (small : r.status < 2 ^ 16) : r.toJson.Whole := by
  have status : IsWhole r.status := isWhole_of_lt (small.trans (by decide))
  rw [toJson]
  split
  · exact ⟨trivial, status, trivial⟩
  · exact ⟨trivial, status, trivial, trivial⟩

end Ruling

/-! ## Records -/

theorem Identifier.shape_text {i : Identifier} (parses : parse? i.text = some i) :
    shape (Json.string i.text).toTree = .ok i := by
  refine bind_eq_ok_iff.mpr ⟨i.text, rfl, ?_⟩
  rw [parses]

theorem Instant.shape_text {i : Instant} (parses : parse? i.text = some i) :
    shape (Json.string i.text).toTree = .ok i := by
  refine bind_eq_ok_iff.mpr ⟨i.text, rfl, ?_⟩
  rw [parses]

namespace Record

/-- The id and the times of the record are read as they are printed, and its status is one of 16 bits. -/
structure Readable (r : Record) : Prop where
  id : Identifier.parse? r.id.text = some r.id
  startedAt : Instant.parse? r.startedAt.text = some r.startedAt
  endedAt : Instant.parse? r.endedAt.text = some r.endedAt
  status : ∀ ruling, r.ruling = some ruling → ruling.status < 2 ^ 16

def layout : Layout Fields where
  parts := [
    .ofField "id" [] true Identifier.shape Fields.id (fun s v => { s with id := some v }) fun _ _ => rfl,
    .ofField "name" [] true string Fields.name (fun s v => { s with name := some v }) fun _ _ => rfl,
    .ofField "started_at" [] true Instant.shape Fields.startedAt (fun s v => { s with startedAt := some v })
      fun _ _ => rfl,
    .ofField "ended_at" [] true Instant.shape Fields.endedAt (fun s v => { s with endedAt := some v }) fun _ _ => rfl,
    .ofField "attributes" [] true (fun t => (map string t).map Table.ofList) Fields.attributes
      (fun s v => { s with attributes := some v }) fun _ _ => rfl,
    .ofField "verdict" [] false (optional Ruling.shape) Fields.ruling (fun s v => { s with ruling := some v })
      fun _ _ => rfl]
  start := {}
  only := by
    rintro ⟨_, _, _, _, _, _⟩ s same
    simp only [List.forall_mem_cons, Component.ofField] at same
    obtain ⟨rfl, rfl, rfl, rfl, rfl, rfl, -⟩ := same
    rfl

theorem shape_object {members : List (String × Json)} {id : Identifier} {name : String}
    {startedAt endedAt : Instant} {attributes : Table String} {ruling : Option (Option Ruling)}
    (told : ∀ p ∈ layout.parts,
      p.Told members ⟨some id, some name, some startedAt, some endedAt, some attributes, ruling⟩) :
    shape (Json.object members).toTree = .ok ⟨id, name, startedAt, endedAt, attributes, ruling.getD none⟩ :=
  bind_eq_ok_iff.mpr ⟨_, layout.record_object_eq told, rfl⟩

variable {r : Record}

theorem shape_attributes (t : Table String) :
    (map string (Json.ofTable t).toTree).map Table.ofList = .ok t := by
  rw [show Json.ofTable t = Json.ofPairs t.entries from rfl, map_string, Except.map, Table.ofList_entries]

theorem shape_toJson (readable : r.Readable) : shape r.toJson.toTree = .ok r := by
  obtain ⟨id, name, startedAt, endedAt, attributes, ruling⟩ := r
  have id' := Identifier.shape_text readable.id
  have startedAt' := Instant.shape_text readable.startedAt
  have endedAt' := Instant.shape_text readable.endedAt
  have attributes' := shape_attributes attributes
  cases ruling with
  | none =>
    refine @shape_object _ id name startedAt endedAt attributes none ?_
    simp only [layout, List.forall_mem_cons]
    exact ⟨Component.told_of_read rfl id' rfl, Component.told_of_read rfl rfl rfl,
      Component.told_of_read rfl startedAt' rfl, Component.told_of_read rfl endedAt' rfl,
      Component.told_of_read rfl attributes' rfl, Component.told_of_free rfl .absent, List.forall_mem_nil _⟩
  | some ruling =>
    have ruling' : optional Ruling.shape ruling.toJson.toTree = .ok (some ruling) :=
      optional_toTree_iff.mpr (.inr ⟨by simp [Ruling.toJson], _, Ruling.shape_toJson (readable.status _ rfl), rfl⟩)
    refine @shape_object _ id name startedAt endedAt attributes (some (some ruling)) ?_
    simp only [layout, List.forall_mem_cons]
    exact ⟨Component.told_of_read rfl id' rfl, Component.told_of_read rfl rfl rfl,
      Component.told_of_read rfl startedAt' rfl, Component.told_of_read rfl endedAt' rfl,
      Component.told_of_read rfl attributes' rfl, Component.told_of_read rfl ruling' rfl, List.forall_mem_nil _⟩

theorem whole_toJson (readable : r.Readable) : r.toJson.Whole := by
  obtain ⟨id, name, startedAt, endedAt, attributes, ruling⟩ := r
  have attributes' : (Json.ofTable attributes).Whole := whole_ofPairs attributes.entries
  cases ruling with
  | none => exact ⟨trivial, trivial, trivial, trivial, attributes', trivial⟩
  | some ruling =>
    exact ⟨trivial, trivial, trivial, trivial, attributes', Ruling.whole_toJson (readable.status _ rfl), trivial⟩

/-! ## Lines -/

/-- A record's line without its line break. -/
def body (r : Record) : Bytes := Utf8.encode r.toJson.chars

theorem line_eq (r : Record) : r.line = r.body ++ [10] := List.flatMap_append

theorem body_plain (readable : r.Readable) : 10 ∉ r.body :=
  fun mem => feed_not_mem_chars (whole_toJson readable) (Utf8.feed_mem_encode mem)

theorem ofLine?_body (readable : r.Readable) : ofLine? r.body = some r := by
  have read : Shape.ofText shape (Document.ofText r.toJson.render) = .ok r :=
    (readsAs_of_whole (whole_toJson readable) (shape_toJson readable)).2
  rw [render] at read
  simp only [ofLine?, body, Utf8.decode?_encode, bind, Option.bind]
  rw [read]
  rfl

theorem flatMap_line (batch : List Record) : batch.flatMap line = joinLines (batch.map body) := by
  rw [joinLines, List.flatMap_map]
  exact List.flatMap_congr fun r _ => line_eq r

end Record

namespace Exporter

open Record

/-- What the bytes of a batch are: each record has a line of its own, which is read as the record. -/
structure ReadsBack (batch : List Record) (bytes : Bytes) : Prop where
  /-- There is one line break for each record, -/
  feeds : bytes.count 10 = batch.length
  /-- at the end of its line. -/
  lines : (linesOf bytes).map (· ++ [10]) = batch.map line
  records : (linesOf bytes).map ofLine? = batch.map some

theorem readsBack_lines {batch : List Record} (readable : ∀ r ∈ batch, r.Readable) :
    ReadsBack batch (batch.flatMap line) := by
  have plain : ∀ line ∈ batch.map body, 10 ∉ line := by
    intro line mem
    obtain ⟨r, inside, rfl⟩ := List.mem_map.mp mem
    exact body_plain (readable r inside)
  rw [flatMap_line]
  refine ⟨?_, ?_, ?_⟩
  · rw [count_joinLines plain, List.length_map]
  · rw [linesOf_joinLines plain, List.map_map]
    exact List.map_congr_left fun r _ => (line_eq r).symm
  · rw [linesOf_joinLines plain, List.map_map]
    exact List.map_congr_left fun r mem => ofLine?_body (readable r mem)

theorem append_done {f : LogFile} {bytes : Bytes} (done : (f.append bytes).1 = true) :
    ∃ g, f.append bytes = (true, g) ∧ g.content = f.content ++ bytes := by
  obtain ⟨content, appends⟩ := f
  cases appends with
  | nil => exact ⟨_, rfl, rfl⟩
  | cons a rest =>
    cases a with
    | done => exact ⟨_, rfl, rfl⟩
    | cut n => exact absurd done Bool.false_ne_true

/-- A batch goes out whole, and is counted, where its append succeeds. -/
theorem exportBatch_done {e : Exporter} {batch : List Record}
    (done : (e.file.append (batch.flatMap line)).1 = true) :
    ∃ file, e.exportBatch batch = (some batch.length, ⟨file, e.exported + batch.length⟩) ∧
      file.content = e.file.content ++ batch.flatMap line := by
  cases batch with
  | nil => exact ⟨e.file, rfl, (List.append_nil _).symm⟩
  | cons first rest =>
    obtain ⟨file, appended, content⟩ := append_done done
    refine ⟨file, ?_, content⟩
    rw [exportBatch, appended]
    rfl

/-- An export skips no record: what it appends are the lines of all of them, and each line is read as its
record. -/
theorem export_reads_back (batch : List Record) (readable : ∀ r ∈ batch, r.Readable) :
    ReadsBack batch (batch.flatMap line) ∧
      ∀ e : Exporter, (e.file.append (batch.flatMap line)).1 = true →
        ∃ file, e.exportBatch batch = (some batch.length, ⟨file, e.exported + batch.length⟩) ∧
          file.content = e.file.content ++ batch.flatMap line :=
  ⟨readsBack_lines readable, fun _ => exportBatch_done⟩

/-- Line breaks, quotes and controls in the texts of a record without a verdict and of one whose verdict has no
reason. -/
theorem export_reads_back_with_line_breaks :
    let plain : Record := ⟨.zero, "GET /\n", .epoch, .epoch, .ofList [("body\"", "a\nb\\\r\u0001\u00e9")], none⟩
    let ruled : Record := ⟨.zero, "", .epoch, .epoch, .empty, some ⟨true, 403, ""⟩⟩
    (linesOf ([plain, ruled].flatMap line)).map ofLine? = [some plain, some ruled] ∧
      ∃ file, (ofFile (.ofContent [123, 125, 10])).exportBatch [plain, ruled] = (some 2, ⟨file, 2⟩) ∧
        file.content.count 10 = 3 := by
  intro plain ruled
  have id : Identifier.parse? Identifier.zero.text = some Identifier.zero := by decide +kernel
  have time : Instant.parse? Instant.epoch.text = some Instant.epoch := by decide +kernel
  have readable : ∀ r ∈ [plain, ruled], r.Readable := by
    simp only [List.forall_mem_cons]
    refine ⟨⟨id, time, time, fun _ none => ?_⟩, ⟨id, time, time, fun _ said => ?_⟩, List.forall_mem_nil _⟩
    · contradiction
    · rw [← Option.some.inj said]
      decide
  obtain ⟨readsBack, exports⟩ := export_reads_back [plain, ruled] readable
  obtain ⟨file, out, content⟩ := exports (ofFile (.ofContent [123, 125, 10])) rfl
  refine ⟨readsBack.records, file, out, ?_⟩
  rw [content, List.count_append, readsBack.feeds]
  rfl

end Exporter
end Turnstile.Log
