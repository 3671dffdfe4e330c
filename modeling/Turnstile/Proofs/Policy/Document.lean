import Turnstile.Policy.Document
import Turnstile.Proofs.Json.Parsing
import Turnstile.Proofs.Json.Pointer
import Turnstile.Proofs.NameSet
/-!
# What a policy document says

When a JSON value stands for a snapshot, and for which one, said without reading it (`Snapshot.Stands`):
every entry of both lists has to stand for an entry. A document gives the snapshot that the addressed value
stands for, and none when it stands for none. `Snapshot.WrittenAs` says how a snapshot is written; what is
written is loaded, at the path where it is nested, and from its text.
-/
namespace Turnstile.Policy

open Json Shape

/-! ## What stands for a snapshot -/

/-- The values of an entry: nothing said, or a list of texts. -/
inductive ValuesStand : List Json → NameSet → Prop
  | absent : ValuesStand [] .empty
  | listed {texts : List String} {names : NameSet} :
      (∀ a, a ∈ names.toList ↔ a ∈ texts) → ValuesStand [.ofStrings texts] names

/-- The expiry of an entry: nothing said, null, or a whole number of 64 bits with a sign. -/
inductive ExpiryStands : List Json → Option Int → Prop
  | absent : ExpiryStands [] none
  | null : ExpiryStands [.null] none
  | at {n : Int} : -2 ^ 63 ≤ n → n < 2 ^ 63 → ExpiryStands [.ofInt n] (some n)

/-- The value stands for the entry: an object, or an array of its fields in order. -/
structure Entry.Stands (v : Json) (e : Entry) : Prop where
  record : v.IsRecord 2
  values : ValuesStand (v.fieldValues 0 ["values", "ipAddress"]) e.values
  expiry : ExpiryStands (v.fieldValues 1 ["expiry"]) e.expiry

/-- A list of entries: nothing said, or a value for each entry. -/
inductive ListStands : List Json → List Entry → Prop
  | absent : ListStands [] []
  | listed {items : List Json} {entries : List Entry} :
      List.Forall₂ Entry.Stands items entries → ListStands [.array items] entries

/-- The value stands for the snapshot. -/
structure Snapshot.Stands (v : Json) (s : Snapshot) : Prop where
  record : v.IsRecord 2
  allow : ListStands (v.fieldValues 0 ["allowlist", "allow_list"]) s.allow
  deny : ListStands (v.fieldValues 1 ["denylist", "deny_list"]) s.deny

theorem valuesStand_iff {values : List Json} {names : NameSet} :
    (∃ a, Reads (fun t => (list string t).map NameSet.ofList) values a ∧ a.getD .empty = names) ↔
      ValuesStand values names := by
  have mem_ofList (texts : List String) (a : String) : a ∈ (NameSet.ofList texts).toList ↔ a ∈ texts :=
    Set.ext_iff.mp (NameSet.members_ofList texts) a
  constructor
  · rintro ⟨a, reads, rfl⟩
    cases reads with
    | absent => exact .absent
    | once read =>
      obtain ⟨names, texts, rfl⟩ := map_eq_ok_iff.mp read
      obtain ⟨items, rfl, each⟩ := list_toTree_iff.mp texts
      obtain rfl : items = names.map .string := by
        simp only [string_toTree_iff] at each
        rw [← List.forall₂_eq_eq_eq, List.forall₂_map_right_iff]
        exact each
      exact .listed (mem_ofList names)
  · intro stands
    cases stands with
    | absent => exact ⟨none, .absent, rfl⟩
    | @listed texts names same =>
      refine ⟨some (NameSet.ofList texts), .once (map_eq_ok_iff.mpr ⟨texts, ?_, rfl⟩), ?_⟩
      · refine list_toTree_iff.mpr ⟨_, rfl, ?_⟩
        simp [string_toTree_iff, List.forall₂_map_left_iff, List.forall₂_same]
      · refine NameSet.ext_members (Set.ext fun a => ?_)
        exact (mem_ofList texts a).trans (same a).symm

theorem expiryStands_iff {values : List Json} {expiry : Option Int} :
    (∃ a, Reads (optional (integer "i64" (-Int.pow 2 63) (Int.pow 2 63 - 1))) values a ∧ a.getD none = expiry) ↔
      ExpiryStands values expiry := by
  constructor
  · rintro ⟨a, reads, rfl⟩
    cases reads with
    | absent => exact .absent
    | @once v a read =>
      rcases optional_toTree_iff.mp read with ⟨rfl, rfl⟩ | ⟨-, n, number, rfl⟩
      · exact .null
      · obtain ⟨rfl, low, high⟩ := integer_toTree_iff.mp number
        exact .at low (Int.lt_of_le_sub_one high)
  · intro stands
    cases stands with
    | absent => exact ⟨none, .absent, rfl⟩
    | null => exact ⟨some none, .once (optional_toTree_iff.mpr (.inl ⟨rfl, rfl⟩)), rfl⟩
    | @«at» n low high =>
      refine ⟨some (some n), .once (optional_toTree_iff.mpr (.inr ⟨by simp [Json.ofInt], n, ?_, rfl⟩)), rfl⟩
      exact integer_toTree_iff.mpr ⟨rfl, low, Int.le_sub_one_of_lt high⟩

def Entry.valuesField : Shape.Field EntryFields :=
  field "values" ["ipAddress"] false (fun t => (list string t).map NameSet.ofList) EntryFields.values
    fun s v => { s with values := some v }

def Entry.expiryField : Shape.Field EntryFields :=
  field "expiry" [] false (optional (integer "i64" (-Int.pow 2 63) (Int.pow 2 63 - 1))) EntryFields.expiry
    fun s v => { s with expiry := some v }

/-- A value is read as an entry exactly when it stands for that entry. -/
theorem Entry.shape_iff {v : Json} {e : Entry} : Entry.shape v.toTree = .ok e ↔ Entry.Stands v e := by
  have unfolded : Entry.shape v.toTree =
      (record "struct TtlEntry" [valuesField, expiryField] {} v.toTree).map fun s =>
        ⟨s.values.getD .empty, s.expiry.getD none⟩ := rfl
  have made (s : EntryFields) : (⟨s.values.getD .empty, s.expiry.getD none⟩ : Entry) = e ↔
      s.values.getD .empty = e.values ∧ s.expiry.getD none = e.expiry := by
    obtain ⟨values, expiry⟩ := e
    rw [Entry.mk.injEq]
  have values : valuesField.Reaches _ EntryFields.values := field_reaches fun _ _ => rfl
  have expiry : expiryField.Reaches _ EntryFields.expiry := field_reaches fun _ _ => rfl
  have spares : valuesField.Spares EntryFields.expiry := field_spares fun _ _ => rfl
  have spares' : expiryField.Spares EntryFields.values := field_spares fun _ _ => rfl
  rw [unfolded, record_pair_iff (P := fun a => a.getD .empty = e.values) (Q := fun a => a.getD none = e.expiry)
    made values expiry (by decide) spares spares' rfl rfl rfl rfl, valuesStand_iff, expiryStands_iff]
  exact ⟨fun ⟨record, values, expiry⟩ => ⟨record, values, expiry⟩,
    fun stands => ⟨stands.record, stands.values, stands.expiry⟩⟩

theorem listStands_iff {values : List Json} {entries : List Entry} :
    (∃ a, Reads (list Entry.shape) values a ∧ a.getD [] = entries) ↔ ListStands values entries := by
  constructor
  · rintro ⟨a, reads, rfl⟩
    cases reads with
    | absent => exact .absent
    | once read =>
      obtain ⟨items, rfl, each⟩ := list_toTree_iff.mp read
      simp only [Entry.shape_iff] at each
      exact .listed each
  · intro stands
    cases stands with
    | absent => exact ⟨none, .absent, rfl⟩
    | listed each =>
      refine ⟨some entries, .once (list_toTree_iff.mpr ⟨_, rfl, ?_⟩), rfl⟩
      simpa only [Entry.shape_iff] using each

def Snapshot.allowField : Shape.Field SnapshotFields :=
  field "allowlist" ["allow_list"] false (list Entry.shape) SnapshotFields.allow fun s v => { s with allow := some v }

def Snapshot.denyField : Shape.Field SnapshotFields :=
  field "denylist" ["deny_list"] false (list Entry.shape) SnapshotFields.deny fun s v => { s with deny := some v }

/-- A value is read as a snapshot exactly when it stands for that snapshot. -/
theorem Snapshot.shape_iff {v : Json} {s : Snapshot} : Snapshot.shape v.toTree = .ok s ↔ Snapshot.Stands v s := by
  have unfolded : Snapshot.shape v.toTree =
      (record "struct SnapshotDocument" [allowField, denyField] {} v.toTree).map fun fields =>
        ⟨fields.allow.getD [], fields.deny.getD []⟩ := rfl
  have made (fields : SnapshotFields) : (⟨fields.allow.getD [], fields.deny.getD []⟩ : Snapshot) = s ↔
      fields.allow.getD [] = s.allow ∧ fields.deny.getD [] = s.deny := by
    obtain ⟨allow, deny⟩ := s
    rw [Snapshot.mk.injEq]
  have allow : allowField.Reaches _ SnapshotFields.allow := field_reaches fun _ _ => rfl
  have deny : denyField.Reaches _ SnapshotFields.deny := field_reaches fun _ _ => rfl
  have spares : allowField.Spares SnapshotFields.deny := field_spares fun _ _ => rfl
  have spares' : denyField.Spares SnapshotFields.allow := field_spares fun _ _ => rfl
  rw [unfolded, record_pair_iff (P := fun a => a.getD [] = s.allow) (Q := fun a => a.getD [] = s.deny)
    made allow deny (by decide) spares spares' rfl rfl rfl rfl, listStands_iff, listStands_iff]
  exact ⟨fun ⟨record, allow, deny⟩ => ⟨record, allow, deny⟩,
    fun stands => ⟨stands.record, stands.allow, stands.deny⟩⟩

/-! ## Documents -/

section

variable {document node : Json} {pointer : String} {s : Snapshot}

theorem ofDocument_of_addresses (addresses : Addresses document pointer node) :
    Snapshot.ofDocument document pointer = (Snapshot.shape.ofJson node).mapError .misfit := by
  rw [Snapshot.ofDocument, atPointer?_iff.mpr addresses]

theorem ofDocument_of_nothing (nothing : ¬∃ node, Addresses document pointer node) :
    Snapshot.ofDocument document pointer = .error (.missingPath pointer) := by
  have none : document.atPointer? pointer = none := by
    rw [Option.eq_none_iff_forall_ne_some]
    exact fun node found => nothing ⟨node, atPointer?_iff.mp found⟩
  rw [Snapshot.ofDocument, none]

theorem ofDocument_of_stands (addresses : Addresses document pointer node) (stands : Snapshot.Stands node s) :
    Snapshot.ofDocument document pointer = .ok s := by
  rw [ofDocument_of_addresses addresses, ofJson, Snapshot.shape_iff.mpr stands]
  rfl

theorem ofDocument_of_misfit (addresses : Addresses document pointer node) (not : ∀ s, ¬Snapshot.Stands node s) :
    ∃ cause, Snapshot.ofDocument document pointer = .error (.misfit cause) := by
  rw [ofDocument_of_addresses addresses, ofJson]
  cases read : Snapshot.shape node.toTree with
  | ok s => exact absurd (Snapshot.shape_iff.mp read) (not s)
  | error cause => exact ⟨cause, rfl⟩

/-- A document is loaded as the snapshot that the addressed value stands for. -/
theorem ofDocument_ok_iff : Snapshot.ofDocument document pointer = .ok s ↔
    ∃ node, Addresses document pointer node ∧ Snapshot.Stands node s := by
  constructor
  · intro loaded
    by_cases found : ∃ node, Addresses document pointer node
    · obtain ⟨node, addresses⟩ := found
      refine ⟨node, addresses, Snapshot.shape_iff.mp ?_⟩
      rw [ofDocument_of_addresses addresses, ofJson] at loaded
      cases read : Snapshot.shape node.toTree with
      | ok s' =>
        rw [read] at loaded
        rw [Except.ok.inj loaded]
      | error cause =>
        rw [read] at loaded
        contradiction
    · rw [ofDocument_of_nothing found] at loaded
      contradiction
  · rintro ⟨node, addresses, stands⟩
    exact ofDocument_of_stands addresses stands

theorem ofDocument_missing_iff {path : String} :
    Snapshot.ofDocument document pointer = .error (.missingPath path) ↔
      path = pointer ∧ ¬∃ node, Addresses document pointer node := by
  constructor
  · intro missing
    have nothing : ¬∃ node, Addresses document pointer node := by
      rintro ⟨node, addresses⟩
      rw [ofDocument_of_addresses addresses] at missing
      cases read : Snapshot.shape.ofJson node with
      | ok s =>
        rw [read] at missing
        contradiction
      | error cause =>
        rw [read] at missing
        cases Except.error.inj missing
    rw [ofDocument_of_nothing nothing] at missing
    cases Except.error.inj missing
    exact ⟨rfl, nothing⟩
  · rintro ⟨rfl, nothing⟩
    exact ofDocument_of_nothing nothing

theorem ListStands.mem {items : List Json} {item : Json} {entries : List Entry}
    (stands : ListStands [.array items] entries) (mem : item ∈ items) : ∃ e, Entry.Stands item e := by
  cases stands with
  | listed each =>
    induction each with
    | nil => contradiction
    | cons here _ ih =>
      rcases List.mem_cons.mp mem with rfl | mem
      · exact ⟨_, here⟩
      · exact ih mem

/-- One item of either list that stands for no entry is enough to stand for no snapshot. -/
theorem not_stands_of_item {items : List Json} {item : Json}
    (listed : node.fieldValues 0 ["allowlist", "allow_list"] = [.array items] ∨
      node.fieldValues 1 ["denylist", "deny_list"] = [.array items])
    (mem : item ∈ items) (malformed : ∀ e, ¬Entry.Stands item e) (s : Snapshot) : ¬Snapshot.Stands node s := by
  intro stands
  have read : ∃ e, Entry.Stands item e := by
    rcases listed with allow | deny
    · have listed := stands.allow
      rw [allow] at listed
      exact listed.mem mem
    · have listed := stands.deny
      rw [deny] at listed
      exact listed.mem mem
  obtain ⟨e, stands⟩ := read
  exact malformed e stands

end

/-! ## Written snapshots -/

/-- The expiry is a number of 64 bits with a sign. -/
def Entry.Fits (e : Entry) : Prop := ∀ n, e.expiry = some n → -2 ^ 63 ≤ n ∧ n < 2 ^ 63

def Snapshot.Fits (s : Snapshot) : Prop := ∀ e ∈ s.allow ++ s.deny, e.Fits

/-- The object has the values of the entry under either name, its expiry if it has one, and any other members. -/
def Entry.WrittenAs (e : Entry) (v : Json) : Prop :=
  ∃ members, v = .object members ∧
    under ["values", "ipAddress"] members = [.ofStrings e.values.toList] ∧
    under ["expiry"] members = (e.expiry.map Json.ofInt).toList

/-- The object has both lists of the snapshot, either under one of two names, and any other members. -/
def Snapshot.WrittenAs (s : Snapshot) (v : Json) : Prop :=
  ∃ members allow deny, v = .object members ∧
    under ["allowlist", "allow_list"] members = [.array allow] ∧
    under ["denylist", "deny_list"] members = [.array deny] ∧
    List.Forall₂ Entry.WrittenAs s.allow allow ∧ List.Forall₂ Entry.WrittenAs s.deny deny

theorem Entry.writtenAs_toJson (e : Entry) : e.WrittenAs e.toJson := by
  obtain ⟨values, expiry⟩ := e
  cases expiry <;> exact ⟨_, rfl, rfl, rfl⟩

/-- The snapshot is written by its own object. -/
theorem Snapshot.writtenAs_toJson (s : Snapshot) : s.WrittenAs s.toJson := by
  refine ⟨_, _, _, rfl, rfl, rfl, ?_, ?_⟩ <;>
    simp [List.forall₂_map_right_iff, List.forall₂_same, Entry.writtenAs_toJson]

section

variable {e : Entry} {s : Snapshot} {v : Json} {f : Json → Json}

theorem Entry.WrittenAs.stands (written : e.WrittenAs v) (fits : e.Fits) : Entry.Stands v e := by
  obtain ⟨members, rfl, values, expiry⟩ := written
  refine ⟨trivial, ?_, ?_⟩
  · rw [fieldValues, values]
    exact .listed fun _ => Iff.rfl
  · rw [fieldValues, expiry]
    cases said : e.expiry with
    | none => exact .absent
    | some n => exact .at (fits n said).1 (fits n said).2

theorem stands_of_written {entries : List Entry} {items : List Json}
    (written : List.Forall₂ Entry.WrittenAs entries items) (fits : ∀ e ∈ entries, e.Fits) :
    List.Forall₂ Entry.Stands items entries := by
  induction written with
  | nil => exact .nil
  | cons here _ ih =>
    rw [List.forall_mem_cons] at fits
    exact .cons (here.stands fits.1) (ih fits.2)

/-- What is written stands for what was written. -/
theorem Snapshot.WrittenAs.stands (written : s.WrittenAs v) (fits : s.Fits) : Snapshot.Stands v s := by
  obtain ⟨members, allow, deny, rfl, first, second, allows, denies⟩ := written
  obtain ⟨fits, fits'⟩ := List.forall_mem_append.mp fits
  refine ⟨trivial, ?_, ?_⟩
  · rw [fieldValues, first]
    exact .listed (stands_of_written allows fits)
  · rw [fieldValues, second]
    exact .listed (stands_of_written denies fits')

theorem Entry.WrittenAs.map (written : e.WrittenAs v) (fits : e.Fits) (keeps : Keeps f) : e.WrittenAs (f v) := by
  obtain ⟨members, rfl, values, expiry⟩ := written
  obtain ⟨members', same, kept⟩ := keeps.object members
  refine ⟨members', same, ?_, ?_⟩
  · have texts : f (.ofStrings e.values.toList) = .ofStrings e.values.toList := by
      simp [Json.ofStrings, keeps.array, keeps.string]
    have listed := kept.2 values
    rwa [texts] at listed
  · cases said : e.expiry with
    | none =>
      rw [said] at expiry
      exact kept.1 expiry
    | some n =>
      obtain ⟨low, high⟩ := fits n said
      have limit : (2 : Int) ^ 63 ≤ wholeLimit := by decide
      have number : f (.ofInt n) = .ofInt n := keeps.whole ⟨low, (high.trans_le limit).le⟩
      rw [said] at expiry
      have listed := kept.2 expiry
      rwa [number] at listed

theorem written_map {entries : List Entry} {items : List Json} (keeps : Keeps f)
    (written : List.Forall₂ Entry.WrittenAs entries items) (fits : ∀ e ∈ entries, e.Fits) :
    List.Forall₂ Entry.WrittenAs entries (items.map f) := by
  induction written with
  | nil => exact .nil
  | cons here _ ih =>
    rw [List.forall_mem_cons] at fits
    exact .cons (here.map fits.1 keeps) (ih fits.2)

/-- A written snapshot stays written where values are kept. -/
theorem Snapshot.WrittenAs.map (written : s.WrittenAs v) (fits : s.Fits) (keeps : Keeps f) :
    s.WrittenAs (f v) := by
  obtain ⟨members, allow, deny, rfl, first, second, allows, denies⟩ := written
  obtain ⟨fits, fits'⟩ := List.forall_mem_append.mp fits
  obtain ⟨members', same, kept⟩ := keeps.object members
  refine ⟨members', _, _, same, ?_, ?_, written_map keeps allows fits, written_map keeps denies fits'⟩
  · rw [← keeps.array]
    exact kept.2 first
  · rw [← keeps.array]
    exact kept.2 second

theorem ofText_of_parse {text : String} {document : Json} (parsed : Json.parse text = .ok document) :
    Snapshot.ofText text = Snapshot.ofDocument document "" := by
  rw [Snapshot.ofText, parsed]
  rfl

theorem addresses_root (document : Json) : Addresses document "" document := ⟨[], .root, .here⟩

/-- A written snapshot is loaded from its text unless that nests too deeply. -/
theorem ofText_render (written : s.WrittenAs v) (fits : s.Fits) (proper : v.Proper) :
    Snapshot.ofText v.render = if v.depth ≤ 127 then .ok s else .error (.unreadable .malformed) := by
  have parsed := parse_render proper
  split
  · rename_i shallow
    rw [if_pos shallow] at parsed
    have kept := (written.map fits keeps_reread).map fits keeps_ordered
    rw [ofText_of_parse parsed]
    exact ofDocument_of_stands (addresses_root _) (kept.stands fits)
  · rename_i deep
    rw [if_neg deep] at parsed
    rw [Snapshot.ofText, parsed]
    rfl

end

/-! ### Texts that nest too deeply -/

/-- A value inside so many arrays. -/
def wrapped (n : Nat) : Json := n.repeat (fun v => .array [v]) .null

theorem depth_wrapped (n : Nat) : (wrapped n).depth = n := by
  induction n with
  | zero => rfl
  | succ n ih =>
    rw [wrapped, Nat.repeat, depth, itemsDepth, itemsDepth, Nat.max_zero]
    exact congrArg (· + 1) ih

theorem proper_wrapped (n : Nat) : (wrapped n).Proper := by
  induction n with
  | zero => trivial
  | succ n ih => exact ⟨ih, trivial⟩

/-- Beside empty lists, a member that nothing asks for keeps the text of a snapshot from being read. -/
theorem Snapshot.text_refused_for_depth :
    (⟨[], []⟩ : Snapshot).WrittenAs
        (.object [("allowlist", .array []), ("denylist", .array []), ("notes", wrapped 127)]) ∧
      Snapshot.ofDocument (.object [("allowlist", .array []), ("denylist", .array []), ("notes", wrapped 127)]) "" =
        .ok ⟨[], []⟩ ∧
      Snapshot.ofText (Json.object
          [("allowlist", .array []), ("denylist", .array []), ("notes", wrapped 127)]).render =
        .error (.unreadable .malformed) := by
  have written : (⟨[], []⟩ : Snapshot).WrittenAs
      (.object [("allowlist", .array []), ("denylist", .array []), ("notes", wrapped 127)]) :=
    ⟨_, _, _, rfl, rfl, rfl, .nil, .nil⟩
  have fits : (⟨[], []⟩ : Snapshot).Fits := fun e mem => absurd mem List.not_mem_nil
  have deep : (Json.object
      [("allowlist", .array []), ("denylist", .array []), ("notes", wrapped 127)]).depth = 128 := by
    rw [depth, membersDepth, membersDepth, membersDepth, depth_wrapped]
    rfl
  refine ⟨written, ofDocument_of_stands (addresses_root _) (written.stands fits), ?_⟩
  rw [ofText_render written fits ⟨trivial, trivial, proper_wrapped 127, trivial⟩, if_neg (by omega)]

/-! ## Loading -/

/-- A policy document is loaded whole or not at all. What is written is loaded, under any path and from any
text that is read; what has nothing at the path, or there something that stands for no snapshot, is not. -/
theorem Snapshot.loaded_whole :
    (∀ (s : Snapshot) (node document : Json) (tokens : List String),
      s.Fits → s.WrittenAs node → Nests node tokens document →
        Snapshot.ofDocument document (pointerOf tokens) = .ok s) ∧
    (∀ (s : Snapshot) (node : Json), s.Fits → s.WrittenAs node → node.Proper →
      Snapshot.ofText node.render = if node.depth ≤ 127 then .ok s else .error (.unreadable .malformed)) ∧
    (∀ (s : Snapshot) (node : Json) (text : String), s.Fits → s.WrittenAs node → Json.parse text = .ok node →
      Snapshot.ofText text = .ok s) ∧
    ∀ (document : Json) (pointer : String),
      (∀ path, Snapshot.ofDocument document pointer = .error (.missingPath path) ↔
        path = pointer ∧ ¬∃ node, Addresses document pointer node) ∧
      (∀ s, Snapshot.ofDocument document pointer = .ok s ↔
        ∃ node, Addresses document pointer node ∧ Snapshot.Stands node s) ∧
      ∀ node, Addresses document pointer node →
        ((∀ s, ¬Snapshot.Stands node s) →
          ∃ cause, Snapshot.ofDocument document pointer = .error (.misfit cause)) ∧
        ∀ items item, (node.fieldValues 0 ["allowlist", "allow_list"] = [.array items] ∨
            node.fieldValues 1 ["denylist", "deny_list"] = [.array items]) →
          item ∈ items → (∀ e, ¬Entry.Stands item e) →
            ∃ cause, Snapshot.ofDocument document pointer = .error (.misfit cause) := by
  refine ⟨?_, ?_, ?_, fun document pointer => ⟨?_, ?_, ?_⟩⟩
  · intro s node document tokens fits written nests
    exact ofDocument_of_stands nests.addresses (written.stands fits)
  · exact fun s node fits written proper => ofText_render written fits proper
  · intro s node text fits written parsed
    rw [ofText_of_parse parsed]
    exact ofDocument_of_stands (addresses_root node) (written.stands fits)
  · exact fun path => ofDocument_missing_iff
  · exact fun s => ofDocument_ok_iff
  · intro node addresses
    refine ⟨ofDocument_of_misfit addresses, ?_⟩
    intro items item listed mem malformed
    exact ofDocument_of_misfit addresses (not_stands_of_item listed mem malformed)

theorem Snapshot.loaded_whole_under_a_slash :
    (⟨[⟨NameSet.ofList ["10.0.0.1"], some 42⟩], []⟩ : Snapshot).Fits ∧
      Snapshot.ofDocument
          (.object [("a/b", Snapshot.toJson ⟨[⟨NameSet.ofList ["10.0.0.1"], some 42⟩], []⟩)]) (pointerOf ["a/b"]) =
        .ok ⟨[⟨NameSet.ofList ["10.0.0.1"], some 42⟩], []⟩ ∧
      Snapshot.ofText (Snapshot.toJson ⟨[⟨NameSet.ofList ["10.0.0.1"], some 42⟩], []⟩).render =
        .ok ⟨[⟨NameSet.ofList ["10.0.0.1"], some 42⟩], []⟩ := by
  have fits : (⟨[⟨NameSet.ofList ["10.0.0.1"], some 42⟩], []⟩ : Snapshot).Fits := by
    intro e mem n said
    obtain rfl : e = ⟨NameSet.ofList ["10.0.0.1"], some 42⟩ := by simpa using mem
    obtain rfl : 42 = n := Option.some.inj said
    decide
  have written := Snapshot.writtenAs_toJson ⟨[⟨NameSet.ofList ["10.0.0.1"], some 42⟩], []⟩
  refine ⟨fits, Snapshot.loaded_whole.1 _ _ _ ["a/b"] fits written ?_, ?_⟩
  · exact .under (fun m mem => absurd mem List.not_mem_nil) .here
  · have number : IsWhole 42 := ⟨by decide, by decide⟩
    have proper : (Snapshot.toJson ⟨[⟨NameSet.ofList ["10.0.0.1"], some 42⟩], []⟩).Proper :=
      ⟨⟨⟨⟨trivial, trivial⟩, number, trivial⟩, trivial⟩, trivial, trivial⟩
    rw [Snapshot.loaded_whole.2.1 _ _ fits written proper, if_pos (by decide)]

end Turnstile.Policy
