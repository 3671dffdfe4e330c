import Turnstile.Config
import Turnstile.Proofs.Policy.Document
import Turnstile.Proofs.Records
/-!
# Settings read back

Settings are read back from what they are printed as, but for the poller's token, which is never printed.
An object that gives some of the settings leaves the defaults to the others, down to the sides of the toggles,
whatever other members it has (`settings_read_back`).
-/
namespace Turnstile

open Json Shape

/-! ## What objects give -/

/-- What the values under the names of a field give: nothing, or a value that stands for its content. -/
inductive Json.Gives {α : Type} (stands : Json → α → Prop) : List Json → Option α → Prop
  | nothing : Gives stands [] none
  | content {v : Json} {a : α} : stands v a → Gives stands [v] (some a)

/-- The value is a natural number below 2 ^ 64. -/
def Json.IsWord (v : Json) (n : Nat) : Prop := v = .ofNat n ∧ n < 2 ^ 64

/-- The value is a text, or null for none. -/
def Json.IsOptionalText (v : Json) (text : Option String) : Prop := v = text.elim .null .string

namespace Capture

/-- The members of an object give these sides of toggles, in any order and among any others. -/
structure Toggles.Fields.GivenBy (given : Toggles.Fields) (members : List (String × Json)) : Prop where
  request : Gives (fun v b => v = .bool b) (under ["request"] members) given.request
  response : Gives (fun v b => v = .bool b) (under ["response"] members) given.response

/-- The toggles of which some are given. -/
def Toggles.Fields.complete (given : Toggles.Fields) : Toggles :=
  ⟨given.request.getD Toggles.default.request, given.response.getD Toggles.default.response⟩

/-- The value is an object that gives these sides of toggles. -/
def Toggles.Fields.Object (v : Json) (given : Toggles.Fields) : Prop :=
  ∃ members, v = .object members ∧ given.GivenBy members

/-- Some of the settings, down to the sides of the toggles. -/
structure Settings.Choice where
  bodyLimit : Option Nat
  contentTypes : Option (List String)
  headers : Option Toggles.Fields
  bodies : Option Toggles.Fields

/-- The members of an object give these settings, in any order and among any others. -/
structure Settings.Choice.GivenBy (given : Settings.Choice) (members : List (String × Json)) : Prop where
  bodyLimit : Gives IsWord (under ["body_max_size_bytes"] members) given.bodyLimit
  contentTypes : Gives (fun v texts => v = .ofStrings texts) (under ["allowed_content_types"] members)
    given.contentTypes
  headers : Gives Toggles.Fields.Object (under ["http_headers"] members) given.headers
  bodies : Gives Toggles.Fields.Object (under ["http_body"] members) given.bodies

/-- The settings of which some are given. -/
def Settings.Choice.complete (given : Settings.Choice) : Settings where
  bodyLimit := given.bodyLimit.getD Settings.default.bodyLimit
  contentTypes := given.contentTypes.getD Settings.default.contentTypes
  headers := (given.headers.map Toggles.Fields.complete).getD Settings.default.headers
  bodies := (given.bodies.map Toggles.Fields.complete).getD Settings.default.bodies

end Capture

namespace Policy.PollerSettings.Fields

/-- The members of an object give these settings of a poller, in any order and among any others. -/
structure GivenBy (given : Fields) (members : List (String × Json)) : Prop where
  endpoint : Gives (fun v s => v = .string s) (under ["endpoint"] members) given.endpoint
  token : Gives IsOptionalText (under ["auth_token"] members) given.token
  skipVerify : Gives (fun v b => v = .bool b) (under ["skip_verify"] members) given.skipVerify
  interval : Gives IsWord (under ["poll_interval_secs"] members) given.interval
  timeout : Gives IsWord (under ["request_timeout_secs"] members) given.timeout
  documentPath : Gives (fun v s => v = .string s) (under ["document_path"] members) given.documentPath
  dataPath : Gives (fun v s => v = .string s) (under ["data_path"] members) given.dataPath

/-- The settings of which some are given. -/
def complete (given : Fields) : PollerSettings where
  endpoint := given.endpoint.getD PollerSettings.default.endpoint
  token := given.token.getD PollerSettings.default.token
  skipVerify := given.skipVerify.getD PollerSettings.default.skipVerify
  interval := given.interval.getD PollerSettings.default.interval
  timeout := given.timeout.getD PollerSettings.default.timeout
  documentPath := given.documentPath.getD PollerSettings.default.documentPath
  dataPath := given.dataPath.getD PollerSettings.default.dataPath

end Policy.PollerSettings.Fields

/-! ## Values and their texts -/

section

variable {α β : Type} {stands : Json → α → Prop} {values : List Json} {a : Option α} {v : Json}

theorem Json.Gives.reads_map {shape : Shape β} {f : α → β} (gives : Gives stands values a)
    (read : ∀ {v a}, stands v a → shape v.toTree = .ok (f a)) : Reads shape values (a.map f) := by
  cases gives with
  | nothing => exact .absent
  | content here => exact .once (read here)

theorem Json.Gives.reads {shape : Shape α} (gives : Gives stands values a)
    (read : ∀ {v a}, stands v a → shape v.toTree = .ok a) : Reads shape values a := by
  have reads : Reads shape values (a.map id) := gives.reads_map read
  rwa [Option.map_id] at reads

/-- What stands for a content after it has been printed and read is given all the same. -/
theorem Json.Gives.reread {names : List String} {members : List (String × Json)}
    (gives : Gives stands (under names members) a) (keeps : ∀ {v a}, stands v a → stands v.reread a) :
    Gives stands (under names (rereadMembers members)) a := by
  rw [rereadMembers_eq, under_map]
  generalize under names members = values at gives
  cases gives with
  | nothing => exact .nothing
  | content here => exact .content (keeps here)

theorem Json.IsWord.reread {n : Nat} (word : v.IsWord n) : v.reread.IsWord n := by
  obtain ⟨rfl, small⟩ := word
  refine ⟨?_, small⟩
  rw [ofNat, Json.reread, rereadNumber_whole (isWhole_of_lt small)]

theorem Json.IsOptionalText.reread {text : Option String} (is : v.IsOptionalText text) :
    v.reread.IsOptionalText text := by
  subst is
  cases text <;> rfl

theorem Json.reread_ofStrings (texts : List String) : (Json.ofStrings texts).reread = .ofStrings texts := by
  simp [ofStrings, keeps_reread.array, keeps_reread.string]

theorem Shape.word_toTree {wanted : String} {n : Nat} (is : v.IsWord n) : Shape.word wanted v.toTree = .ok n := by
  obtain ⟨rfl, small⟩ := is
  have limit : Int.pow 2 64 - 1 = 2 ^ 64 - 1 := by decide
  rw [Shape.word]
  exact natural_toTree (by omega)

theorem Shape.list_string_toTree (texts : List String) :
    list string (Json.ofStrings texts).toTree = .ok texts := by
  refine list_toTree_iff.mpr ⟨_, rfl, ?_⟩
  simp [string_toTree_iff, List.forall₂_map_left_iff, List.forall₂_same]

theorem Shape.optional_string_toTree {text : Option String} (is : v.IsOptionalText text) :
    optional string v.toTree = .ok text := by
  subst is
  cases text <;> rfl

/-- From its text an object is read with its numbers as they read. -/
theorem Shape.ofText_object {shape : Shape α} {members : List (String × Json)} {a : α}
    (proper : (Json.object members).Proper) (read : shape (Json.object (rereadMembers members)).toTree = .ok a) :
    Shape.ofText shape (Document.ofText (Json.object members).render) = .ok a := by
  rw [Json.ofText_reread proper, Shape.ofText, Json.reread, read]
  rfl

theorem Json.itemsWhole_strings (texts : List String) : ItemsWhole (texts.map Json.string) := by
  induction texts with
  | nil => trivial
  | cons s rest ih => exact ⟨trivial, ih⟩

end

/-! ## Capture settings -/

namespace Capture

section

variable {members : List (String × Json)}

def Toggles.layout : Layout Toggles.Fields where
  parts := [
    .ofField "request" [] false bool Toggles.Fields.request (fun s v => { s with request := some v }) fun _ _ => rfl,
    .ofField "response" [] false bool Toggles.Fields.response (fun s v => { s with response := some v })
      fun _ _ => rfl]
  start := {}
  only := by
    rintro ⟨_, _⟩ s same
    simp only [List.forall_mem_cons, Component.ofField] at same
    obtain ⟨rfl, rfl, -⟩ := same
    rfl

theorem Toggles.shape_given {given : Toggles.Fields} (said : given.GivenBy members) :
    Toggles.shape (Json.object members).toTree = .ok given.complete := by
  have request : Reads bool _ _ := said.request.reads (by rintro v a rfl; rfl)
  have response : Reads bool _ _ := said.response.reads (by rintro v a rfl; rfl)
  have told : ∀ p ∈ Toggles.layout.parts, p.Told members given := by
    simp only [Toggles.layout, List.forall_mem_cons]
    exact ⟨Component.told_of_free rfl request, Component.told_of_free rfl response, List.forall_mem_nil _⟩
  exact bind_eq_ok_iff.mpr ⟨given, Toggles.layout.record_object_eq told, rfl⟩

theorem Toggles.Fields.Object.reads {v : Json} {given : Toggles.Fields} (object : Object v given) :
    Toggles.shape v.toTree = .ok given.complete := by
  obtain ⟨members, rfl, said⟩ := object
  exact Toggles.shape_given said

def Settings.layout : Layout Settings.Fields where
  parts := [
    .ofField "body_max_size_bytes" [] false (word "usize") Settings.Fields.bodyLimit
      (fun s v => { s with bodyLimit := some v }) fun _ _ => rfl,
    .ofField "allowed_content_types" [] false (list string) Settings.Fields.contentTypes
      (fun s v => { s with contentTypes := some v }) fun _ _ => rfl,
    .ofField "http_headers" [] false Toggles.shape Settings.Fields.headers
      (fun s v => { s with headers := some v }) fun _ _ => rfl,
    .ofField "http_body" [] false Toggles.shape Settings.Fields.bodies
      (fun s v => { s with bodies := some v }) fun _ _ => rfl]
  start := {}
  only := by
    rintro ⟨_, _, _, _⟩ s same
    simp only [List.forall_mem_cons, Component.ofField] at same
    obtain ⟨rfl, rfl, rfl, rfl, -⟩ := same
    rfl

/-- What is read of an object before the defaults are filled in. -/
def Settings.Choice.fields (given : Settings.Choice) : Settings.Fields :=
  ⟨given.bodyLimit, given.contentTypes, given.headers.map Toggles.Fields.complete,
    given.bodies.map Toggles.Fields.complete⟩

theorem Settings.shape_given {given : Settings.Choice} (said : given.GivenBy members) :
    Settings.shape (Json.object members).toTree = .ok given.complete := by
  have bodyLimit : Reads (word "usize") _ _ := said.bodyLimit.reads word_toTree
  have contentTypes : Reads (list string) _ _ :=
    said.contentTypes.reads (by rintro v a rfl; exact list_string_toTree a)
  -- where one side of nested toggles is given, whole toggles are read
  have headers : Reads Toggles.shape _ _ := said.headers.reads_map Toggles.Fields.Object.reads
  have bodies : Reads Toggles.shape _ _ := said.bodies.reads_map Toggles.Fields.Object.reads
  have told : ∀ p ∈ Settings.layout.parts, p.Told members given.fields := by
    simp only [Settings.layout, List.forall_mem_cons]
    exact ⟨Component.told_of_free rfl bodyLimit, Component.told_of_free rfl contentTypes,
      Component.told_of_free rfl headers, Component.told_of_free rfl bodies, List.forall_mem_nil _⟩
  exact bind_eq_ok_iff.mpr ⟨given.fields, Settings.layout.record_object_eq told, rfl⟩

/-! ### Objects of settings -/

theorem Toggles.Fields.GivenBy.reread {given : Toggles.Fields} (said : given.GivenBy members) :
    given.GivenBy (rereadMembers members) where
  request := said.request.reread (by rintro v a rfl; rfl)
  response := said.response.reread (by rintro v a rfl; rfl)

theorem Toggles.Fields.Object.reread {v : Json} {given : Toggles.Fields} (object : Object v given) :
    Object v.reread given := by
  obtain ⟨members, rfl, said⟩ := object
  exact ⟨_, rfl, said.reread⟩

theorem Settings.Choice.GivenBy.reread {given : Settings.Choice} (said : given.GivenBy members) :
    given.GivenBy (rereadMembers members) where
  bodyLimit := said.bodyLimit.reread IsWord.reread
  contentTypes := said.contentTypes.reread (by rintro v a rfl; exact reread_ofStrings a)
  headers := said.headers.reread Toggles.Fields.Object.reread
  bodies := said.bodies.reread Toggles.Fields.Object.reread

theorem Toggles.object_toJson (t : Toggles) : Toggles.Fields.Object t.toJson ⟨some t.request, some t.response⟩ :=
  ⟨_, rfl, .content rfl, .content rfl⟩

/-- All the settings. -/
def Settings.choice (s : Settings) : Settings.Choice :=
  ⟨some s.bodyLimit, some s.contentTypes, some ⟨some s.headers.request, some s.headers.response⟩,
    some ⟨some s.bodies.request, some s.bodies.response⟩⟩

theorem Settings.given_toJson {s : Settings} (small : s.bodyLimit < 2 ^ 64) :
    ∃ members, s.toJson = .object members ∧ s.choice.GivenBy members :=
  ⟨_, rfl, .content ⟨rfl, small⟩, .content rfl, .content s.headers.object_toJson, .content s.bodies.object_toJson⟩

theorem Settings.readsAs_toJson {s : Settings} (small : s.bodyLimit < 2 ^ 64) : Settings.shape.ReadsAs s.toJson s := by
  obtain ⟨members, same, said⟩ := Settings.given_toJson small
  have read := Settings.shape_given said
  rw [← same] at read
  have whole : s.toJson.Whole :=
    ⟨isWhole_of_lt small, itemsWhole_strings s.contentTypes, ⟨trivial, trivial, trivial⟩, ⟨trivial, trivial, trivial⟩,
      trivial⟩
  exact readsAs_of_whole whole read

end

end Capture

namespace Policy

/-! ## Evaluators and entries -/

theorem Selection.shape_toJson (s : Selection) : Selection.shape s.toJson.toTree = .ok s := by
  obtain ⟨kind, enabled⟩ := s
  cases kind <;> rfl

def Roster.layout : Layout (Option (List Selection)) where
  parts := [.ofField "evaluators" [] false (list Selection.shape) id (fun _ v => some v) fun _ _ => rfl]
  apart := List.pairwise_singleton _ _
  start := none
  only _ _ same := same _ List.mem_cons_self

theorem Roster.readsAs_toJson (r : Roster) : Roster.shape.ReadsAs r.toJson r := by
  have each : list Selection.shape (Json.array (r.evaluators.map Selection.toJson)).toTree = .ok r.evaluators := by
    refine list_toTree_iff.mpr ⟨_, rfl, ?_⟩
    simp [Selection.shape_toJson, List.forall₂_map_left_iff, List.forall₂_same]
  have told : ∀ p ∈ Roster.layout.parts, p.Told [("evaluators", .array (r.evaluators.map Selection.toJson))]
      (some r.evaluators) := by
    simp only [Roster.layout, List.forall_mem_cons]
    exact ⟨Component.told_of_read rfl each rfl, List.forall_mem_nil _⟩
  have whole : ItemsWhole (r.evaluators.map Selection.toJson) := by
    induction r.evaluators with
    | nil => trivial
    | cons s rest ih => exact ⟨⟨trivial, trivial, trivial⟩, ih⟩
  have read : Roster.shape r.toJson.toTree = .ok r :=
    bind_eq_ok_iff.mpr ⟨_, Roster.layout.record_object_eq told, rfl⟩
  exact readsAs_of_whole ⟨whole, trivial⟩ read

theorem Entry.readsAs_toJson {e : Entry} (fits : e.Fits) : Entry.shape.ReadsAs e.toJson e := by
  refine readsAs_of_whole ?_ (Entry.shape_iff.mpr (e.writtenAs_toJson.stands fits))
  have texts : ItemsWhole (e.values.toList.map Json.string) := itemsWhole_strings _
  obtain ⟨values, expiry⟩ := e
  cases expiry with
  | none => exact ⟨texts, trivial⟩
  | some n =>
    obtain ⟨low, high⟩ := fits n rfl
    have limit : (2 : Int) ^ 63 ≤ wholeLimit := by decide
    exact ⟨texts, ⟨low, (high.trans_le limit).le⟩, trivial⟩

/-! ## Poller settings -/

namespace PollerSettings

section

variable {members : List (String × Json)} {given : Fields}

def layout : Layout Fields where
  parts := [
    .ofField "endpoint" [] false string Fields.endpoint (fun s v => { s with endpoint := some v }) fun _ _ => rfl,
    .ofField "auth_token" [] false (optional string) Fields.token (fun s v => { s with token := some v })
      fun _ _ => rfl,
    .ofField "skip_verify" [] false bool Fields.skipVerify (fun s v => { s with skipVerify := some v })
      fun _ _ => rfl,
    .ofField "poll_interval_secs" [] false (word "u64") Fields.interval (fun s v => { s with interval := some v })
      fun _ _ => rfl,
    .ofField "request_timeout_secs" [] false (word "u64") Fields.timeout (fun s v => { s with timeout := some v })
      fun _ _ => rfl,
    .ofField "document_path" [] false string Fields.documentPath (fun s v => { s with documentPath := some v })
      fun _ _ => rfl,
    .ofField "data_path" [] false string Fields.dataPath (fun s v => { s with dataPath := some v }) fun _ _ => rfl]
  start := {}
  only := by
    rintro ⟨_, _, _, _, _, _, _⟩ s same
    simp only [List.forall_mem_cons, Component.ofField] at same
    obtain ⟨rfl, rfl, rfl, rfl, rfl, rfl, rfl, -⟩ := same
    rfl

theorem shape_given (said : given.GivenBy members) :
    PollerSettings.shape (Json.object members).toTree = .ok given.complete := by
  have text : ∀ {v s}, v = Json.string s → string v.toTree = .ok s := string_toTree_iff.mpr
  have endpoint : Reads string _ _ := said.endpoint.reads text
  have token : Reads (optional string) _ _ := said.token.reads optional_string_toTree
  have skipVerify : Reads bool _ _ := said.skipVerify.reads (by rintro v a rfl; rfl)
  have interval : Reads (word "u64") _ _ := said.interval.reads word_toTree
  have timeout : Reads (word "u64") _ _ := said.timeout.reads word_toTree
  have documentPath : Reads string _ _ := said.documentPath.reads text
  have dataPath : Reads string _ _ := said.dataPath.reads text
  have told : ∀ p ∈ layout.parts, p.Told members given := by
    simp only [layout, List.forall_mem_cons]
    exact ⟨Component.told_of_free rfl endpoint, Component.told_of_free rfl token,
      Component.told_of_free rfl skipVerify, Component.told_of_free rfl interval,
      Component.told_of_free rfl timeout, Component.told_of_free rfl documentPath,
      Component.told_of_free rfl dataPath, List.forall_mem_nil _⟩
  exact bind_eq_ok_iff.mpr ⟨given, layout.record_object_eq told, rfl⟩

theorem Fields.GivenBy.reread (said : given.GivenBy members) : given.GivenBy (rereadMembers members) where
  endpoint := said.endpoint.reread (by rintro v a rfl; rfl)
  token := said.token.reread IsOptionalText.reread
  skipVerify := said.skipVerify.reread (by rintro v a rfl; rfl)
  interval := said.interval.reread IsWord.reread
  timeout := said.timeout.reread IsWord.reread
  documentPath := said.documentPath.reread (by rintro v a rfl; rfl)
  dataPath := said.dataPath.reread (by rintro v a rfl; rfl)

/-- All the settings but the token. -/
def fields (p : PollerSettings) : Fields :=
  ⟨some p.endpoint, none, some p.skipVerify, some p.interval, some p.timeout, some p.documentPath, some p.dataPath⟩

theorem given_toJson {p : PollerSettings} (interval : p.interval < 2 ^ 64) (timeout : p.timeout < 2 ^ 64) :
    ∃ members, p.toJson = .object members ∧ p.fields.GivenBy members :=
  ⟨_, rfl, .content rfl, .nothing, .content rfl, .content ⟨rfl, interval⟩, .content ⟨rfl, timeout⟩, .content rfl,
    .content rfl⟩

theorem readsAs_toJson {p : PollerSettings} (interval : p.interval < 2 ^ 64) (timeout : p.timeout < 2 ^ 64) :
    PollerSettings.shape.ReadsAs p.toJson { p with token := none } := by
  obtain ⟨members, same, said⟩ := given_toJson interval timeout
  have read := shape_given said
  rw [← same] at read
  have whole : p.toJson.Whole :=
    ⟨trivial, trivial, isWhole_of_lt interval, isWhole_of_lt timeout, trivial, trivial, trivial⟩
  exact readsAs_of_whole whole read

end

end PollerSettings

end Policy

/-! ## Reading back -/

open Capture Policy

/-- Settings are read back from what they are printed as, all but the token of a poller, which is not printed.
The settings that an object gives are read from it, and each of the others has its default. -/
theorem settings_read_back :
    (∀ s : Settings, s.bodyLimit < 2 ^ 64 → Settings.shape.ReadsAs s.toJson s) ∧
    (∀ r : Roster, Roster.shape.ReadsAs r.toJson r) ∧
    (∀ e : Entry, e.Fits → Entry.shape.ReadsAs e.toJson e) ∧
    (∀ p : PollerSettings, p.interval < 2 ^ 64 → p.timeout < 2 ^ 64 →
      PollerSettings.shape.ReadsAs p.toJson { p with token := none }) ∧
    (∀ (p : PollerSettings) (token : Option String), { p with token := token }.toJson = p.toJson) ∧
    (∀ (given : Settings.Choice) (members : List (String × Json)), given.GivenBy members →
      Settings.shape.ofJson (.object members) = .ok given.complete ∧
        ((Json.object members).Proper → Settings.shape.ReadsAs (.object members) given.complete)) ∧
    ∀ (given : PollerSettings.Fields) (members : List (String × Json)), given.GivenBy members →
      PollerSettings.shape.ofJson (.object members) = .ok given.complete ∧
        ((Json.object members).Proper → PollerSettings.shape.ReadsAs (.object members) given.complete) := by
  refine ⟨fun s => Settings.readsAs_toJson, Roster.readsAs_toJson, fun e => Entry.readsAs_toJson,
    fun p => PollerSettings.readsAs_toJson, fun p token => rfl, ?_, ?_⟩
  · intro given members said
    have read := Settings.shape_given said
    exact ⟨read, fun proper => ⟨read, ofText_object proper (Settings.shape_given said.reread)⟩⟩
  · intro given members said
    have read := PollerSettings.shape_given said
    exact ⟨read, fun proper => ⟨read, ofText_object proper (PollerSettings.shape_given said.reread)⟩⟩

/-- One side of the body toggles beside a note, a token with nothing else, and what is read back after it. -/
theorem settings_read_back_in_part :
    Settings.shape.ReadsAs
        (.object [("notes", .null), ("http_body", .object [("response", .bool false)]),
          ("body_max_size_bytes", .ofNat 16)])
        ⟨16, Gate.defaultFragments, ⟨true, true⟩, ⟨true, false⟩⟩ ∧
      PollerSettings.shape.ReadsAs (.object [("auth_token", .string "hush")])
        { PollerSettings.default with token := some "hush" } ∧
      PollerSettings.shape.ReadsAs { PollerSettings.default with token := some "hush" }.toJson .default ∧
      Settings.shape.ReadsAs Settings.default.toJson .default ∧
      Entry.shape.ReadsAs (Entry.toJson ⟨NameSet.ofList ["10.0.0.1"], some 42⟩)
        ⟨NameSet.ofList ["10.0.0.1"], some 42⟩ := by
  have capture : (⟨some 16, none, none, some ⟨none, some false⟩⟩ : Settings.Choice).GivenBy
      [("notes", .null), ("http_body", .object [("response", .bool false)]), ("body_max_size_bytes", .ofNat 16)] :=
    ⟨.content ⟨rfl, by decide⟩, .nothing, .nothing, .content ⟨_, rfl, .nothing, .content rfl⟩⟩
  have token : ({ token := some (some "hush") } : PollerSettings.Fields).GivenBy [("auth_token", .string "hush")] :=
    ⟨.nothing, .content rfl, .nothing, .nothing, .nothing, .nothing, .nothing⟩
  have fits : (⟨NameSet.ofList ["10.0.0.1"], some 42⟩ : Entry).Fits := by
    intro n said
    obtain rfl : 42 = n := Option.some.inj said
    decide
  obtain ⟨settings, -, entry, poller, -, some, others⟩ := settings_read_back
  refine ⟨(some _ _ capture).2 ?_, (others _ _ token).2 ?_, poller _ (by decide) (by decide),
    settings _ (by decide), entry _ fits⟩
  · exact ⟨trivial, ⟨trivial, trivial⟩, isWhole_of_lt (by decide), trivial⟩
  · exact ⟨trivial, trivial⟩

end Turnstile
