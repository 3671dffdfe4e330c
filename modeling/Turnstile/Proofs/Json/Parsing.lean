import Turnstile.Proofs.Json.RoundTrip
import Turnstile.Proofs.Shape
import Turnstile.Proofs.Table
/-!
# Parsing what has been printed

The text of a value parses when the value nests no deeper than 127 levels, and gives the value with its
numbers as they read and the members of its objects in ascending order (`parse_render`). What a value says is
still there (`Keeps`).
-/
namespace Turnstile.Json

/-! ## Depth and order -/

mutual

/-- How many arrays and objects are around the innermost part. -/
def depth : Json → Nat
  | .array items => itemsDepth items + 1
  | .object members => membersDepth members + 1
  | _ => 0

def itemsDepth : List Json → Nat
  | [] => 0
  | item :: rest => max (depth item) (itemsDepth rest)

def membersDepth : List (String × Json) → Nat
  | [] => 0
  | (_, value) :: rest => max (depth value) (membersDepth rest)

end

mutual

/-- The value with the members of every object in ascending order; of those with one name the last counts. -/
def ordered : Json → Json
  | .array items => .array (orderedItems items)
  | .object members => .object (Table.ofList (orderedMembers members)).entries
  | v => v

def orderedItems : List Json → List Json
  | [] => []
  | item :: rest => ordered item :: orderedItems rest

def orderedMembers : List (String × Json) → List (String × Json)
  | [] => []
  | (name, value) :: rest => (name, ordered value) :: orderedMembers rest

end

-- Each level of the value takes one level of the room, so the cases compare what is left of both.
mutual

/-- The value of a document is there as long as the room suffices. -/
theorem toJsonWithin_toTree : ∀ (room : Nat) (v : Json), 0 < room →
    v.toTree.toJsonWithin room = if v.depth < room then .ok v.ordered else .error .malformed
  | _, .null, left => (if_pos left).symm
  | _, .bool _, left => (if_pos left).symm
  | _, .number _, left => (if_pos left).symm
  | _, .string _, left => (if_pos left).symm
  | room, .array items, _ => by
    rw [toTree, Tree.toJsonWithin, depth]
    by_cases last : room ≤ 1
    · rw [if_pos last, if_neg (by omega)]
    · rw [if_neg last, itemsToJson_toTree (room - 1) items (by omega)]
      by_cases fits : itemsDepth items < room - 1
      · rw [if_pos fits, if_pos (by omega)]
        rfl
      · rw [if_neg fits, if_neg (by omega)]
        rfl
  | room, .object members, _ => by
    rw [toTree, Tree.toJsonWithin, depth]
    by_cases last : room ≤ 1
    · rw [if_pos last, if_neg (by omega)]
    · rw [if_neg last, membersToJson_toTree (room - 1) members (by omega)]
      by_cases fits : membersDepth members < room - 1
      · rw [if_pos fits, if_pos (by omega)]
        rfl
      · rw [if_neg fits, if_neg (by omega)]
        rfl

theorem itemsToJson_toTree : ∀ (room : Nat) (items : List Json), 0 < room →
    Tree.itemsToJson room (itemsToTree items) =
      if itemsDepth items < room then .ok (orderedItems items) else .error .malformed
  | _, [], left => (if_pos left).symm
  | room, item :: items, left => by
    rw [itemsToTree, Tree.itemsToJson, toJsonWithin_toTree room item left, itemsToJson_toTree room items left,
      itemsDepth]
    by_cases here : depth item < room
    · by_cases later : itemsDepth items < room
      · rw [if_pos here, if_pos later, if_pos (Nat.max_lt.mpr ⟨here, later⟩)]
        rfl
      · rw [if_pos here, if_neg later, if_neg fun both => later (Nat.max_lt.mp both).2]
        rfl
    · rw [if_neg here, if_neg fun both => here (Nat.max_lt.mp both).1]
      rfl

theorem membersToJson_toTree : ∀ (room : Nat) (members : List (String × Json)), 0 < room →
    Tree.membersToJson room (membersToTree members) =
      if membersDepth members < room then .ok (orderedMembers members) else .error .malformed
  | _, [], left => (if_pos left).symm
  | room, (name, value) :: members, left => by
    rw [membersToTree, Tree.membersToJson, toJsonWithin_toTree room value left,
      membersToJson_toTree room members left, membersDepth]
    by_cases here : depth value < room
    · by_cases later : membersDepth members < room
      · rw [if_pos here, if_pos later, if_pos (Nat.max_lt.mpr ⟨here, later⟩)]
        rfl
      · rw [if_pos here, if_neg later, if_neg fun both => later (Nat.max_lt.mp both).2]
        rfl
    · rw [if_neg here, if_neg fun both => here (Nat.max_lt.mp both).1]
      rfl

end

mutual

theorem depth_reread : ∀ v : Json, v.reread.depth = v.depth
  | .null => rfl
  | .bool _ => rfl
  | .number _ => rfl
  | .string _ => rfl
  | .array items => by rw [reread, depth, depth, itemsDepth_reread items]
  | .object members => by rw [reread, depth, depth, membersDepth_reread members]

theorem itemsDepth_reread : ∀ items : List Json, itemsDepth (rereadItems items) = itemsDepth items
  | [] => rfl
  | item :: items => by rw [rereadItems, itemsDepth, itemsDepth, depth_reread item, itemsDepth_reread items]

theorem membersDepth_reread : ∀ members : List (String × Json),
    membersDepth (rereadMembers members) = membersDepth members
  | [] => rfl
  | (name, value) :: members => by
    rw [rereadMembers, membersDepth, membersDepth, depth_reread value, membersDepth_reread members]

end

/-- Whether and as what the text of a value parses. -/
theorem parse_render {v : Json} (proper : v.Proper) :
    Json.parse v.render = if v.depth ≤ 127 then .ok v.reread.ordered else .error .malformed := by
  have value : v.reread.toTree.toJson = if v.depth < 128 then .ok v.reread.ordered else .error .malformed := by
    rw [← depth_reread]
    exact toJsonWithin_toTree 128 v.reread (by decide)
  rw [Json.parse, ofText_reread proper]
  simp only [value]
  by_cases fits : v.depth ≤ 127
  · rw [if_pos fits, if_pos (Nat.lt_succ_of_le fits)]
    rfl
  · rw [if_neg fits, if_neg fun below => fits (Nat.le_of_lt_succ below)]
    rfl

/-! ## What is kept -/

theorem rereadItems_eq (items : List Json) : rereadItems items = items.map reread := by
  induction items with
  | nil => rfl
  | cons item items ih => rw [rereadItems, ih, List.map_cons]

theorem orderedItems_eq (items : List Json) : orderedItems items = items.map ordered := by
  induction items with
  | nil => rfl
  | cons item items ih => rw [orderedItems, ih, List.map_cons]

theorem rereadMembers_eq (members : List (String × Json)) :
    rereadMembers members = members.map fun m => (m.1, m.2.reread) := by
  induction members with
  | nil => rfl
  | cons m members ih => rw [rereadMembers, ih, List.map_cons]

theorem orderedMembers_eq (members : List (String × Json)) :
    orderedMembers members = members.map fun m => (m.1, m.2.ordered) := by
  induction members with
  | nil => rfl
  | cons m members ih => rw [orderedMembers, ih, List.map_cons]

theorem under_map {f : Json → Json} {names : List String} {members : List (String × Json)} :
    under names (members.map fun m => (m.1, f m.2)) = (under names members).map f := by
  simp [under, List.filter_map, Function.comp_def]

/-- The members of some names keep their place in the order when there is one of them at most. -/
theorem under_ofList {names : List String} {members : List (String × Json)}
    (few : (under names members).length ≤ 1) : under names (Table.ofList members).entries = under names members := by
  rw [under, List.length_map] at few
  have only : ∃ only : Option (String × Json), members.filter (fun m => names.contains m.1) = only.toList := by
    generalize members.filter (fun m => names.contains m.1) = found at few
    cases found with
    | nil => exact ⟨none, rfl⟩
    | cons m rest =>
      have alone : rest = [] := List.length_eq_zero_iff.mp (Nat.le_zero.mp (Nat.le_of_succ_le_succ few))
      exact ⟨some m, congrArg (m :: ·) alone⟩
  obtain ⟨only, found⟩ := only
  rw [under, under, Table.filter_ofList found, found]

/-- A change that leaves strings and whole numbers, the items of arrays and the only member of any name
where they are. -/
structure Keeps (f : Json → Json) : Prop where
  string : ∀ s, f (.string s) = .string s
  whole : ∀ {n}, IsWhole n → f (.ofInt n) = .ofInt n
  array : ∀ items, f (.array items) = .array (items.map f)
  object : ∀ members, ∃ members', f (.object members) = .object members' ∧
    (∀ {names}, under names members = [] → under names members' = []) ∧
    ∀ {names v}, under names members = [v] → under names members' = [f v]

theorem keeps_reread : Keeps reread where
  string _ := rfl
  whole {n} whole := by rw [ofInt, reread, rereadNumber_whole whole]
  array items := by rw [reread, rereadItems_eq]
  object members := by
    refine ⟨_, by rw [reread, rereadMembers_eq], ?_, ?_⟩
    · intro names none
      rw [under_map, none, List.map_nil]
    · intro names v one
      rw [under_map, one, List.map_singleton]

theorem keeps_ordered : Keeps ordered where
  string _ := rfl
  whole _ := rfl
  array items := by rw [ordered, orderedItems_eq]
  object members := by
    refine ⟨_, by rw [ordered, orderedMembers_eq], ?_, ?_⟩
    · intro names none
      have values : under names (members.map fun m => (m.1, m.2.ordered)) = [] := by
        rw [under_map, none, List.map_nil]
      rw [under_ofList (by simp [values]), values]
    · intro names v one
      have values : under names (members.map fun m => (m.1, m.2.ordered)) = [v.ordered] := by
        rw [under_map, one, List.map_singleton]
      rw [under_ofList (by simp [values]), values]

end Turnstile.Json
