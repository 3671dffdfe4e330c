import Turnstile.Policy.Roster
import Turnstile.Proofs.Capture.Monitor
import Turnstile.Proofs.HeaderNames
import Turnstile.Proofs.Json.Parsing
/-!
# Forms are recorded once, with nothing lost

The text that the parameters of a form are recorded as parses as the object of just these parameters. The first
capture of a form writes this text and has the chain judge it, and no later one does anything
(`captured_once`).
-/
namespace Turnstile.Capture.Form

open Json

/-! ## The text of the parameters -/

theorem ordered_ofTable (params : Table String) : (Json.ofTable params).ordered = .ofTable params := by
  have kept : orderedMembers (params.entries.map fun e => (e.1, Json.string e.2)) =
      params.entries.map fun e => (e.1, Json.string e.2) := by
    simp [orderedMembers_eq, ordered]
  -- the members ascend already, so they are the entries of a table
  let values : Table Json :=
    ⟨params.entries.map fun e => (e.1, .string e.2), List.pairwise_map.mpr params.ascending⟩
  rw [Json.ofTable, ordered, kept]
  exact congrArg (fun t : Table Json => Json.object t.entries) (Table.ofList_entries values)

theorem depth_ofPairs (pairs : List (String × String)) : (Json.ofPairs pairs).depth = 1 := by
  have flat : membersDepth (pairs.map fun e => (e.1, Json.string e.2)) = 0 := by
    induction pairs with
    | nil => rfl
    | cons e rest ih =>
      have leaf : (Json.string e.2).depth = 0 := rfl
      rw [List.map_cons, membersDepth, ih, leaf, Nat.max_self]
  rw [Json.ofPairs, depth, flat]

/-- The text of parameters is an object of all of them, with the values they have. -/
theorem parse_bodyText (params : Table String) : Json.parse (bodyText params) = .ok (.ofTable params) := by
  have whole : (Json.ofTable params).Whole := whole_ofPairs params.entries
  have shallow : (Json.ofTable params).depth ≤ 127 := by
    have depth : (Json.ofTable params).depth = 1 := depth_ofPairs params.entries
    omega
  rw [bodyText, parse_render (proper_of_whole whole), if_pos shallow, reread_of_whole whole, ordered_ofTable]

/-! ## Captures -/

/-- What captures of a form are answered, each with the monitor after it. Between them the monitor may become
any other. -/
def captures : Form → List (Monitor × Table String) → List (Except Policy.Verdict Finish × Monitor)
  | _, [] => []
  | f, (m, params) :: rest =>
    let (answer, f', m') := m.captureForm f params
    (answer, m') :: f'.captures rest

/-- Once a form is captured, no capture does anything. -/
theorem captures_captured {f : Form} (done : f.captured = true) (calls : List (Monitor × Table String)) :
    f.captures calls = calls.map fun call => (.ok .alreadyCaptured, call.1) := by
  induction calls with
  | nil => rfl
  | cons call rest ih =>
    rw [captures, Monitor.captureForm_captured done, List.map_cons, ← ih]

/-- The first capture of a form writes the text of its parameters and what the verdict on that text has to say,
and answers the verdict if it blocks. Whatever it answers, later captures find the form captured. -/
theorem captured_once {f : Form} (fresh : f.captured = false) {m : Monitor} (made : f.span < m.spans.size)
    (params : Table String) (later : List (Monitor × Table String)) :
    let text := bodyText params
    let v := m.chain.judge m.moment ⟨f.headers, some text⟩
    Json.parse text = .ok (.ofTable params) ∧
    ∃ after : Monitor,
      f.captures ((m, params) :: later) = (if v.blocked then .error v else .ok .recorded, after) ::
        later.map (fun call => (.ok .alreadyCaptured, call.1)) ∧
      (∀ j, after.span j = if f.span = j
        then (m.span j).setAll ((f.key, text) :: v.attributes.entries) else m.span j) ∧
      after = { m with spans := after.spans, judged := m.judged.push ⟨f.headers, some text⟩ } := by
  intro text v
  let after : Monitor := { m.write f.span ((f.key, text) :: v.attributes.entries) with
    judged := m.judged.push ⟨f.headers, some text⟩ }
  refine ⟨parse_bodyText params, after, ?_, fun j => Monitor.span_write (fun _ => made) _, rfl⟩
  rw [captures, Monitor.captureForm_open fresh, ← captures_captured (f := { f with captured := true }) rfl]

/-- A form that the chain blocks, whose parameters hold quotes and line breaks, is not judged again. -/
theorem captured_once_though_blocked :
    let m := (Monitor.start .default (Policy.Roster.chain ⟨[⟨.mock, true⟩]⟩) ⟨none, 0⟩).newSpan.2
    let f : Form := ⟨0, requestBodyKey, .ofList [("MockBlock", "1")], false⟩
    let params := Table.ofList [("say \"a\"", "b\nc\\"), ("\u00e9", "")]
    Json.parse (bodyText params) = .ok (.ofTable params) ∧
      ∃ v after, v.blocked = true ∧
        f.captures [(m, params), (m, .empty)] = [(.error v, after), (.ok .alreadyCaptured, m)] ∧
        (after.span 0).count requestBodyKey = 1 ∧ after.judged.size = 1 := by
  intro m f params
  obtain ⟨parsed, after, answers, written, same⟩ :=
    captured_once (f := f) (m := m) rfl (by decide) params [(m, .empty)]
  have blocked : (m.chain.judge m.moment ⟨f.headers, some (bodyText params)⟩).blocked = true := rfl
  rw [if_pos blocked] at answers
  refine ⟨parsed, _, after, blocked, answers, ?_, ?_⟩
  · rw [written 0]
    rfl
  · rw [same]
    rfl

end Turnstile.Capture.Form
