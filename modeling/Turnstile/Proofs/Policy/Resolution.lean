import Turnstile.Policy.Roster
import Turnstile.Proofs.Policy.Address
/-!
# What the lists say of a request

A request is allowlisted, denylisted or unlisted by the sets of its addresses and of the values that the two
lists hold at the time (`resolve_cases`), and nothing else about it counts (`resolve_decides`).
-/
namespace Turnstile.Policy

open Headers

/-- The values that entries list at a time: an entry counts until its expiry, or for good. -/
def Listed (entries : List Entry) (now : Int) : Set String :=
  {v | ∃ e ∈ entries, (∀ expiry, e.expiry = some expiry → now < expiry) ∧ v ∈ e.values.toList}

section

variable {entries : List Entry} {snapshot : Snapshot} {h : Headers} {now : Int}

theorem isActive_iff {e : Entry} :
    e.isActive now = true ↔ ∀ expiry, e.expiry = some expiry → now < expiry := by
  rw [Entry.isActive]
  cases e.expiry <;> simp

theorem members_activeValues (entries : List Entry) (now : Int) :
    (activeValues entries now).members = Listed entries now := by
  rw [activeValues, NameSet.members_ofList]
  ext v
  simp only [Set.mem_ofPred_eq, List.mem_flatMap, List.mem_filter, isActive_iff, Listed, and_assoc]

/-- The addresses of a request that its snapshot allows, whatever is denied. -/
def Allowed (snapshot : Snapshot) (h : Headers) (now : Int) : Set String :=
  (candidates h).members ∩ Listed snapshot.allow now

/-- The addresses of a request that its snapshot denies, whatever is allowed. -/
def Denied (snapshot : Snapshot) (h : Headers) (now : Int) : Set String :=
  (candidates h).members ∩ Listed snapshot.deny now

/-- All that a snapshot can say of a request. -/
theorem resolve_cases (snapshot : Snapshot) (h : Headers) (now : Int) :
    ((Allowed snapshot h now).Nonempty ∧ ∃ s : NameSet, s.members = Allowed snapshot h now ∧
      resolve (some snapshot) h now = .allowlisted s) ∨
    (Allowed snapshot h now = ∅ ∧ (Denied snapshot h now).Nonempty ∧
      ∃ s : NameSet, s.members = Denied snapshot h now ∧ resolve (some snapshot) h now = .denylisted s) ∨
    (Allowed snapshot h now = ∅ ∧ Denied snapshot h now = ∅ ∧ resolve (some snapshot) h now = .unlisted) := by
  have matched : ∀ entries, ((candidates h).inter (activeValues entries now)).members =
      (candidates h).members ∩ Listed entries now := by
    intro entries
    rw [NameSet.members_inter, members_activeValues]
  rw [resolve]
  by_cases allowed : ((candidates h).inter (activeValues snapshot.allow now)).isEmpty = true
  · have none : Allowed snapshot h now = ∅ := by rwa [NameSet.isEmpty_iff, matched] at allowed
    by_cases denied : ((candidates h).inter (activeValues snapshot.deny now)).isEmpty = true
    · have neither : Denied snapshot h now = ∅ := by rwa [NameSet.isEmpty_iff, matched] at denied
      exact .inr (.inr ⟨none, neither, by simp [allowed, denied]⟩)
    · have some : (Denied snapshot h now).Nonempty := by
        rwa [NameSet.isEmpty_iff, matched, ← ne_eq, ← Set.nonempty_iff_ne_empty] at denied
      exact .inr (.inl ⟨none, some, _, matched _, by simp [allowed, denied]⟩)
  · have some : (Allowed snapshot h now).Nonempty := by
      rwa [NameSet.isEmpty_iff, matched, ← ne_eq, ← Set.nonempty_iff_ne_empty] at allowed
    exact .inl ⟨some, _, matched _, by simp [allowed]⟩

theorem resolve_allowlisted_iff {s : NameSet} : resolve (some snapshot) h now = .allowlisted s ↔
    (Allowed snapshot h now).Nonempty ∧ s.members = Allowed snapshot h now := by
  obtain ⟨some, t, members, said⟩ | ⟨none, -, t, -, said⟩ | ⟨none, -, said⟩ := resolve_cases snapshot h now
  · rw [said, Resolution.allowlisted.injEq, ← members]
    exact ⟨fun same => ⟨members ▸ some, by rw [same]⟩, fun ⟨_, same⟩ => NameSet.ext_members same.symm⟩
  · simp [said, none]
  · simp [said, none]

theorem resolve_denylisted_iff {s : NameSet} : resolve (some snapshot) h now = .denylisted s ↔
    Allowed snapshot h now = ∅ ∧ (Denied snapshot h now).Nonempty ∧ s.members = Denied snapshot h now := by
  obtain ⟨some, t, -, said⟩ | ⟨none, some, t, members, said⟩ | ⟨-, none, said⟩ := resolve_cases snapshot h now
  · simp [said, some.ne_empty]
  · rw [said, Resolution.denylisted.injEq, ← members]
    exact ⟨fun same => ⟨none, members ▸ some, by rw [same]⟩, fun ⟨_, _, same⟩ => NameSet.ext_members same.symm⟩
  · simp [said, none]

theorem resolve_unlisted_iff : resolve (some snapshot) h now = .unlisted ↔
    Allowed snapshot h now = ∅ ∧ Denied snapshot h now = ∅ := by
  obtain ⟨some, t, -, said⟩ | ⟨-, some, t, -, said⟩ | ⟨none, neither, said⟩ := resolve_cases snapshot h now
  · simp [said, some.ne_empty]
  · simp [said, some.ne_empty]
  · simp [said, none, neither]

theorem admits_eq_false_iff {snapshot : Option Snapshot} :
    admits snapshot h now = false ↔ ∃ s, resolve snapshot h now = .denylisted s := by
  rw [admits]
  cases resolve snapshot h now <;> simp

theorem not_admitted_iff : admits (some snapshot) h now = false ↔
    Allowed snapshot h now = ∅ ∧ (Denied snapshot h now).Nonempty := by
  rw [admits_eq_false_iff]
  obtain ⟨some, t, -, said⟩ | ⟨none, some, t, -, said⟩ | ⟨-, none, said⟩ := resolve_cases snapshot h now
  · simp [said, some.ne_empty]
  · simp [said, none, some]
  · simp [said, none]

end

theorem resolve_congr {h h' : Headers} (same : candidates h = candidates h') (snapshot : Option Snapshot)
    (now : Int) : resolve snapshot h now = resolve snapshot h' now := by
  cases snapshot with
  | none => rfl
  | some snapshot => simp only [resolve, same]

/-! ## The evaluator of client addresses -/

theorem judgeAddress_of_denylisted {moment : Moment} {request : Request} {s : NameSet}
    (said : resolve moment.snapshot request.headers moment.now = .denylisted s) :
    Kind.judgeAddress moment request = ⟨true, .forbidden, "client address is deny-listed",
      Table.empty.insert "policy.ip.denylisted" (",".intercalate s.toList)⟩ := by
  rw [Kind.judgeAddress, said]
  rfl

theorem judgeAddress_of_admitted {moment : Moment} {request : Request}
    (admitted : admits moment.snapshot request.headers moment.now = true) :
    (Kind.judgeAddress moment request).blocked = false ∧
      (Kind.judgeAddress moment request).status = .ok := by
  rw [admits] at admitted
  rw [Kind.judgeAddress]
  cases said : resolve moment.snapshot request.headers moment.now with
  | denylisted s => simp [said] at admitted
  | allowlisted s => exact ⟨rfl, rfl⟩
  | unlisted => exact ⟨rfl, rfl⟩

theorem judgeAddress_blocked (moment : Moment) (request : Request) :
    (Kind.judgeAddress moment request).blocked =
      !admits moment.snapshot request.headers moment.now := by
  cases admitted : admits moment.snapshot request.headers moment.now with
  | true => exact (judgeAddress_of_admitted admitted).1
  | false =>
    obtain ⟨s, said⟩ := admits_eq_false_iff.mp admitted
    rw [judgeAddress_of_denylisted said]
    rfl

/-! ## The decision -/

/-- What becomes of a request that names these addresses. -/
structure Decides (named : Set String) (h : Headers) (snapshot : Snapshot) (now : Int) : Prop where
  /-- An allowed address wins. -/
  allowlisted : ∀ s, resolve (some snapshot) h now = .allowlisted s ↔
    (named ∩ Listed snapshot.allow now).Nonempty ∧ s.members = named ∩ Listed snapshot.allow now
  /-- A denied one counts where none is allowed. -/
  denylisted : ∀ s, resolve (some snapshot) h now = .denylisted s ↔
    named ∩ Listed snapshot.allow now = ∅ ∧ (named ∩ Listed snapshot.deny now).Nonempty ∧
      s.members = named ∩ Listed snapshot.deny now
  unlisted : resolve (some snapshot) h now = .unlisted ↔
    named ∩ Listed snapshot.allow now = ∅ ∧ named ∩ Listed snapshot.deny now = ∅
  admitted : admits (some snapshot) h now = false ↔
    named ∩ Listed snapshot.allow now = ∅ ∧ (named ∩ Listed snapshot.deny now).Nonempty
  /-- The evaluator refuses exactly what is not admitted. -/
  blocked : ∀ body, (Kind.ipAddress.evaluator.judge ⟨some snapshot, now⟩ ⟨h, body⟩).blocked =
    !admits (some snapshot) h now
  refused : ∀ body, (Kind.ipAddress.evaluator.judge ⟨some snapshot, now⟩ ⟨h, body⟩).status.code =
    if admits (some snapshot) h now = true then 200 else 403
  /-- It reports what is denied, in ascending order, and nothing else. -/
  reported : admits (some snapshot) h now = false → ∀ body, ∃ addresses : List String,
    addresses.Pairwise (· < ·) ∧ {a | a ∈ addresses} = named ∩ Listed snapshot.deny now ∧
      (Kind.ipAddress.evaluator.judge ⟨some snapshot, now⟩ ⟨h, body⟩).attributes.entries =
        [("policy.ip.denylisted", ",".intercalate addresses)]

theorem decides (snapshot : Snapshot) (h : Headers) (now : Int) :
    Decides (candidates h).members h snapshot now where
  allowlisted s := resolve_allowlisted_iff
  denylisted s := resolve_denylisted_iff
  unlisted := resolve_unlisted_iff
  admitted := not_admitted_iff
  blocked body := judgeAddress_blocked ⟨some snapshot, now⟩ ⟨h, body⟩
  refused body := by
    cases admitted : admits (some snapshot) h now with
    | true =>
      have judged : (Kind.judgeAddress ⟨some snapshot, now⟩ ⟨h, body⟩).blocked = false ∧
          (Kind.judgeAddress ⟨some snapshot, now⟩ ⟨h, body⟩).status = .ok := judgeAddress_of_admitted admitted
      exact congrArg Status.code judged.2
    | false =>
      obtain ⟨s, said⟩ := admits_eq_false_iff.mp admitted
      have judged : Kind.judgeAddress ⟨some snapshot, now⟩ ⟨h, body⟩ = _ := judgeAddress_of_denylisted said
      exact congrArg (fun v => v.status.code) judged
  reported refused body := by
    obtain ⟨s, said⟩ := admits_eq_false_iff.mp refused
    obtain ⟨-, -, members⟩ := resolve_denylisted_iff.mp said
    have judged : Kind.judgeAddress ⟨some snapshot, now⟩ ⟨h, body⟩ = _ := judgeAddress_of_denylisted said
    exact ⟨s.toList, s.ascending, members, congrArg (fun v => v.attributes.entries) judged⟩

/-- A request is judged by the addresses that its headers name, under whatever spelling and in whatever of the
three forms, and by nothing else. -/
theorem resolve_decides (pairs : List (String × String)) (now : Int) :
    (∀ snapshot, Decides {a | Names pairs a} (ofList pairs) snapshot now) ∧
    (resolve none (ofList pairs) now = .unlisted ∧ admits none (ofList pairs) now = true ∧
      ∀ body, Kind.ipAddress.evaluator.judge ⟨none, now⟩ ⟨ofList pairs, body⟩ = .allow) ∧
    ∀ pairs', (∀ name ∈ ["x-real-ip", "x-forwarded-for", "x-proxyuser-ip", "forwarded", "proxy.client.addr"],
        ∀ raw, Given pairs name raw ↔ Given pairs' name raw) →
      ∀ snapshot, resolve snapshot (ofList pairs) now = resolve snapshot (ofList pairs') now ∧
        ∀ body body', Kind.ipAddress.evaluator.judge ⟨snapshot, now⟩ ⟨ofList pairs, body⟩ =
          Kind.ipAddress.evaluator.judge ⟨snapshot, now⟩ ⟨ofList pairs', body'⟩ := by
  refine ⟨fun snapshot => ?_, ⟨rfl, rfl, fun body => rfl⟩, fun pairs' same snapshot => ?_⟩
  · rw [← members_candidates]
    exact decides snapshot (ofList pairs) now
  · have headers : ∀ header ∈ addressHeaders,
        (ofList pairs).get? header.1 = (ofList pairs').get? header.1 := by
      intro header listed
      have named : header.1 ∈ addressHeaders.map Prod.fst := List.mem_map_of_mem listed
      refine Option.ext fun raw => ?_
      rw [get?_ofList_iff, get?_ofList_iff]
      exact same header.1 named raw
    have resolved := resolve_congr (candidates_congr headers) snapshot now
    refine ⟨resolved, fun body body' => ?_⟩
    show Kind.judgeAddress _ _ = Kind.judgeAddress _ _
    rw [Kind.judgeAddress, Kind.judgeAddress, resolved]

/-- An allowed address does not shield a denied one from the moment its entry expires. -/
theorem resolve_decides_at_an_expiry :
    let pairs := [("X-Forwarded-For", "10.0.0.9 ,, 10.0.0.1"), ("FORWARDED", "by=10.0.0.8")]
    let snapshot : Snapshot :=
      ⟨[⟨NameSet.ofList ["10.0.0.1"], some 5⟩], [⟨NameSet.ofList ["10.0.0.8", "10.0.0.9"], none⟩]⟩
    resolve (some snapshot) (ofList pairs) 5 = .denylisted (NameSet.ofList ["10.0.0.9"]) ∧
      {a | Names pairs a} ∩ Listed snapshot.allow 5 = ∅ := by
  intro pairs snapshot
  have resolved : resolve (some snapshot) (ofList pairs) 5 = .denylisted (NameSet.ofList ["10.0.0.9"]) := by
    decide
  obtain ⟨decided, -⟩ := resolve_decides pairs 5
  exact ⟨resolved, (((decided snapshot).denylisted _).mp resolved).1⟩

end Turnstile.Policy
