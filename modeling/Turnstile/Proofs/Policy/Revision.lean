import Mathlib.Logic.Relation
import Turnstile.Proofs.Policy.Resolution
/-!
# Changes of lists and of time

What a snapshot says of a request depends on its lists only through the values they hold at the time. Larger
lists hold more (`listed_enlarges`), rearranged ones the same (`listed_rearranges`), and time takes values away
only at expiries (`listed_between`). How the outcome may change follows (`resolve_steady`).
-/
namespace Turnstile.Policy

/-- A list of entries gets an entry, or one of its entries gets values or a later expiry. -/
inductive Enlarges : List Entry → List Entry → Prop
  | added (before after : List Entry) (e : Entry) : Enlarges (before ++ after) (before ++ e :: after)
  | widened {before after : List Entry} {e : Entry} {values : NameSet}
      (more : e.values.members ⊆ values.members) :
      Enlarges (before ++ e :: after) (before ++ { e with values } :: after)
  /-- The new expiry is none, or there was one that is no later. -/
  | extended {before after : List Entry} {e : Entry} {expiry : Option Int}
      (later : ∀ t, expiry = some t → ∃ former, e.expiry = some former ∧ former ≤ t) :
      Enlarges (before ++ e :: after) (before ++ { e with expiry } :: after)

/-- A list of entries is reordered, repeats an entry, or has one cut into several. -/
inductive Rearranges : List Entry → List Entry → Prop
  | reordered {entries entries' : List Entry} (perm : entries.Perm entries') : Rearranges entries entries'
  | repeated {before after : List Entry} {e : Entry} (mem : e ∈ before ++ after) :
      Rearranges (before ++ after) (before ++ e :: after)
  | split {before after parts : List Entry} {e : Entry} (expiry : ∀ p ∈ parts, p.expiry = e.expiry)
      (union : ∀ v, v ∈ e.values.members ↔ ∃ p ∈ parts, v ∈ p.values.members) :
      Rearranges (before ++ e :: after) (before ++ parts ++ after)

/-! ## The values listed -/

section

variable {entries entries' before after : List Entry} {e : Entry} {now now' : Int}

/-- The values that one entry holds at a time. -/
def Entry.listed (e : Entry) (now : Int) : Set String := Listed [e] now

theorem mem_listed_iff {v : String} : v ∈ e.listed now ↔
    (∀ expiry, e.expiry = some expiry → now < expiry) ∧ v ∈ e.values.members := by
  simp [Entry.listed, Listed, NameSet.members]

theorem listed_eq (entries : List Entry) (now : Int) :
    Listed entries now = {v | ∃ e ∈ entries, v ∈ e.listed now} := by
  ext v
  simp [Listed, mem_listed_iff, NameSet.members]

theorem listed_append (before after : List Entry) (now : Int) :
    Listed (before ++ after) now = Listed before now ∪ Listed after now := by
  ext v
  simp only [listed_eq, List.mem_append, Set.mem_union, Set.mem_ofPred_eq, or_and_right, exists_or]

theorem listed_cons : Listed (e :: after) now = e.listed now ∪ Listed after now :=
  listed_append [e] after now

theorem listed_subset (subset : entries ⊆ entries') : Listed entries now ⊆ Listed entries' now := by
  rintro v ⟨e, mem, held⟩
  exact ⟨e, subset mem, held⟩

/-- A larger list holds no less. -/
theorem listed_enlarges (larger : Enlarges entries entries') (now : Int) :
    Listed entries now ⊆ Listed entries' now := by
  cases larger with
  | added before after e => exact listed_subset (by simp)
  | @widened before after e values more =>
    have held : e.listed now ⊆ ({ e with values } : Entry).listed now := by
      intro v mem
      obtain ⟨active, mem⟩ := mem_listed_iff.mp mem
      exact mem_listed_iff.mpr ⟨active, more mem⟩
    rw [listed_append, listed_append, listed_cons, listed_cons]
    exact Set.union_subset_union_right _ (Set.union_subset_union_left _ held)
  | @extended before after e expiry later =>
    have held : e.listed now ⊆ ({ e with expiry } : Entry).listed now := by
      intro v mem
      obtain ⟨active, mem⟩ := mem_listed_iff.mp mem
      refine mem_listed_iff.mpr ⟨fun t new => ?_, mem⟩
      obtain ⟨former, old, le⟩ := later t new
      exact Int.lt_of_lt_of_le (active former old) le
    rw [listed_append, listed_append, listed_cons, listed_cons]
    exact Set.union_subset_union_right _ (Set.union_subset_union_left _ held)

/-- A rearranged list holds the same. -/
theorem listed_rearranges (rearranged : Rearranges entries entries') (now : Int) :
    Listed entries now = Listed entries' now := by
  cases rearranged with
  | reordered perm => exact Set.Subset.antisymm (listed_subset perm.subset) (listed_subset perm.symm.subset)
  | @repeated before after e mem =>
    refine Set.Subset.antisymm (listed_subset (by simp)) (listed_subset ?_)
    intro e' mem'
    rcases List.mem_append.mp mem' with early | late
    · exact List.mem_append_left _ early
    · rcases List.mem_cons.mp late with rfl | late
      · exact mem
      · exact List.mem_append_right _ late
  | @split before after parts e expiry union =>
    have same : e.listed now = Listed parts now := by
      ext v
      rw [mem_listed_iff, union, listed_eq]
      constructor
      · rintro ⟨active, p, mem, held⟩
        exact ⟨p, mem, mem_listed_iff.mpr ⟨expiry p mem ▸ active, held⟩⟩
      · rintro ⟨p, mem, listed⟩
        obtain ⟨active, held⟩ := mem_listed_iff.mp listed
        exact ⟨expiry p mem ▸ active, p, mem, held⟩
    rw [listed_append, listed_cons, same, listed_append, listed_append, Set.union_assoc]

theorem listed_enlarged (larger : Relation.ReflTransGen Enlarges entries entries') (now : Int) :
    Listed entries now ⊆ Listed entries' now := by
  induction larger with
  | refl => exact Set.Subset.rfl
  | tail _ step ih => exact ih.trans (listed_enlarges step now)

theorem listed_rearranged (rearranged : Relation.EqvGen Rearranges entries entries') (now : Int) :
    Listed entries now = Listed entries' now := by
  induction rearranged with
  | rel _ _ step => exact listed_rearranges step now
  | refl => rfl
  | symm _ _ _ ih => exact ih.symm
  | trans _ _ _ _ _ first second => exact first.trans second

/-- Entries only ever stop to hold. -/
theorem listed_earlier (le : now ≤ now') : Listed entries now' ⊆ Listed entries now := by
  rintro v ⟨e, mem, active, held⟩
  exact ⟨e, mem, fun expiry said => Int.lt_of_le_of_lt le (active expiry said), held⟩

/-- Between two expiries nothing changes. -/
theorem listed_between (le : now ≤ now')
    (none : ∀ e ∈ entries, ∀ expiry, e.expiry = some expiry → ¬ (now < expiry ∧ expiry ≤ now')) :
    Listed entries now = Listed entries now' := by
  refine Set.Subset.antisymm ?_ (listed_earlier le)
  rintro v ⟨e, mem, active, held⟩
  refine ⟨e, mem, fun expiry said => ?_, held⟩
  have still := active expiry said
  have not := none e mem expiry said
  omega

theorem listed_permanent (permanent : ∀ e ∈ entries, e.expiry = none) (now now' : Int) :
    Listed entries now = Listed entries now' := by
  ext v
  refine exists_congr fun e => and_congr_right fun mem => and_congr_left fun _ => ?_
  simp [permanent e mem]

end

/-! ## The outcome -/

section

variable {snapshot snapshot' : Snapshot} {h : Headers} {now now' : Int}

theorem exists_denylisted_iff : (∃ s, resolve (some snapshot) h now = .denylisted s) ↔
    Allowed snapshot h now = ∅ ∧ (Denied snapshot h now).Nonempty :=
  admits_eq_false_iff.symm.trans not_admitted_iff

/-- Lists that hold the same at their times give the same outcome. -/
theorem resolve_of_listed (allow : Listed snapshot.allow now = Listed snapshot'.allow now')
    (deny : Listed snapshot.deny now = Listed snapshot'.deny now') :
    resolve (some snapshot) h now = resolve (some snapshot') h now' := by
  have allowed : activeValues snapshot.allow now = activeValues snapshot'.allow now' := by
    apply NameSet.ext_members
    rw [members_activeValues, members_activeValues, allow]
  have denied : activeValues snapshot.deny now = activeValues snapshot'.deny now' := by
    apply NameSet.ext_members
    rw [members_activeValues, members_activeValues, deny]
  simp only [resolve, allowed, denied]

/-- A request that is denylisted still is when no more is allowed and no less denied. -/
theorem denylisted_of_listed {s : NameSet} (denied : resolve (some snapshot) h now = .denylisted s)
    (allow : Listed snapshot'.allow now' ⊆ Listed snapshot.allow now)
    (deny : Listed snapshot.deny now ⊆ Listed snapshot'.deny now') :
    ∃ t, resolve (some snapshot') h now' = .denylisted t ∧ s.members ⊆ t.members := by
  obtain ⟨none, some, members⟩ := resolve_denylisted_iff.mp denied
  have less : Allowed snapshot' h now' ⊆ Allowed snapshot h now := Set.inter_subset_inter_right _ allow
  have more : Denied snapshot h now ⊆ Denied snapshot' h now' := Set.inter_subset_inter_right _ deny
  obtain ⟨t, said⟩ := exists_denylisted_iff.mpr ⟨Set.subset_eq_empty less none, some.mono more⟩
  obtain ⟨-, -, members'⟩ := resolve_denylisted_iff.mp said
  exact ⟨t, said, by rwa [members, members']⟩

end

/-- What changes of the lists and of the time can do to the outcome of a request. -/
structure Steady (snapshot : Snapshot) (h : Headers) (now : Int) : Prop where
  /-- However much is denied in addition, a denylisted request stays so, with no fewer addresses. -/
  denied : ∀ deny, Relation.ReflTransGen Enlarges snapshot.deny deny → ∀ s,
    resolve (some snapshot) h now = .denylisted s →
      ∃ t, resolve (some { snapshot with deny }) h now = .denylisted t ∧ s.members ⊆ t.members
  /-- However much is allowed in addition, a request that may pass still may. -/
  admitted : ∀ allow, Relation.ReflTransGen Enlarges snapshot.allow allow →
    admits (some snapshot) h now = true → admits (some { snapshot with allow }) h now = true
  rearranged : ∀ allow deny, Relation.EqvGen Rearranges snapshot.allow allow →
    Relation.EqvGen Rearranges snapshot.deny deny →
      resolve (some ⟨allow, deny⟩) h now = resolve (some snapshot) h now
  /-- Nothing happens but at an expiry. -/
  between : ∀ now', now ≤ now' →
    (∀ e ∈ snapshot.allow ++ snapshot.deny, ∀ expiry, e.expiry = some expiry →
      ¬ (now < expiry ∧ expiry ≤ now')) →
      resolve (some snapshot) h now' = resolve (some snapshot) h now
  /-- Where nothing stops to be allowed, whoever is denylisted has been so before. -/
  earlier : ∀ before, before ≤ now → (∀ e ∈ snapshot.allow, e.expiry = none) →
    (∃ s, resolve (some snapshot) h now = .denylisted s) →
      ∃ s, resolve (some snapshot) h before = .denylisted s

theorem resolve_steady (snapshot : Snapshot) (h : Headers) (now : Int) : Steady snapshot h now where
  denied deny larger s said :=
    denylisted_of_listed said Set.Subset.rfl (listed_enlarged larger now)
  admitted allow larger admitted := by
    by_contra refused
    rw [Bool.not_eq_true] at refused
    obtain ⟨s, said⟩ := admits_eq_false_iff.mp refused
    obtain ⟨t, former, -⟩ : ∃ t, resolve (some snapshot) h now = .denylisted t ∧ s.members ⊆ t.members :=
      denylisted_of_listed said (listed_enlarged larger now) Set.Subset.rfl
    rw [admits_eq_false_iff.mpr ⟨t, former⟩] at admitted
    cases admitted
  rearranged allow deny allowed denied :=
    (resolve_of_listed (listed_rearranged allowed now) (listed_rearranged denied now)).symm
  between now' le none := by
    refine (resolve_of_listed (listed_between le fun e mem => ?_) (listed_between le fun e mem => ?_)).symm
    · exact none e (List.mem_append_left _ mem)
    · exact none e (List.mem_append_right _ mem)
  earlier before le permanent := by
    rintro ⟨s, said⟩
    obtain ⟨t, former, -⟩ : ∃ t, resolve (some snapshot) h before = .denylisted t ∧ s.members ⊆ t.members :=
      denylisted_of_listed said (listed_permanent permanent before now).subset (listed_earlier le)
    exact ⟨t, former⟩

/-- An address that is allowed until 5 and denied for good passes at 4 as at 3, and no longer at 5. -/
theorem resolve_steady_until_an_expiry :
    let address := NameSet.ofList ["10.0.0.1"]
    let snapshot : Snapshot := ⟨[⟨address, some 5⟩], [⟨address, none⟩]⟩
    let h := Headers.ofList [("X-Real-IP", "10.0.0.1")]
    resolve (some snapshot) h 3 = .allowlisted address ∧
      resolve (some snapshot) h 4 = resolve (some snapshot) h 3 ∧
      resolve (some snapshot) h 5 = .denylisted address := by
  intro address snapshot h
  refine ⟨by decide, ?_, by decide⟩
  apply (resolve_steady snapshot h 3).between 4 (by decide)
  intro e mem expiry said
  simp only [snapshot, List.cons_append, List.nil_append, List.mem_cons, List.not_mem_nil, or_false] at mem
  rcases mem with rfl | rfl
  · cases said
    decide
  · cases said

end Turnstile.Policy
