import Turnstile.Policy.Address
/-!
# Policy snapshots

Two lists of addresses, each entry with the time it expires or with none. Resolving a request against
a snapshot looks at the entries still active: an allowed address wins over a denied one, and a
request that names neither is on no list.
-/
namespace Turnstile.Policy

/-- Values that hold until a time, in milliseconds; without one they hold for good. -/
structure Entry where
  values : NameSet
  expiry : Option Int
deriving DecidableEq

/-- Whether the entry still holds: it ends at its expiry. -/
def Entry.isActive (e : Entry) (now : Int) : Bool :=
  match e.expiry with
  | none => true
  | some expiry => now < expiry

/-- The allow list and the deny list. -/
structure Snapshot where
  allow : List Entry
  deny : List Entry
deriving DecidableEq

/-- The values of all entries still active. -/
def activeValues (entries : List Entry) (now : Int) : NameSet :=
  NameSet.ofList ((entries.filter (·.isActive now)).flatMap fun e => e.values.toList)

/-- What a snapshot says about a request. -/
inductive Resolution
  /-- These of its addresses are allowed. -/
  | allowlisted (addresses : NameSet)
  /-- None is allowed, and these are denied. -/
  | denylisted (addresses : NameSet)
  | unlisted
deriving DecidableEq

/-- What the snapshot says about a request with these headers at a time. -/
def resolve (snapshot : Option Snapshot) (headers : Headers) (now : Int) : Resolution :=
  match snapshot with
  | none => .unlisted
  | some snapshot =>
    let named := candidates headers
    let allowed := named.inter (activeValues snapshot.allow now)
    if !allowed.isEmpty then .allowlisted allowed
    else
      let denied := named.inter (activeValues snapshot.deny now)
      if !denied.isEmpty then .denylisted denied else .unlisted

/-- Whether a request may pass. -/
def admits (snapshot : Option Snapshot) (headers : Headers) (now : Int) : Bool :=
  match resolve snapshot headers now with
  | .denylisted _ => false
  | _ => true

end Turnstile.Policy
