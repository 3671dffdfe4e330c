import Turnstile.Command.Replay
import Turnstile.Proofs.Exchange.Isolation
/-!
# A replay between its requests

Whatever the requests of a replay were, between any two of them nothing is attached to any stream and no
call is under way.
-/
namespace Turnstile.Command

open Capture

/-- What holds of a monitor before a request and after it. -/
structure Clean (m : Monitor) : Prop where
  sound : m.Sound
  registry : m.registry = .empty
  depth : m.depth = .idle

namespace Clean

variable {m m' : Monitor}

theorem restored (clean : Clean m) (restored : Monitor.Restored m m') : Clean m' :=
  ⟨restored.sound, restored.registry.trans clean.registry, restored.depth.trans clean.depth⟩

/-- Nothing is left to sweep. -/
theorem sweep (clean : Clean m) : m.sweep = m := by
  have swept : m.registry.sweep m.resources.isAlive = m.registry := by
    apply Registry.ext_store
    intro k
    have empty : m.registry.store k = .empty := by
      rw [clean.registry]
      exact Registry.store_empty k
    rw [Registry.store_sweep, empty]
    exact Store.eq_of_slots rfl
  rw [Monitor.sweep, swept]

end Clean

namespace Replay

theorem start_clean (config : Config) (moment : Policy.Moment) (file : Log.LogFile) :
    Clean (start config moment file).monitor :=
  ⟨Monitor.start_sound _ _ _, rfl, rfl⟩

/-- Lines that come after others are met where those have left the replay, unless they ended it. -/
theorem run_append (stamps : Nat → Log.Stamp) (r : Replay) (before after : List Bytes) :
    run stamps r (before ++ after) =
      match run stamps r before with
      | (none, r) => run stamps r after
      | ended => ended := by
  induction before generalizing r with
  | nil => rfl
  | cons line rest ih =>
    rw [List.cons_append, run, run]
    cases Text.Utf8.decode? line with
    | none => rfl
    | some text =>
      cases went : r.next (stamps r.processed) text with
      | error cause => simp only [went]
      | ok r' => simpa only [went] using ih r'

end Replay
end Turnstile.Command
