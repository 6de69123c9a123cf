import SchemaBootstrap.Config.Settings
import SchemaBootstrap.Store.Program

/-! # Waiting until a store answers

A store is pinged until it answers or answers with an error that would come again,
at most once more than retries are granted (`waitUntilReady`). How many retries the
settings grant follows from a schedule of intervals: each is half as long again as
the one before, up to the maximum, and a retry is granted when its interval ends
within the time that may elapse altogether (`RetrySettings.retries`).
-/

namespace SchemaBootstrap

namespace RetrySettings

/-- The interval after an interval. -/
def nextInterval (maximum interval : Nat) : Nat :=
  if 2 * maximum ≤ 3 * interval then maximum else interval * 3 / 2

theorem nextInterval_zero (maximum : Nat) : nextInterval maximum 0 = 0 := by
  unfold nextInterval
  split <;> omega

/-- The retries that are granted when some time has elapsed and an interval is next.
An interval that no longer changes is not waited for one by one; every attempt takes
at least one unit of time. -/
def retriesFrom (budget maximum elapsed interval : Nat) : Nat :=
  let next := nextInterval maximum interval
  if budget < elapsed + interval then 0
  else if stable : next = interval then (budget - elapsed - interval) / max 1 interval + 1
  else retriesFrom budget maximum (elapsed + max 1 interval) next + 1
termination_by budget - elapsed
decreasing_by
  have positive : 0 < interval := by
    rcases Nat.eq_zero_or_pos interval with zero | positive
    · subst zero
      exact absurd (nextInterval_zero maximum) stable
    · exact positive
  omega

/-- Milliseconds in the unit of time of the schedule. -/
def nanoseconds (milliseconds : UInt64) : Nat :=
  milliseconds.toNat * 1000000

/-- The number of retries that the settings grant to a store that never answers. -/
def retries (settings : RetrySettings) : Nat :=
  retriesFrom (nanoseconds settings.maximumElapsed) (nanoseconds settings.maximumBackoff) 1
    (nanoseconds settings.initialBackoff)

end RetrySettings

/-- Pings a store until it answers, and once more for each retry as long as it
cannot be reached. -/
def waitUntilReady : (retries : Nat) → Program StoreError Unit
  | 0 => Program.request .ping
  | retries + 1 =>
    .call .ping fun answer =>
      match answer with
      | .ok () => .done (.ok ())
      | .error error => if error.transient then waitUntilReady retries else .done (.error error)

end SchemaBootstrap
