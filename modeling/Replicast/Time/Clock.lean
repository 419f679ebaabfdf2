import Replicast.Time.Instant
/-!
# Clocks and timers

Everybody can read a clock at any instant, but whoever sleeps until an instant is woken by a timer.
Timers are looked after from time to time only, and they count in whole milliseconds, so that a
timer fires at its instant or somewhat later, and never before it.

## Overview

* `Clock.pass` lets time pass, and `Clock.tick` looks after the timers.
* `Clock.hasFired` says whether the timer for an instant has fired; `Clock.le_now_of_hasFired` says
  that its instant has come then.
-/

namespace Replicast

/-- A clock and its timers. -/
structure Clock where
  now : Instant
  /-- The instant at which the timers were looked after last. -/
  ticked : Instant
  ticked_le : ticked ≤ now

namespace Clock

/-! ## §1 Time -/

/-- A clock whose timers were looked after just now. -/
def startingAt (now : Instant) : Clock := ⟨now, now, Nat.le_refl _⟩

/-- Time passes, and nobody looks after the timers. -/
def pass (c : Clock) (d : Duration) : Clock :=
  ⟨c.now.after d, c.ticked, Nat.le_trans c.ticked_le (c.now.le_after d)⟩

/-- The timers are looked after. -/
def tick (c : Clock) : Clock := startingAt c.now

/-! ## §2 Timers -/

/-- Whether the timer for an instant has fired. -/
def hasFired (c : Clock) (t : Instant) : Bool := t.wakeup ≤ c.ticked

theorem hasFired_iff {c : Clock} {t : Instant} : c.hasFired t = true ↔ t.wakeup ≤ c.ticked := by
  simp [hasFired]

/-- A timer fires no earlier than at its first whole millisecond. -/
theorem wakeup_le_of_hasFired {c : Clock} {t : Instant} (h : c.hasFired t = true) :
    t.wakeup ≤ c.now :=
  Nat.le_trans (hasFired_iff.mp h) c.ticked_le

/-- A timer does not fire before its instant. -/
theorem le_now_of_hasFired {c : Clock} {t : Instant} (h : c.hasFired t = true) : t ≤ c.now :=
  Nat.le_trans t.le_wakeup (wakeup_le_of_hasFired h)

/-- When the timers were looked after just now, those that are due have fired. -/
theorem hasFired_tick {c : Clock} {t : Instant} :
    c.tick.hasFired t = true ↔ t.wakeup ≤ c.now :=
  hasFired_iff

/-- Whoever waits for a timer finds it fired. -/
theorem hasFired_of_wait (c : Clock) (t : Instant) :
    (c.pass (t.wakeup.since c.now)).tick.hasFired t = true :=
  hasFired_tick.mpr (t.wakeup.le_after_since c.now)

end Clock

end Replicast
