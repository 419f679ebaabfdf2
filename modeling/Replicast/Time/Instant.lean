import Replicast.Time.Duration
/-!
# Instants and deadlines

Points on a monotone clock.  The clock counts seconds in a signed 64-bit word, so adding a long span
to an instant can leave its range; a deadline that would do so is set thirty years ahead instead, and
at once where even that leaves the range.

## Overview

* `Instant.add?` is addition within the range of the clock.
* `Instant.deadlineAfter` is the deadline a timeout sets.
* `Instant.wakeup` is the first whole millisecond at which a timer for an instant can fire.
-/

namespace Replicast

/-- A point on the clock. -/
structure Instant where
  /-- Nanoseconds since the earliest point of the clock, 2^63 seconds before its zero. -/
  nanos : Nat
deriving DecidableEq, Repr

namespace Instant

/-! ## §1 The range of the clock -/

/-- The zero of the clock. -/
def zero : Instant := ⟨Nat.pow 2 63 * Duration.nanosPerSecond⟩

/-- The last instant that the clock can represent: 2^63 - 1 seconds and 999 999 999 nanoseconds after
    its zero. -/
def last : Instant := ⟨zero.nanos + (Nat.pow 2 63 - 1) * Duration.nanosPerSecond + 999999999⟩

instance : LE Instant := ⟨fun a b => a.nanos ≤ b.nanos⟩

instance (a b : Instant) : Decidable (a ≤ b) := inferInstanceAs (Decidable (a.nanos ≤ b.nanos))

instance : LT Instant := ⟨fun a b => a.nanos < b.nanos⟩

instance (a b : Instant) : Decidable (a < b) := inferInstanceAs (Decidable (a.nanos < b.nanos))

/-- The instant a span later, if the clock can represent it. -/
def add? (t : Instant) (d : Duration) : Option Instant :=
  if t.nanos + d.nanos ≤ last.nanos then some ⟨t.nanos + d.nanos⟩ else none

/-- The instant a span later, on a clock without an end. -/
def after (t : Instant) (d : Duration) : Instant := ⟨t.nanos + d.nanos⟩

theorem le_after (t : Instant) (d : Duration) : t ≤ t.after d := Nat.le_add_right _ _

/-- The span from an earlier instant to this one; zero when there is none. -/
def since (t earlier : Instant) : Duration := ⟨t.nanos - earlier.nanos⟩

/-- The span to a later instant leads there. -/
theorem after_since {t now : Instant} (h : now ≤ t) : now.after (t.since now) = t := by
  have h : now.nanos ≤ t.nanos := h
  exact congrArg Instant.mk (Nat.add_sub_cancel' h)

theorem le_after_since (t now : Instant) : t ≤ now.after (t.since now) := by
  show t.nanos ≤ now.nanos + (t.nanos - now.nanos)
  omega

/-! ## §2 Deadlines -/

/-- How far ahead a deadline lies when its timeout leaves the range of the clock. -/
def farFuture : Duration := Duration.ofSeconds (86400 * 365 * 30)

/-- The deadline that a timeout sets at an instant. -/
def deadlineAfter (now : Instant) (timeout : Duration) : Instant :=
  ((now.add? timeout).orElse fun _ => now.add? farFuture).getD now

/-- Timers fire on whole milliseconds: the first one at or after an instant. -/
def wakeup (t : Instant) : Instant :=
  ⟨(t.nanos + (Duration.nanosPerMilli - 1)) / Duration.nanosPerMilli * Duration.nanosPerMilli⟩

theorem le_wakeup (t : Instant) : t ≤ t.wakeup := by
  show t.nanos ≤ (t.nanos + (Duration.nanosPerMilli - 1)) / Duration.nanosPerMilli *
    Duration.nanosPerMilli
  unfold Duration.nanosPerMilli
  omega

end Instant

end Replicast
