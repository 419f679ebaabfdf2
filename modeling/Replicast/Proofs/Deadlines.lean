import Replicast.Proofs.Engine.Origin
/-!
# The order of deadlines

A deadline lies its timeout ahead, as far as the clock goes.  All timeouts that the clock does not
reach share one deadline, which lies thirty years ahead or, near the end of the clock, at once.  So
deadlines follow their timeouts up to the end of the clock, but those beyond it come earlier than
some of those within it.

## Overview

* `Instant.reach` is how far ahead of an instant the clock goes, and `Instant.fallback` how far ahead
  the deadline of a timeout beyond that lies.
* `Instant.deadlineAfter_eq` says that a deadline lies `Instant.lead` ahead, and
  `Instant.deadlineAfter_le_iff` which of two deadlines comes first.
* `Instant.deadlineAfter_ordered` is the result, and `Engine.run_deadlines` says the same of any two
  batches that a client begins at one instant.
-/

namespace Replicast

/-! ## §1 How far ahead a deadline lies -/

namespace Instant

variable {now : Instant} {t u : Duration}

/-- The longest span that the clock can add to an instant. -/
def reach (now : Instant) : Duration := last.since now

/-- How far ahead the deadline of every timeout lies that is out of reach. -/
def fallback (now : Instant) : Duration := if farFuture ≤ now.reach then farFuture else ⟨0⟩

/-- How far ahead the deadline of a timeout lies. -/
def lead (now : Instant) (timeout : Duration) : Duration :=
  if timeout ≤ now.reach then timeout else now.fallback

/-- The clock adds what is within its reach. -/
theorem add?_eq (hnow : now ≤ last) (d : Duration) :
    now.add? d = if d ≤ now.reach then some ⟨now.nanos + d.nanos⟩ else none := by
  have hfits : now.nanos + d.nanos ≤ last.nanos ↔ d ≤ now.reach :=
    (Nat.le_sub_iff_add_le' hnow).symm
  simp only [add?, hfits]

theorem deadlineAfter_eq (hnow : now ≤ last) (timeout : Duration) :
    now.deadlineAfter timeout = ⟨now.nanos + (now.lead timeout).nanos⟩ := by
  unfold deadlineAfter lead fallback
  rw [add?_eq hnow, add?_eq hnow]
  by_cases htimeout : timeout ≤ now.reach
  · simp [htimeout]
  · by_cases hfar : farFuture ≤ now.reach <;> simp [htimeout, hfar]

/-- At the end of the clock even a nanosecond is over at once. -/
example : last.deadlineAfter ⟨1⟩ = last := by decide

/-! ## §2 The order of two deadlines -/

/-- No deadline is in the past. -/
theorem le_deadlineAfter (hnow : now ≤ last) (timeout : Duration) :
    now ≤ now.deadlineAfter timeout := by
  rw [deadlineAfter_eq hnow]
  exact Nat.le_add_right _ _

/-- A longer timeout falls behind exactly where the end of the clock lies between the two, and the
    shorter one goes farther than what stands for the longer one. -/
theorem lead_le_iff (htu : t ≤ u) :
    now.lead t ≤ now.lead u ↔ ¬ (t ≤ now.reach ∧ now.reach < u ∧ now.fallback < t) := by
  unfold lead
  by_cases hu : u ≤ now.reach
  · -- Both are within reach and lie as far ahead as they say.
    have ht : t ≤ now.reach := Nat.le_trans htu hu
    have hwithin : ¬ now.reach < u := Nat.not_lt.mpr hu
    simp [ht, hu, hwithin, htu]
  · have hbeyond : now.reach < u := Nat.not_le.mp hu
    by_cases ht : t ≤ now.reach
    · -- The end of the clock lies between them, and only the fallback tells.
      simp only [ht, hu, hbeyond, true_and, if_true, if_false]
      exact Nat.not_lt.symm
    · -- Both are out of reach and share their deadline.
      simp only [ht, hu, false_and, not_false_eq_true, if_false, iff_true]
      exact Nat.le_refl _

theorem deadlineAfter_le_iff (hnow : now ≤ last) (htu : t ≤ u) :
    now.deadlineAfter t ≤ now.deadlineAfter u ↔
      ¬ (t ≤ now.reach ∧ now.reach < u ∧ now.fallback < t) := by
  rw [deadlineAfter_eq hnow, deadlineAfter_eq hnow, ← lead_le_iff htu]
  exact Nat.add_le_add_iff_left

/-- **A longer timeout gives no earlier deadline, up to the end of the clock.**  At every instant
    that the clock can represent, no deadline is in the past, and of two timeouts the longer one
    gives no earlier deadline, with one exception: the longer one is out of the clock's reach, the
    shorter one is not, and it is longer than thirty years, or than nothing if thirty years are out
    of reach as well. -/
theorem deadlineAfter_ordered (hnow : now ≤ last) (htu : t ≤ u) :
    now ≤ now.deadlineAfter t ∧ now ≤ now.deadlineAfter u ∧
    (now.deadlineAfter t ≤ now.deadlineAfter u ↔
      ¬ (t ≤ now.reach ∧ now.reach < u ∧ now.fallback < t)) :=
  ⟨le_deadlineAfter hnow t, le_deadlineAfter hnow u, deadlineAfter_le_iff hnow htu⟩

/-- At the clock's zero a timeout of thirty years gives no later deadline than the longest one: the
    two share it. -/
theorem deadlineAfter_ordered_shared :
    zero ≤ last ∧ farFuture ≤ Duration.max ∧ zero.reach < Duration.max ∧
      zero ≤ zero.deadlineAfter farFuture ∧
      zero.deadlineAfter farFuture ≤ zero.deadlineAfter Duration.max := by
  have hnow : zero ≤ last := by decide
  have htu : farFuture ≤ Duration.max := by decide
  obtain ⟨hfuture, _, horder⟩ := deadlineAfter_ordered hnow htu
  exact ⟨hnow, htu, by decide, hfuture, horder.mpr (by decide)⟩

/-- The longest timeout gives an earlier deadline than one of a thousand million seconds. -/
theorem deadlineAfter_disordered :
    ¬ ∀ (now : Instant) (t u : Duration), now ≤ last → t ≤ u → u ≤ Duration.max →
      now.deadlineAfter t ≤ now.deadlineAfter u ∧
        now ≤ now.deadlineAfter t ∧ now ≤ now.deadlineAfter u := by
  intro hall
  have horder := (hall zero (Duration.ofSeconds 1000000000) Duration.max
    (by decide) (by decide) (by decide)).1
  exact absurd horder (by decide)

end Instant

/-! ## §3 Batches that begin at one instant -/

namespace Engine

/-- The batch that an event of a run begins has its deadline from the instant of the event. -/
theorem run_deadline (client : Client) (now : Instant) (before after : List Event) {event : Event}
    {op : Operation} (hop : event.operation? = some op) :
    ∃ b, ((start client now).run (before ++ event :: after)).1.batches[
        ((start client now).run before).1.batches.length]? = some b ∧
      b.plan.deadline =
        ((start client now).run before).1.now.deadlineAfter (op.timeoutFor client) := by
  obtain ⟨b, hb, hplan⟩ := run_planned client now before after hop
  have hclient : ((start client now).run before).1.client = client :=
    run_client (start client now) before
  refine ⟨b, hb, ?_⟩
  calc b.plan.deadline
      = ((start client now).run before).1.now.deadlineAfter
          (op.timeoutFor ((start client now).run before).1.client) := by rw [hplan]; rfl
    _ = _ := by rw [hclient]

/-- **Of two batches that a client begins at one instant, the one with the longer timeout has no
    earlier deadline**, up to the end of the clock: whatever happens before, between and after. -/
theorem run_deadlines (client : Client) (now : Instant)
    {before after before' after' : List Event} {event event' : Event} {op op' : Operation}
    (hop : event.operation? = some op) (hop' : event'.operation? = some op')
    (hsame : before ++ event :: after = before' ++ event' :: after') :
    let last := ((start client now).run (before ++ event :: after)).1
    let first := ((start client now).run before).1
    let first' := ((start client now).run before').1
    first.now ≤ Instant.last → first.now = first'.now →
    op.timeoutFor client ≤ op'.timeoutFor client →
    ∃ b b', last.batches[first.batches.length]? = some b ∧
      last.batches[first'.batches.length]? = some b' ∧
      first.now ≤ b.plan.deadline ∧ first.now ≤ b'.plan.deadline ∧
      (b.plan.deadline ≤ b'.plan.deadline ↔
        ¬ (op.timeoutFor client ≤ first.now.reach ∧ first.now.reach < op'.timeoutFor client ∧
          first.now.fallback < op.timeoutFor client)) := by
  intro last first first' hnow htime htimeout
  obtain ⟨b, hb, hdeadline⟩ := run_deadline client now before after hop
  obtain ⟨b', hb', hdeadline'⟩ := run_deadline client now before' after' hop'
  rw [← hsame] at hb'
  rw [← htime] at hdeadline'
  refine ⟨b, b', hb, hb', ?_⟩
  rw [hdeadline, hdeadline']
  exact ⟨Instant.le_deadlineAfter hnow _, Instant.le_deadlineAfter hnow _,
    Instant.deadlineAfter_le_iff hnow htimeout⟩

end Engine

end Replicast
