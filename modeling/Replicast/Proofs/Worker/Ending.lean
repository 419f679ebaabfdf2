import Replicast.Proofs.Worker.Transition
/-!
# The ends of a worker

A worker ends in one of seven ways, and how it ended shows in the outcome that it leaves behind.

## Overview

* `Worker.interruption_cases` says why a worker can have to stop.
* `Worker.Ending` lists the ends, each with its outcome, and `Worker.Transition.ending` finds the one
  of a move.
-/

namespace Replicast

/-! ## §1 Reasons to stop -/

/-- What an interrupted worker reports is the deadline exactly if it has come. -/
theorem Plan.interruptionError_cases (p : Plan) (now : Instant) (head : RequestHead) :
    (p.deadline ≤ now ∧ p.interruptionError now head =
        .deadlineExceeded p.timeout.millis head.method head.redactedUri) ∨
      (now < p.deadline ∧
        p.interruptionError now head = .cancelled head.method head.redactedUri) := by
  unfold interruptionError
  by_cases hdeadline : p.deadline ≤ now
  · exact .inl ⟨hdeadline, if_pos hdeadline⟩
  · exact .inr ⟨Nat.lt_of_not_le hdeadline, if_neg hdeadline⟩

namespace Worker

variable {p : Plan} {stop : Option Error} {openings : Nat} {w : Worker} {s : Signal} {m : Move}
  {o : Outcome}

/-- A worker that must stop was cancelled before the deadline, or the deadline has come. -/
theorem interruption_cases {c : Clock} {cancelled : Bool} {e : Error}
    (h : w.interruption p c cancelled = some e) :
    (p.deadline ≤ c.now ∧
        e = .deadlineExceeded p.timeout.millis w.request.method w.request.redactedUri) ∨
      (c.now < p.deadline ∧ cancelled = true ∧
        e = .cancelled w.request.method w.request.redactedUri) := by
  obtain ⟨hwhy, rfl⟩ := interruption_eq_some.mp h
  rcases p.interruptionError_cases c.now w.request with ⟨hlate, herror⟩ | ⟨hearly, herror⟩
  · exact .inl ⟨hlate, herror⟩
  · -- A worker that is late is so because the deadline has come.
    refine .inr ⟨hearly, hwhy.resolve_right fun hlate => ?_, herror⟩
    exact Nat.not_le.mpr hearly (deadline_le_of_isLate hlate)

/-! ## §2 Ends -/

/-- An outcome of the worker's own target, with the attempts that it has begun. -/
def report (w : Worker) (response : Option ResponseHead) (body : Bytes) (error : Option Error) :
    Outcome :=
  ⟨w.target, w.request, response, body, error, w.attempts⟩

/-- The ends of a worker, given why it must stop, if it must. -/
inductive Ending (p : Plan) (stop : Option Error) (w : Worker) : Signal → Outcome → Prop where
  /-- Stopped before there was a final response. -/
  | stopped {s : Signal} {e : Error} :
      stop = some e → w.isBeforeResponse = true → Ending p stop w s (w.report none [] (some e))
  /-- Stopped while the final response was read. -/
  | stoppedReading {s : Signal} {e : Error} {head : ResponseHead} {reader : BoundedReader} :
      stop = some e → w.phase = .reading head reader →
      Ending p stop w s (w.report (some head) [] (some e))
  /-- No fresh copy of the body could be opened for a further attempt. -/
  | unopened {cause : String} :
      stop = none → w.phase = .ready → w.initial = none → p.replays w.request = true →
      Ending p stop w .turn
        (w.nextAttempt.report none []
          (some (.bodyReplay w.request.method w.request.redactedUri cause)))
  /-- The transport failed at the last attempt allowed. -/
  | failed {f : TransportFailure} :
      stop = none → w.phase = .sending → p.retryPolicy.maxAttempts ≤ w.attempts →
      Ending p stop w (.answer (.failure f)) (w.report none [] (some (w.transportError f)))
  /-- The body of the final response could not be read. -/
  | unread {f : Frame} {fault : BodyFault} {head : ResponseHead} {reader : BoundedReader} :
      stop = none → w.phase = .reading head reader →
      Ending p stop w (.frame f) (w.report (some head) [] (some (w.bodyError p fault)))
  /-- The body of the final response was read to its end. -/
  | read {head : ResponseHead} {reader : BoundedReader} :
      stop = none → w.phase = .reading head reader →
      Ending p stop w .bodyEnd (w.report (some head) reader.taken none)
  /-- Torn down by a panic of what the worker was waiting for. -/
  | aborted :
      stop = none → w.isWaiting = true →
      Ending p stop w .panic
        (Outcome.failed w.target w.request
          (.workerAborted w.request.method w.request.redactedUri))

/-- **Every move with an outcome is one of the ends.** -/
theorem Transition.ending (h : Transition p stop openings w s m) (ho : m.outcome = some o) :
    Ending p stop w s o := by
  cases h with
  | stay _ | enter _ | resume _ _ => cases ho
  | stop hstop hphase =>
    obtain rfl := Option.some.inj ho
    exact .stopped hstop hphase
  | stopReading hstop hphase =>
    obtain rfl := Option.some.inj ho
    exact .stoppedReading hstop hphase
  | attempt hstop hphase =>
    -- An attempt ends the worker only when its copy of the body cannot be opened.
    have hattempt := attempt_attempt p openings w
    generalize w.attempt p openings = m at hattempt ho
    cases hattempt with
    | initial _ | fresh _ _ _ | empty _ _ => cases ho
    | unopened hinitial hreplays _ hm =>
      subst hm
      obtain rfl := Option.some.inj ho
      exact .unopened hstop hphase hinitial hreplays
  | receive a hstop hphase =>
    have hreception := receive_reception p w a
    generalize w.receive p a = m at hreception ho
    cases hreception with
    | final _ | failedAgain _ => cases ho
    | @again head _ _ =>
      unfold retryAfter at ho
      cases hbackoff : p.retryPolicy.backoffAfter head.status <;> simp [hbackoff] at ho
    | failed hlast =>
      obtain rfl := Option.some.inj ho
      exact .failed hstop hphase hlast
  | @frame head reader f hstop hphase =>
    unfold readFrame at ho
    cases hread : reader.step p.maxResponseBodyBytes f with
    | ok next => simp [hread] at ho
    | error fault =>
      simp only [hread] at ho
      obtain rfl := Option.some.inj ho
      exact .unread hstop hphase
  | bodyEnd hstop hphase =>
    obtain rfl := Option.some.inj ho
    exact .read hstop hphase
  | panic hstop hwaiting =>
    obtain rfl := Option.some.inj ho
    exact .aborted hstop hwaiting

/-- Only a live worker ends. -/
theorem Ending.isLive (h : Ending p stop w s o) : w.isLive = true := by
  cases h with
  | stopped _ hphase => exact isLive_of_isBeforeResponse hphase
  | stoppedReading _ hphase | unopened _ hphase _ _ | failed _ hphase _ | unread _ hphase
  | read _ hphase => exact isLive_of_phase hphase (by simp)
  | aborted _ hwaiting => exact isLive_of_isWaiting hwaiting

end Worker

end Replicast
