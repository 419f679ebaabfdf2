import Replicast.Proofs.Ledger
import Replicast.Proofs.Worker.Ending
/-!
# One outcome per target

Every target of a batch gets exactly one outcome.  A target whose request could not be built is
posted by the dispatch, a worker posts at its end, and a worker that is torn down by a panic leaves
an outcome behind that says so.

## Overview

* `Outcome.isAborted` and `Engine.Panicked` are the two sides of a panic.
* `Worker.Posts` says how the posts for a target stand with its worker, and `Engine.run_posts` that
  they stand so in every run.
* `Engine.run_delivers` is the result for whole batches.
-/

namespace Replicast

/-! ## §1 Panics -/

/-- Whether an outcome only says that its worker was torn down. -/
def Outcome.isAborted (o : Outcome) : Bool :=
  o.error.any fun e => e.code == .workerAborted

namespace Engine

/-- Whether a panic of what a worker waits for would reach it: the worker is waiting, and neither a
    cancellation nor the timer for the deadline wakes it first. -/
def isExposed (e : Engine) (number position : Nat) : Bool :=
  e.batches[number]?.any fun b =>
    !b.isAlarmed e.toClock e.tokens && b.workers[position]?.any Worker.isWaiting

/-- Whether the worker at a position panicked in a run. -/
def Panicked (e : Engine) (events : List Event) (number position : Nat) : Prop :=
  ∃ before after, events = before ++ .signal number position .panic :: after ∧
    (e.run before).1.isExposed number position = true

/-- A worker panicked when it did so before, or at the last event. -/
theorem panicked_concat {e : Engine} {events : List Event} {event : Event}
    {number position : Nat} :
    e.Panicked (events ++ [event]) number position ↔
      e.Panicked events number position ∨
        (event = .signal number position .panic ∧
          (e.run events).1.isExposed number position = true) := by
  constructor
  · rintro ⟨before, after, hsplit, hexposed⟩
    -- The panic is the last event, or it is among those before.
    rcases List.eq_nil_or_concat after with rfl | ⟨after, last, rfl⟩
    · obtain ⟨rfl, hlast⟩ := List.append_inj' hsplit rfl
      exact .inr ⟨by simpa using hlast, hexposed⟩
    · rw [List.concat_eq_append, ← List.cons_append, ← List.append_assoc] at hsplit
      obtain ⟨rfl, _⟩ := List.append_inj' hsplit rfl
      exact .inl ⟨before, after, rfl, hexposed⟩
  · rintro (⟨before, after, rfl, hexposed⟩ | ⟨rfl, hexposed⟩)
    · exact ⟨before, after ++ [event], by simp, hexposed⟩
    · exact ⟨events, [], rfl, hexposed⟩

/-- Before a batch begins, none of its workers can panic. -/
theorem not_panicked_of_unborn {e : Engine} {events : List Event} {number : Nat}
    (hnone : (e.run events).1.batches[number]? = none) (position : Nat) :
    ¬ e.Panicked events number position := by
  rintro ⟨before, after, rfl, hexposed⟩
  unfold isExposed at hexposed
  cases hbefore : (e.run before).1.batches[number]? with
  | none => simp [hbefore] at hexposed
  | some b =>
    -- A batch that was there then is there still.
    obtain ⟨later, hlater, _⟩ := run_persists (.signal number position .panic :: after) hbefore
    rw [run_append] at hnone
    simp [hlater] at hnone

end Engine

/-! ## §2 One worker -/

namespace Worker

variable {p : Plan} {stop : Option Error} {openings : Nat} {w : Worker} {s : Signal} {m : Move}

theorem attempt_phase (p : Plan) (openings : Nat) (w : Worker) :
    (w.attempt p openings).worker.phase ≠ .aborted := by
  have h := attempt_attempt p openings w
  generalize w.attempt p openings = m at h
  cases h with
  | initial _ | fresh _ _ _ | empty _ _ => simp [send]
  | unopened _ _ _ hm => simp [hm, fail, finish]

theorem receive_phase (p : Plan) (w : Worker) (a : Answer) :
    (w.receive p a).worker.phase ≠ .aborted := by
  have h := receive_reception p w a
  generalize w.receive p a = m at h
  cases h with
  | final _ => simp [readFrom]
  | @again head _ _ =>
    unfold retryAfter
    cases p.retryPolicy.backoffAfter head.status <;> simp
  | failed _ => simp [fail, finish]
  | failedAgain _ => simp

/-- Only a panic tears a worker down, and only while it waits and need not stop. -/
theorem Transition.aborted_iff (h : Transition p stop openings w s m) :
    m.worker.phase = .aborted ↔
      w.phase = .aborted ∨ (s = .panic ∧ stop = none ∧ w.isWaiting = true) := by
  cases h with
  | stay hdeaf =>
    refine ⟨.inl, fun hor => hor.elim id ?_⟩
    -- A waiting worker is not deaf to a panic.
    rintro ⟨rfl, _, hwaiting⟩
    simp [awaits, hwaiting] at hdeaf
  | enter hp => simp [hp]
  | stop hstop hp =>
    -- A worker that is stopped was live, and it is finished afterwards.
    have hlive := isLive_of_isBeforeResponse hp
    simp [fail, finish, hstop]
    rintro hphase
    simp [isLive, hphase] at hlive
  | stopReading hstop hp => simp [failReading, finish, hstop, hp]
  | attempt _ hp => simp [attempt_phase, hp]
  | receive a _ hp => simp [receive_phase, hp]
  | resume _ hp => simp [hp]
  | @frame head reader f _ hp =>
    unfold readFrame
    cases reader.step p.maxResponseBodyBytes f <;> simp [failReading, finish, hp]
  | bodyEnd _ hp => simp [succeed, finish, hp]
  | panic hstop hwaiting => simp [abort, hstop, hwaiting]

/-- The outcome of a worker says that it was torn down exactly when it was, as long as being stopped
    is something else. -/
theorem Transition.isAborted_iff (h : Transition p stop openings w s m)
    (hstop : ∀ e, stop = some e → e.code ≠ .workerAborted) {o : Outcome}
    (ho : m.outcome = some o) : o.isAborted = true ↔ m.worker.phase = .aborted := by
  have hending := h.ending ho
  have hbefore : w.phase ≠ .aborted := by
    intro hphase
    have hlive := hending.isLive
    simp [isLive, hphase] at hlive
  rw [h.aborted_iff, or_iff_right hbefore]
  cases hending with
  -- The outcome carries the reason to stop, which is no panic.
  | stopped hstopped _ | stoppedReading hstopped _ =>
    simp [Outcome.isAborted, report, hstopped, hstop _ hstopped]
  | unopened _ _ _ _ | read _ _ => simp [Outcome.isAborted, report, Error.code]
  | failed _ _ _ => simp [Outcome.isAborted, report, transportError, Error.code]
  -- Both faults of a body have errors of their own.
  | @unread _ fault _ _ _ _ =>
    cases fault <;> simp [Outcome.isAborted, report, bodyError, Error.code]
  | aborted hnone hwaiting =>
    simp [Outcome.isAborted, Outcome.failed, Error.code, hnone, hwaiting]

/-- How the outcomes that were posted for a target stand with its worker: none while the worker is
    live and one afterwards, which is of the worker's target and says whether the worker was torn
    down. -/
structure Posts (panicked : Prop) (w : Worker) (posted : List Outcome) : Prop where
  owed : w.isLive = true → posted = []
  paid : w.isLive = false → ∃ o, posted = [o] ∧ o.target = w.target ∧
    (o.isAborted = true ↔ w.phase = .aborted)
  panicked : w.phase = .aborted ↔ panicked

/-- A new worker owes its outcome, and a target without one has got the reason why. -/
theorem posts_workerOf (pre : Operation.Preparation)
    (hcode : ∀ e, pre.copy = .error e → e.code ≠ .workerAborted) {panicked : Prop}
    (hnot : ¬ panicked) : Posts panicked (Engine.workerOf pre) pre.failure?.toList := by
  unfold Engine.workerOf Operation.Preparation.failure?
  cases hcopy : pre.copy with
  -- A worker that was started owes its outcome; the others are paid at once.
  | ok copy => exact ⟨fun _ => rfl, by simp [isLive], by simp [hnot]⟩
  | error e =>
    refine ⟨by simp [isLive], fun _ => ⟨_, rfl, rfl, ?_⟩, by simp [hnot]⟩
    simp [Outcome.isAborted, Outcome.failed, hcode e hcopy]

/-- A move posts what is owed. -/
theorem Posts.transition {panicked : Prop} {posted : List Outcome}
    (hposts : Posts panicked w posted) (h : Transition p stop openings w s m)
    (hstop : ∀ e, stop = some e → e.code ≠ .workerAborted) :
    Posts (panicked ∨ (s = .panic ∧ stop = none ∧ w.isWaiting = true)) m.worker
      (posted ++ m.outcome.toList) := by
  have haborted := h.aborted_iff
  rw [hposts.panicked] at haborted
  rcases h.lawful.progress with ⟨hnone, hlive⟩ | ⟨o, hends⟩
  -- Without an outcome the worker is as live as it was.
  · rw [hnone, Option.toList_none, List.append_nil]
    refine ⟨fun hl => hposts.owed (hlive ▸ hl), fun hl => ?_, haborted⟩
    obtain ⟨o, hposted, htarget, hiff⟩ := hposts.paid (hlive ▸ hl)
    refine ⟨o, hposted, htarget.trans h.lawful.target.symm, hiff.trans ?_⟩
    -- A worker that is not live any more stays as it is.
    rw [haborted, hposts.panicked]
    refine ⟨.inl, fun hor => hor.elim id fun ⟨_, _, hwaiting⟩ => ?_⟩
    rw [hlive, isLive_of_isWaiting hwaiting] at hl
    cases hl
  -- With one it was live, had posted nothing, and has ended.
  · rw [hposts.owed hends.wasLive, hends.outcome]
    refine ⟨fun hl => ?_, fun _ => ⟨o, rfl, ?_, h.isAborted_iff hstop hends.outcome⟩, haborted⟩
    · rw [hends.ended] at hl
      cases hl
    · rw [hends.target, h.lawful.target]

theorem Posts.length_le {panicked : Prop} {posted : List Outcome} (h : Posts panicked w posted) :
    posted.length ≤ 1 := by
  cases hlive : w.isLive with
  | true => simp [h.owed hlive]
  | false =>
    obtain ⟨o, rfl, _⟩ := h.paid hlive
    exact Nat.le_refl 1

end Worker

/-! ## §3 Whole batches -/

namespace Engine

variable {client : Client} {now : Instant}

/-- Workers are stopped by the deadline or by a cancellation. -/
theorem stopFor_reason {b : Batch} {e : Engine} {w : Worker} {error : Error}
    (h : b.stopFor e w = some error) :
    error.code = .deadlineExceeded ∨ error.code = .cancelled := by
  rcases Worker.interruption_cases h with ⟨_, rfl⟩ | ⟨_, _, rfl⟩
  · exact .inl rfl
  · exact .inr rfl

/-- To be stopped is no panic. -/
theorem stopFor_code {b : Batch} {e : Engine} {w : Worker} {error : Error}
    (h : b.stopFor e w = some error) : error.code ≠ .workerAborted := by
  rcases stopFor_reason h with hcode | hcode <;> simp [hcode]

/-- In every run, every worker has posted what it owes. -/
theorem run_posts (events : List Event) {number position : Nat} {b : Batch} {w : Worker}
    (hb : ((start client now).run events).1.batches[number]? = some b)
    (hw : b.workers[position]? = some w) :
    w.Posts ((start client now).Panicked events number position)
      ((((start client now).run events).2.of number).postedAt position) := by
  -- The invariant of the induction is `Worker.Posts`, for the panics of the events so far.
  refine worker_induction
    (P := fun events _ w effects =>
      w.Posts ((start client now).Panicked events number position)
        (effects.filterMap Effect.posted?)) ?_ ?_ ?_ events hb hw
  · intro events event targets b d preparations p hlength hnew hp
    -- A new worker has not panicked, since no event before concerns it.
    have hnone : ((start client now).run events).1.batches[number]? = none := by simp [hlength]
    have hnot : ¬ (start client now).Panicked (events ++ [event]) number position := by
      rw [panicked_concat]
      rintro (hbefore | ⟨_, hexposed⟩)
      · exact not_panicked_of_unborn hnone position hbefore
      · simp [isExposed, hnone] at hexposed
    rw [hnew.here position p hp, p.doings_posted]
    refine Worker.posts_workerOf p (fun e he => ?_) hnot
    have hbuild := hnew.failure p (List.mem_of_getElem? hp) e he
    intro hcode
    simp [Error.isBuildError, hcode, ErrorCode.isBuildError] at hbuild
  · intro events b w effects s hb hw hposts
    have h := Worker.step_transition b.plan (b.stopFor ((start client now).run events).1 w)
      ((start client now).run events).1.openings w s
    -- A panic reaches the worker exactly when it would be a transition of its own.
    have hexposed : ((start client now).run events).1.isExposed number position = true ↔
        b.stopFor ((start client now).run events).1 w = none ∧ w.isWaiting = true := by
      simp only [isExposed, hb, Option.any_some, hw, Bool.and_eq_true, Bool.not_eq_true']
      exact and_congr_left fun hwaiting => (Batch.stopFor_eq_none_iff hwaiting).symm
    have hafter := hposts.transition h fun _ => stopFor_code
    rw [List.filterMap_append, h.lawful.posted, panicked_concat, hexposed]
    simpa using hafter
  · intro events event plan w effects hother hposts
    -- No other event is a panic of this worker.
    have hsame : (start client now).Panicked (events ++ [event]) number position ↔
        (start client now).Panicked events number position := by
      rw [panicked_concat]
      exact ⟨fun h => h.elim id fun ⟨hpanic, _⟩ => absurd hpanic (hother _), .inl⟩
    rwa [hsame]

/-- The batch that an event begins is there for good, with its targets and its room. -/
theorem run_begun (before after : List Event) {event : Event} {targets : List Target}
    (htargets : event.targets? = some targets) :
    ∃ b, ((start client now).run (before ++ event :: after)).1.batches[
        ((start client now).run before).1.batches.length]? = some b ∧
      b.workers.map Worker.target = targets ∧ b.channel.capacity = max targets.length 1 := by
  obtain ⟨last, hlast, b, d, hbirth, hkept⟩ := run_born client now before after htargets
  obtain ⟨preparations, hnew⟩ := hbirth.newborn
  exact ⟨last, hlast, hkept.targets.trans hnew.targets, hkept.capacity.trans hnew.capacity⟩

/-- **Every target gets exactly one outcome**: no position posts twice, no post finds the channel of
    the batch full, and when no worker of the batch is live any more, every position has posted one
    outcome, which is of its target and says whether its worker panicked. -/
theorem run_delivers (client : Client) (now : Instant) (before after : List Event) {event : Event}
    {targets : List Target} (htargets : event.targets? = some targets) :
    let number := ((start client now).run before).1.batches.length
    let events := before ++ event :: after
    let doings := ((start client now).run events).2.of number
    ∃ b, ((start client now).run events).1.batches[number]? = some b ∧
      b.size = targets.length ∧
      b.channel.capacity = max targets.length 1 ∧
      (∀ place o, (place, Effect.posted o .full) ∉ doings) ∧
      (∀ place o posting, (place, Effect.posted o posting) ∈ doings →
        ∃ i < targets.length, place = some i) ∧
      (∀ i, (doings.postedAt i).length ≤ 1) ∧
      (b.hasLive = false → ∀ i (hi : i < targets.length),
        ∃ o, doings.postedAt i = [o] ∧ o.target = targets[i] ∧
          (o.isAborted = true ↔ (start client now).Panicked events number i)) := by
  intro number events doings
  obtain ⟨b, hb, hcarried, hcapacity⟩ : ∃ b, _ ∧ _ := run_begun before after htargets
  have hsize : b.size = targets.length := by rw [← hcarried, List.length_map]; rfl
  have hledger : b.Ledger doings := run_ledger events hb
  have hposts {i : Nat} {w : Worker} (hw : b.workers[i]? = some w) :
      w.Posts ((start client now).Panicked events number i) (doings.postedAt i) :=
    run_posts events hb hw
  refine ⟨b, hb, hsize, hcapacity, ?_, ?_, ?_, ?_⟩
  · intro place o hfull
    have hroom := hledger.noOverflow _ hfull
    cases hroom
  · intro place o posting hposted
    rw [← hsize]
    exact hledger.placed _ hposted (by simp [Effect.posted?])
  · intro i
    rcases Nat.lt_or_ge i b.workers.length with hlt | hge
    · exact (hposts (List.getElem?_eq_getElem hlt)).length_le
    · rw [hledger.postedAt_of_le hge]
      exact Nat.zero_le 1
  · intro hover i hi
    have hlt : i < b.workers.length := by rwa [← hcarried, List.length_map] at hi
    have hended : b.workers[i].isLive = false := by
      have hall := List.any_eq_false.mp hover b.workers[i] (List.getElem_mem hlt)
      simpa using hall
    obtain ⟨o, hposted, htarget, hiff⟩ := (hposts (List.getElem?_eq_getElem hlt)).paid hended
    refine ⟨o, hposted, ?_, hiff.trans (hposts (List.getElem?_eq_getElem hlt)).panicked⟩
    rw [htarget]
    simp [← hcarried]

/-- Two targets that are the same, and one between them whose request cannot be built. -/
def mixedTargets : List Target := [⟨0, "http://a"⟩, ⟨1, "::"⟩, ⟨0, "http://a"⟩]

/-- The first target answers, and the worker of the last one panics. -/
def mixedSignals : List Event :=
  [.signal 0 0 .turn, .signal 0 2 .turn, .signal 0 0 .turn, .signal 0 2 .turn, .signal 0 2 .panic,
    .signal 0 0 (.answer (.response ⟨Status.ok, .http11, Header.Map.empty⟩)),
    .signal 0 0 .bodyEnd]

/-- What becomes of a batch for `mixedTargets`. -/
def mixedEvents : List Event := .dispatch (.new .get "x") mixedTargets :: mixedSignals

/-- The batch for `mixedTargets` ends with one outcome for each of them. -/
theorem run_delivers_mixed :
    (Event.dispatch (.new .get "x") mixedTargets).targets? = some mixedTargets ∧
      ∃ b, (plain.run mixedEvents).1.batches[0]? = some b ∧ b.hasLive = false ∧
        ∀ i (hi : i < mixedTargets.length),
          ∃ o, ((plain.run mixedEvents).2.of 0).postedAt i = [o] ∧
            o.target = mixedTargets[i] ∧
            (o.isAborted = true ↔ plain.Panicked mixedEvents 0 i) := by
  have htargets : (Event.dispatch (.new .get "x") mixedTargets).targets? = some mixedTargets := rfl
  have hover : ((plain.run mixedEvents).1.batches[0]?.all fun b => !b.hasLive) = true := by
    decide +kernel
  have hzero : (plain.run []).1.batches.length = 0 := rfl
  have hdelivers :=
    run_delivers (ClientBuilder.ofConfig .standard).build ⟨0⟩ [] mixedSignals htargets
  rw [← plain, hzero, List.nil_append, ← mixedEvents] at hdelivers
  obtain ⟨b, hb, _, _, _, _, _, hdelivered⟩ := hdelivers
  rw [hb] at hover
  have hended : b.hasLive = false := by simpa using hover
  exact ⟨htargets, b, hb, hended, hdelivered hended⟩

end Engine

end Replicast
