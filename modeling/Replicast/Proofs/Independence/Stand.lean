import Mathlib.Computability.StateTransition
import Replicast.Proofs.Independence.Agenda
import Replicast.Proofs.Interruption
import Replicast.Proofs.Ledger
/-!
# The course of one target

In given surroundings the course of a target is determined: by the preparation of its request, the
plan, and the requests that went to the same authority before.

## Overview

* `Stand` is where a target stands, with all that was sent and posted for it.
* `Stand.next` is the next stand.
* `Stand.eq_of_reaches` says that a course has one end, and `Stand.exists_end` that it has one.
-/

namespace Replicast

open StateTransition

/-- Whether every copy of a body is like every other. -/
def RequestBody.IsRepeatable (b : RequestBody) : Prop :=
  ∀ first second, b.openCopy first = b.openCopy second

/-! ## §1 The moves of a worker -/

namespace Worker

variable {p : Plan} {stop : Option Error} {openings : Nat} {w : Worker} {s : Signal} {m : Move}

private theorem finish_unsent {events : List Log.Event} {o : Outcome} {head : RequestHead}
    {body : Stream} (h : Effect.sent head body ∈ (w.finish events o).effects) : False := by
  rcases mem_finish_effects h with ⟨event, heq⟩ | heq | heq <;> cases heq

/-- A worker sends its own request only. -/
theorem Transition.sent (h : Transition p stop openings w s m) {head : RequestHead}
    {body : Stream} (hsent : .sent head body ∈ m.effects) : head = w.request.rebuilt := by
  cases h with
  | stay _ => cases hsent
  | enter _ | resume _ _ | panic _ _ => simp [abort] at hsent
  | bodyEnd _ _ => exact (finish_unsent hsent).elim
  | stop _ _ | stopReading _ _ => exact (finish_unsent hsent).elim
  | attempt _ _ =>
    have hmove := attempt_attempt p openings w
    generalize w.attempt p openings = m at hmove hsent
    cases hmove with
    | initial _ | fresh _ _ _ | empty _ _ => simp_all [send, nextAttempt]
    | unopened _ _ _ hm => simp [hm, fail, finish] at hsent
  | receive a _ _ =>
    have hmove := receive_reception p w a
    generalize w.receive p a = m at hmove hsent
    cases hmove with
    | final _ => simp [readFrom] at hsent
    | @again head _ _ =>
      unfold retryAfter at hsent
      cases hbackoff : p.retryPolicy.backoffAfter head.status <;> simp [hbackoff] at hsent
    | failed _ => simp [fail, finish] at hsent
    | failedAgain _ => simp at hsent
  | @frame head reader f _ _ =>
    unfold readFrame at hsent
    cases hread : reader.step p.maxResponseBodyBytes f with
    | ok next => simp [hread] at hsent
    | error fault =>
      rw [hread] at hsent
      exact (finish_unsent hsent).elim

/-- A repeatable body is the same at every opening. -/
theorem step_openings (h : p.body.IsRepeatable) (w : Worker) (stop : Option Error)
    (first second : Nat) (s : Signal) : w.step p stop first s = w.step p stop second s := by
  have hattempt : w.attempt p first = w.attempt p second := by
    simp only [attempt, h first second]
  unfold step
  rw [hattempt]

/-- The first turn is the same whether or not the worker must stop. -/
theorem step_queued (h : w.phase = .queued) (stop : Option Error) (s : Signal) :
    w.step p stop openings s = w.step p none 0 s := by
  unfold step
  rw [h]

/-- A worker that must stop, once it is noticed, stops in one way. -/
theorem step_stopped (h : w.phase ≠ .queued) (e : Error) (s : Signal) :
    w.step p (some e) openings s = w.stay ∨
      w.step p (some e) openings s = w.step p (some e) 0 .turn := by
  unfold step
  cases hp : w.phase with
  | queued => exact absurd hp h
  -- Before an attempt only a turn makes the worker look.
  | ready => cases s <;> simp
  | unbuilt | finished | aborted | sending | pausing | reading _ _ => simp

end Worker

/-! ## §2 Stands -/

/-- Where a target stands, with the requests that were sent and the outcomes that were posted. -/
structure Stand where
  worker : Worker
  agenda : Agenda
  sent : List Sending
  posted : List Outcome

namespace Stand

/-- Where a target stands when its operation is dispatched. -/
def start (now : Instant) (p : Operation.Preparation) : Stand :=
  ⟨Engine.workerOf p, ⟨now, []⟩, [], p.failure?.toList⟩

/-- What a worker that is late ends with. -/
def lateness (p : Plan) (w : Worker) : Error :=
  .deadlineExceeded p.timeout.millis w.request.method w.request.redactedUri

/-- The instant from which on a worker finds the deadline passed. -/
def cutoff (p : Plan) (w : Worker) : Instant :=
  match w.phase with
  | .ready => p.deadline
  | _ => p.deadline.wakeup

variable (env : Surroundings) (p : Plan) (earlier : List Sending)

/-- The stand after a signal has reached the worker at an instant. -/
def hear (s : Stand) (time : Instant) (signal : Signal) : Stand :=
  let m := s.worker.step p none 0 signal
  let sent := s.sent ++ m.effects.filterMap (Effect.sending? time)
  { worker := m.worker
    agenda := (s.agenda.reached s.worker time).follow env (fun _ => earlier ++ sent) time m.effects
    sent
    posted := s.posted ++ m.outcome.toList }

/-- The stand after the deadline has stopped the worker. -/
def expire (s : Stand) : Stand :=
  let m := s.worker.step p (some (lateness p s.worker)) 0 .turn
  { s with worker := m.worker, posted := s.posted ++ m.outcome.toList }

/-- The next stand: the worker is reached by what comes next, unless that comes too late.  The
    first turn is never too late. -/
def next (s : Stand) : Option Stand :=
  if s.worker.isLive then
    match s.agenda.upcoming s.worker with
    | some (time, signal) =>
      if time < cutoff p s.worker ∨ s.worker.phase = .queued then
        some (s.hear env p earlier time signal)
      else some (s.expire p)
    | none => some (s.expire p)
  else none

variable {env p earlier} {s s₁ s₂ : Stand}

theorem hear_agenda (time : Instant) (signal : Signal) :
    (s.hear env p earlier time signal).agenda =
      (s.agenda.reached s.worker time).follow env
        (fun _ => earlier ++ (s.hear env p earlier time signal).sent) time
        (s.worker.step p none 0 signal).effects := rfl

theorem next_of_ended (h : s.worker.isLive = false) : s.next env p earlier = none := by
  simp [next, h]

/-- Only an end has no next stand. -/
theorem ended_of_next (h : s.next env p earlier = none) : s.worker.isLive = false := by
  unfold next at h
  split at h
  · repeat' split at h
    all_goals cases h
  · simp_all

theorem next_hear (hlive : s.worker.isLive = true) {time : Instant} {signal : Signal}
    (hupcoming : s.agenda.upcoming s.worker = some (time, signal))
    (htime : time < cutoff p s.worker ∨ s.worker.phase = .queued) :
    s.next env p earlier = some (s.hear env p earlier time signal) := by
  simp [next, hlive, hupcoming, htime]

theorem next_expire (hlive : s.worker.isLive = true) (hphase : s.worker.phase ≠ .queued)
    (hlate : ∀ time signal, s.agenda.upcoming s.worker = some (time, signal) →
      cutoff p s.worker ≤ time) :
    s.next env p earlier = some (s.expire p) := by
  cases hupcoming : s.agenda.upcoming s.worker with
  | none => simp [next, hlive, hupcoming]
  | some due =>
    have htime : ¬ due.1 < cutoff p s.worker := Nat.not_lt.mpr (hlate due.1 due.2 hupcoming)
    simp [next, hlive, hupcoming, htime, hphase]

/-- The two ways in which a target goes on. -/
theorem next_cases {t : Stand} (h : s.next env p earlier = some t) :
    s.worker.isLive = true ∧
      ((∃ time signal, s.agenda.upcoming s.worker = some (time, signal) ∧
          (time < cutoff p s.worker ∨ s.worker.phase = .queued) ∧
          t = s.hear env p earlier time signal) ∨
        (s.worker.phase ≠ .queued ∧
          (∀ time signal, s.agenda.upcoming s.worker = some (time, signal) →
            cutoff p s.worker ≤ time) ∧
          t = s.expire p)) := by
  have hlive : s.worker.isLive = true := by
    by_contra hended
    rw [next_of_ended (by simpa using hended)] at h
    cases h
  refine ⟨hlive, ?_⟩
  by_cases hheard : ∃ time signal, s.agenda.upcoming s.worker = some (time, signal) ∧
      (time < cutoff p s.worker ∨ s.worker.phase = .queued)
  · obtain ⟨time, signal, hupcoming, htime⟩ := hheard
    rw [next_hear hlive hupcoming htime] at h
    exact .inl ⟨time, signal, hupcoming, htime, (Option.some.inj h).symm⟩
  -- A first turn is heard in any case.
  · have hphase : s.worker.phase ≠ .queued := fun hphase =>
      hheard ⟨_, _, if_pos (Worker.awaits_turn.mpr (.inl hphase)), .inr hphase⟩
    have hnone : ∀ time signal, s.agenda.upcoming s.worker = some (time, signal) →
        cutoff p s.worker ≤ time := fun time signal hupcoming =>
      Nat.le_of_not_lt fun htime => hheard ⟨time, signal, hupcoming, .inl htime⟩
    rw [next_expire hlive hphase hnone] at h
    exact .inr ⟨hphase, hnone, (Option.some.inj h).symm⟩

/-- The first turn only makes the worker ready. -/
theorem hear_queued (h : s.worker.phase = .queued) :
    s.hear env p earlier s.agenda.since .turn =
      { s with worker := { s.worker with phase := .ready } } := by
  have hstep : s.worker.step p none 0 .turn =
      ⟨{ s.worker with phase := .ready }, [.entered], none⟩ := by
    unfold Worker.step
    rw [h]
  simp [hear, hstep, Agenda.reached, Agenda.follow, Worker.awaits_turn.mpr (.inl h),
    Effect.sending?]

/-- A course has one end. -/
theorem eq_of_reaches (h₁ : Reaches (next env p earlier) s s₁)
    (h₂ : Reaches (next env p earlier) s s₂) (hended₁ : s₁.worker.isLive = false)
    (hended₂ : s₂.worker.isLive = false) : s₁ = s₂ :=
  Part.mem_unique (mem_eval.mpr ⟨h₁, next_of_ended hended₁⟩)
    (mem_eval.mpr ⟨h₂, next_of_ended hended₂⟩)

end Stand

/-! ## §3 Stands and the clock -/

namespace Stand

variable {env : Surroundings} {p : Plan} {earlier : List Sending} {s : Stand} {now : Instant}
  {c : Clock} {w : Worker}

/-- Before an attempt a worker finds the deadline passed at once, and elsewhere at the first whole
    millisecond. -/
theorem cutoff_cases (p : Plan) (w : Worker) :
    (w.phase = .ready ∧ cutoff p w = p.deadline) ∨
      (w.phase ≠ .ready ∧ cutoff p w = p.deadline.wakeup) := by
  unfold cutoff
  cases hphase : w.phase <;> simp

theorem cutoff_le_wakeup (p : Plan) (w : Worker) : cutoff p w ≤ p.deadline.wakeup := by
  rcases cutoff_cases p w with ⟨_, h⟩ | ⟨_, h⟩
  · rw [h]
    exact p.deadline.le_wakeup
  · exact Nat.le_of_eq (congrArg Instant.nanos h)

theorem isLate_of_ready (h : w.phase = .ready) :
    w.isLate p c = true ↔ p.deadline ≤ c.now := by
  simp [Worker.isLate, h]

theorem isLate_of_not_ready (h : w.phase ≠ .ready) : w.isLate p c = c.hasFired p.deadline := by
  unfold Worker.isLate
  split
  · contradiction
  · rfl

/-- A worker that finds the deadline passed does so rightly. -/
theorem cutoff_le_of_isLate (h : w.isLate p c = true) : cutoff p w ≤ c.now := by
  rcases cutoff_cases p w with ⟨hready, hcutoff⟩ | ⟨hnot, hcutoff⟩
  · rw [hcutoff]
    exact (isLate_of_ready hready).mp h
  · rw [hcutoff]
    rw [isLate_of_not_ready hnot] at h
    exact Clock.wakeup_le_of_hasFired h

/-- When no timer is late, the worker finds the deadline passed from the cutoff on. -/
theorem isLate_of_cutoff_le (hprompt : c.now < p.deadline.wakeup ∨ c.hasFired p.deadline = true)
    (h : cutoff p w ≤ c.now) : w.isLate p c = true := by
  rcases cutoff_cases p w with ⟨hready, hcutoff⟩ | ⟨hnot, hcutoff⟩
  · exact (isLate_of_ready hready).mpr (hcutoff ▸ h)
  · rw [isLate_of_not_ready hnot]
    rw [hcutoff] at h
    exact hprompt.resolve_left (Nat.not_lt.mpr h)

/-- No timer is late when all of them were looked after just now. -/
theorem prompt_tick (c : Clock) (t : Instant) :
    c.tick.now < t.wakeup ∨ c.tick.hasFired t = true := by
  rcases Nat.lt_or_ge c.now.nanos t.wakeup.nanos with hearly | hlate
  · exact .inl hearly
  · exact .inr (Clock.hasFired_tick.mpr hlate)

/-- A stand that is up to date: the worker has missed nothing that would have reached it. -/
def IsTimely (p : Plan) (now : Instant) (s : Stand) : Prop :=
  ∀ time signal, s.agenda.upcoming s.worker = some (time, signal) →
    now ≤ time ∨ cutoff p s.worker ≤ time

theorem hear_timely (time : Instant) (signal : Signal) :
    (s.hear env p earlier time signal).IsTimely p time := by
  have hsince : (s.hear env p earlier time signal).agenda.since = time :=
    Agenda.follow_since _ _ _ rfl
  intro later next hupcoming
  left
  rcases Agenda.upcoming_cases hupcoming with ⟨_, rfl, _⟩ | ⟨_, _, d, _, _, rfl⟩
  · exact Nat.le_of_eq (congrArg Instant.nanos hsince.symm)
  · rw [hsince]
    exact time.le_after d

/-- After its first turn the worker has the next one at the same instant. -/
theorem enter_timely (hphase : s.worker.phase = .queued) (h : s.IsTimely p now) :
    (s.hear env p earlier s.agenda.since .turn).IsTimely p now := by
  rw [hear_queued hphase]
  intro time signal hready
  obtain ⟨rfl, _⟩ : s.agenda.since = time ∧ .turn = signal := by
    simpa [Agenda.upcoming, Worker.awaits] using hready
  -- The clock says that the deadline has passed no later than the timer.
  refine (h _ .turn (if_pos (Worker.awaits_turn.mpr (.inl hphase)))).imp id fun hlate => ?_
  have hwakeup : cutoff p s.worker = p.deadline.wakeup := by simp [cutoff, hphase]
  exact Nat.le_trans p.deadline.le_wakeup (hwakeup ▸ hlate)

/-- Nothing comes for a worker that has ended. -/
theorem upcoming_of_ended (h : s.worker.isLive = false) : s.agenda.upcoming s.worker = none := by
  cases hupcoming : s.agenda.upcoming s.worker with
  | none => rfl
  | some due =>
    obtain ⟨time, signal⟩ := due
    rw [Worker.isLive_of_awaits (Agenda.awaits_of_upcoming hupcoming)] at h
    cases h

/-- A worker that is stopped has finished. -/
theorem expire_worker (hlive : s.worker.isLive = true) (hphase : s.worker.phase ≠ .queued) :
    (s.expire p).worker = { s.worker with phase := .finished } := by
  unfold expire Worker.step
  dsimp only
  cases hp : s.worker.phase with
  | queued => exact absurd hp hphase
  | unbuilt | finished | aborted => simp [Worker.isLive, hp] at hlive
  | ready | sending | pausing | reading _ _ => rfl

theorem expire_timely (hlive : s.worker.isLive = true) (hphase : s.worker.phase ≠ .queued)
    (now : Instant) : (s.expire p).IsTimely p now := by
  intro time signal hupcoming
  rw [upcoming_of_ended (by rw [expire_worker hlive hphase]; rfl)] at hupcoming
  cases hupcoming

end Stand

/-! ## §4 Courses end -/

/-- What a phase has still to do within its attempt. -/
def Phase.toil : Phase → Nat
  | .queued => 4
  | .sending => 3
  | .pausing => 2
  | .ready | .reading _ _ => 1
  | .unbuilt | .finished | .aborted => 0

namespace Worker

variable {p : Plan} {openings : Nat} {w : Worker} {s : Signal} {m : Move}

/-- A worker that may begin another attempt has not had all of them. -/
def IsWithin (p : Plan) (w : Worker) : Prop :=
  w.phase = .queued ∨ w.phase = .ready ∨ w.phase = .pausing →
    w.attempts ≤ p.retryPolicy.maxAttempts

/-- A bound on what a worker has still to do, the frames of its final response apart. -/
def toil (p : Plan) (w : Worker) : Nat :=
  5 * (p.retryPolicy.maxAttempts + 1 - w.attempts) + w.phase.toil

/-- A move leaves a worker less to do, or it was a frame. -/
structure Toils (p : Plan) (w : Worker) (m : Move) : Prop where
  within : IsWithin p m.worker
  toil : m.worker.toil p < w.toil p ∨
    (m.worker.toil p = w.toil p ∧ m.effects = [] ∧ w.awaits .turn = false)

theorem toil_lt {v : Worker} (hattempts : v.attempts = w.attempts)
    (hphase : v.phase.toil < w.phase.toil) : v.toil p < w.toil p := by
  rw [toil, toil, hattempts]
  omega

theorem within_of_ended (h : w.isLive = false) : IsWithin p w := by
  intro hphase
  rcases hphase with hphase | hphase | hphase <;> simp [isLive, hphase] at h

/-- A worker that ends has less to do, namely nothing. -/
theorem toil_of_ended {v : Worker} (hlive : w.isLive = true) (hended : v.isLive = false)
    (hattempts : v.attempts = w.attempts) : v.toil p < w.toil p := by
  refine toil_lt hattempts ?_
  unfold isLive at hlive hended
  cases hw : w.phase <;> cases hv : v.phase <;> simp_all [Phase.toil]

/-- A move within an attempt, to a phase that has less to do. -/
theorem Toils.of_phase (hwithin : IsWithin p m.worker)
    (hattempts : m.worker.attempts = w.attempts) (hphase : m.worker.phase.toil < w.phase.toil) :
    Toils p w m :=
  ⟨hwithin, .inl (toil_lt hattempts hphase)⟩

/-- The end of a live worker. -/
theorem Toils.of_ended (hlive : w.isLive = true) (hended : m.worker.isLive = false)
    (hattempts : m.worker.attempts = w.attempts) : Toils p w m :=
  ⟨within_of_ended hended, .inl (toil_of_ended hlive hended hattempts)⟩

/-- Beginning an attempt uses it up. -/
theorem Attempt.toils (h : Attempt p openings w m) (hphase : w.phase = .ready)
    (hwithin : IsWithin p w) : Toils p w m := by
  have hle := hwithin (.inr (.inl hphase))
  cases h with
  | initial _ | fresh _ _ _ | empty _ _ =>
    refine ⟨by simp [IsWithin, send], .inl ?_⟩
    simp only [toil, send, nextAttempt, Phase.toil, hphase]
    omega
  | unopened _ _ _ hm =>
    subst hm
    refine ⟨by simp [IsWithin, fail, finish], .inl ?_⟩
    simp only [toil, fail, finish, nextAttempt, Phase.toil, hphase]
    omega

/-- An answer leads to another attempt only when one is left. -/
theorem Reception.toils {a : Answer} (h : Reception p w a m) (hphase : w.phase = .sending) :
    Toils p w m := by
  have hlive := isLive_of_phase hphase (by simp)
  cases h with
  | final _ =>
    exact .of_phase (by simp [IsWithin, readFrom]) rfl (by simp [readFrom, Phase.toil, hphase])
  | @again head _ hlt =>
    unfold retryAfter
    cases p.retryPolicy.backoffAfter head.status with
    | none => exact .of_phase (fun _ => Nat.le_of_lt hlt) rfl (by simp [Phase.toil, hphase])
    | some d => exact .of_phase (fun _ => Nat.le_of_lt hlt) rfl (by simp [Phase.toil, hphase])
  | failed _ => exact .of_ended hlive rfl rfl
  | failedAgain hlt =>
    exact .of_phase (fun _ => Nat.le_of_lt hlt) rfl (by simp [Phase.toil, hphase])

/-- What a worker waits for leaves it less to do. -/
theorem Transition.toils (h : Transition p none openings w s m) (hawaits : w.awaits s = true)
    (hwithin : IsWithin p w) : Toils p w m := by
  have hlive := isLive_of_awaits hawaits
  cases h with
  | stay hdeaf => simp [hdeaf] at hawaits
  | stop hstop _ | stopReading hstop _ => cases hstop
  | enter hp => exact .of_phase (fun _ => hwithin (.inl hp)) rfl (by simp [Phase.toil, hp])
  | attempt _ hp => exact (attempt_attempt p openings w).toils hp hwithin
  | receive a _ hp => exact (receive_reception p w a).toils hp
  | resume _ hp =>
    exact .of_phase (fun _ => hwithin (.inr (.inr hp))) rfl (by simp [Phase.toil, hp])
  | @frame head reader f _ hp =>
    unfold readFrame
    cases reader.step p.maxResponseBodyBytes f with
    -- The worker goes on reading: only the frames that are left get fewer.
    | ok next =>
      exact ⟨by simp [IsWithin], .inr ⟨by simp [toil, Phase.toil, hp], rfl, by simp [awaits, hp]⟩⟩
    | error fault => exact .of_ended hlive rfl rfl
  | bodyEnd _ _ => exact .of_ended hlive rfl rfl
  | panic _ _ => exact .of_ended hlive rfl rfl

end Worker

namespace Stand

open Worker

variable {env : Surroundings} {p : Plan} {earlier : List Sending} {s t : Stand}

/-- The next stand leaves less to do, or fewer frames to come. -/
theorem next_toils (h : s.next env p earlier = some t) (hwithin : IsWithin p s.worker) :
    IsWithin p t.worker ∧ (t.worker.toil p < s.worker.toil p ∨
      (t.worker.toil p = s.worker.toil p ∧ t.agenda.coming.length < s.agenda.coming.length)) := by
  obtain ⟨hlive, ⟨time, signal, hupcoming, _, rfl⟩ | ⟨hphase, _, rfl⟩⟩ := next_cases h
  · have hmove := (step_transition p none 0 s.worker signal).toils
      (Agenda.awaits_of_upcoming hupcoming) hwithin
    refine ⟨hmove.within, hmove.toil.imp id fun ⟨heq, hquiet, hturn⟩ => ⟨heq, ?_⟩⟩
    rcases Agenda.upcoming_cases hupcoming with ⟨hturned, _⟩ | ⟨_, _, ms, rest, hcoming, _⟩
    · rw [hturned] at hturn
      cases hturn
    · simp [hear, hquiet, Agenda.follow, Agenda.reached, hturn, hcoming]
  · rw [expire_worker hlive hphase]
    exact ⟨within_of_ended rfl, .inl (toil_of_ended hlive rfl rfl)⟩

/-- Every course comes to its end. -/
theorem exists_end (s : Stand) (hwithin : IsWithin p s.worker) :
    ∃ last, Reaches (next env p earlier) s last ∧ last.worker.isLive = false := by
  cases hnext : s.next env p earlier with
  | none => exact ⟨s, .refl, ended_of_next hnext⟩
  | some t =>
    have htoils := next_toils hnext hwithin
    obtain ⟨last, hreaches, hended⟩ := exists_end t htoils.1
    exact ⟨last, .head hnext hreaches, hended⟩
termination_by (toil p s.worker, s.agenda.coming.length)
decreasing_by
  rcases htoils.2 with hlt | ⟨heq, hshorter⟩
  · exact .left _ _ hlt
  · rw [heq]
    exact .right _ hshorter

/-- A target has all of its attempts before it when its operation is dispatched. -/
theorem start_within (now : Instant) (pre : Operation.Preparation) :
    IsWithin p (start now pre).worker := by
  intro _
  simp only [start, Engine.workerOf]
  cases pre.copy <;> exact Nat.zero_le _

/-- From every stand of a course its end is reached. -/
theorem exists_end_of_reaches {now : Instant} {pre : Operation.Preparation}
    (h : Reaches (next env p earlier) (start now pre) s) :
    ∃ last, Reaches (next env p earlier) s last ∧ last.worker.isLive = false := by
  obtain ⟨last, hlast, hended⟩ : ∃ last, Reaches (next env p earlier) (start now pre) last ∧ _ :=
    exists_end (start now pre) (start_within now pre)
  refine ⟨last, (reaches_total h hlast).elim id fun hback => ?_, hended⟩
  -- A course does not go on after its end.
  have hmem := mem_eval.mpr ⟨hlast, next_of_ended hended⟩
  rw [(eval_maximal hmem).mp hback]
  exact .refl

/-! ## §5 Outcomes -/

/-- A target has an outcome exactly if its worker has ended. -/
structure IsPaid (s : Stand) : Prop where
  owed : s.worker.isLive = true → s.posted = []
  paid : s.worker.isLive = false → ∃ o, s.posted = [o]

theorem start_paid (now : Instant) (pre : Operation.Preparation) : (start now pre).IsPaid := by
  have hlive : (start now pre).worker.isLive = pre.failure?.isNone := Batch.isLive_workerOf pre
  have hposted : (start now pre).posted = pre.failure?.toList := rfl
  constructor
  all_goals rw [hlive, hposted]; cases pre.failure? <;> simp

/-- A move of a live worker pays what is owed. -/
theorem IsPaid.move {m : Move} (h : s.IsPaid) (hlive : s.worker.isLive = true)
    (hm : s.worker.Lawful m) (hworker : t.worker = m.worker)
    (hposted : t.posted = s.posted ++ m.outcome.toList) : t.IsPaid := by
  rw [h.owed hlive, List.nil_append] at hposted
  rcases hm.progress with ⟨hnone, hsame⟩ | ⟨o, hends⟩
  · refine ⟨fun _ => by rw [hposted, hnone]; rfl, fun hended => ?_⟩
    rw [hworker, hsame, hlive] at hended
    cases hended
  · refine ⟨fun h => ?_, fun _ => ⟨o, by rw [hposted, hends.outcome]; rfl⟩⟩
    rw [hworker, hends.ended] at h
    cases h

/-- In a course every outcome is posted when it is owed. -/
theorem IsPaid.of_reaches {now : Instant} {pre : Operation.Preparation}
    (h : Reaches (next env p earlier) (start now pre) s) : s.IsPaid := by
  induction h with
  | refl => exact start_paid now pre
  | @tail s t _ hnext ih =>
    have hmove (stop : Option Error) (signal : Signal) :=
      (step_transition p stop 0 s.worker signal).lawful
    -- The worker has heard something, or it was stopped.
    obtain ⟨hlive, ⟨time, signal, _, _, rfl⟩ | ⟨_, _, rfl⟩⟩ := next_cases hnext
    · exact ih.move hlive (hmove none signal) rfl rfl
    · exact ih.move hlive (hmove _ .turn) rfl rfl

end Stand

end Replicast
