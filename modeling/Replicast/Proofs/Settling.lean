import Replicast.Proofs.Conservation
import Replicast.Proofs.Promptness
import Replicast.Proofs.Replication
/-!
# Nothing outlives its batch

Whatever the transport does or fails to do, a reducer returns when the timer for the deadline fires,
and once a batch is cancelled or this timer has fired its workers end at their next turns.  The
deadline by itself does not end a worker that waits.

## Overview

* `Engine.wakes` is the law of a clock under which a reducer has its turns before time passes, and
  that passes over no timer of a reducer.
* `Engine.run_awaited` says how late a reducer can be under this law, and `Engine.exists_return`
  that there is always a way for it to return.
* `Worker.rest` counts the turns that a worker has left when everybody is woken, and
  `Engine.run_rest` says that so many turns end it, whatever happens between them.
* `Engine.Settled` is what is left of a batch, and `Engine.run_settles` is the result.
* `Engine.late_workers_rest` is a batch past its deadline whose workers rest all the same.
-/

namespace Replicast

/-! ## §1 The later of two instants -/

namespace Instant

/-- The later one of two instants. -/
def latest (t u : Instant) : Instant := ⟨Nat.max t.nanos u.nanos⟩

theorem le_latest_left (t u : Instant) : t ≤ t.latest u := Nat.le_max_left _ _

theorem le_latest_right (t u : Instant) : u ≤ t.latest u := Nat.le_max_right _ _

theorem latest_le {t u due : Instant} (ht : t ≤ due) (hu : u ≤ due) : t.latest u ≤ due :=
  Nat.max_le.mpr ⟨ht, hu⟩

/-- To wait for an instant leads there, or nowhere when it has passed. -/
theorem after_since_eq_latest (t now : Instant) : now.after (t.since now) = now.latest t := by
  have hsum : now.nanos + (t.nanos - now.nanos) = Nat.max now.nanos t.nanos := by
    show _ = max now.nanos t.nanos
    omega
  exact congrArg Instant.mk hsum

end Instant

/-! ## §2 Reducers at work -/

namespace Batch

variable {b : Batch} {e : Engine} {number : Nat} {event : Engine.Event}

/-- Whether a reducer is at work. -/
def isReducing (b : Batch) : Bool :=
  match b.stage with
  | .reducing _ _ => true
  | .kept | .reduced _ | .dropped => false

theorem isReducing_iff :
    b.isReducing = true ↔ ∃ goal progress, b.stage = .reducing goal progress := by
  unfold isReducing
  cases b.stage <;> simp

/-- A reducer that is at work after an event was at work before it, if it had begun. -/
theorem isReducing_of_react (hbegun : b.stage ≠ .kept)
    (hafter : (b.react e number event).1.isReducing = true) : b.isReducing = true := by
  by_contra hnot
  obtain ⟨goal, progress, hafter⟩ := isReducing_iff.mp hafter
  have hsame : (b.react e number event).1.stage = b.stage ∨
      (b.react e number event).1.stage = .dropped := by
    by_cases hpoll : event = .poll number
    · -- Without a reducer there is no turn.
      subst hpoll
      cases hstage : b.stage with
      | reducing goal progress => exact absurd (isReducing_iff.mpr ⟨_, _, hstage⟩) hnot
      | kept | reduced _ | dropped => simp [react, poll, hstage]
    · exact react_stage hbegun e number hpoll
  rcases hsame with hsame | hdropped
  · exact hnot (isReducing_iff.mpr ⟨goal, progress, hsame ▸ hafter⟩)
  · rw [hdropped] at hafter
    cases hafter

/-- Only a reducer at work returns. -/
theorem isReducing_of_returned {place : Option Nat} {r : Reduction}
    (h : (place, .returned r) ∈ (b.react e number event).2) : b.isReducing = true := by
  have hmove := b.react_move e number event
  generalize (b.react e number event).1 = after, (b.react e number event).2 = k at hmove h
  cases hmove with
  | rest | begin _ => cases h
  | signal position s =>
    obtain ⟨x, hx, hreturned⟩ := List.mem_map.mp h
    obtain rfl : x = .returned r := (Prod.mk.inj hreturned).2
    rcases signal_effects hx with hown | ⟨_, _, hposted⟩
    · cases hown
    · cases hposted
  | cancel => simp at h
  | poll hturn =>
    cases hturn with
    | idle => cases h
    | complete hstage _ | cutShort hstage _ _ | take hstage _ _ _ =>
      exact isReducing_iff.mpr ⟨_, _, hstage⟩
  | drop =>
    obtain ⟨x, hx, hreturned⟩ := List.mem_map.mp h
    obtain rfl : x = .returned r := (Prod.mk.inj hreturned).2
    -- A drop tells about the release at most.
    unfold drop close at hx
    split at hx <;> simp at hx

/-- A turn of a reducer that has something to do returns or takes an outcome. -/
theorem poll_advances_of_busy {c : Clock} {tokens : List String} {goal : Goal}
    {progress : Progress} (hstage : b.stage = .reducing goal progress)
    (hbusy : b.isIdle c tokens = false) :
    (∃ r, (b.poll c tokens).1.stage = .reduced r) ∨
      ∃ next : Progress, (b.poll c tokens).1.stage = .reducing goal next ∧
        next.consumed.length = progress.consumed.length + 1 ∧
        progress.consumed.length < b.size := by
  by_cases hdone : b.size ≤ progress.consumed.length
  · refine .inl ⟨b.resultOf goal progress false, ?_⟩
    simp [poll, hstage, hdone, finish_eq_close]
  · refine poll_advances hstage fun hpending => ?_
    simp [isIdle, hstage, hpending, Nat.lt_of_not_le hdone] at hbusy

end Batch

namespace Engine

open Batch

variable {client : Client} {now : Instant} {number : Nat} {b : Batch} {e : Engine}

/-- Time passes only when the reducer of a batch has nothing to do, and it does not pass over the
    timer that is to wake the reducer at the deadline. -/
def wakes (number : Nat) (e : Engine) (event : Event) : Bool :=
  e.yields number event &&
    match event with
    | .advance d =>
      e.batches[number]?.all fun b =>
        !b.isReducing || decide (e.now.after d ≤ e.now.latest b.plan.deadline.wakeup)
    | _ => true

/-- While a reducer is at work, time passes up to its timer. -/
theorem after_le_of_wakes {d : Duration} (hb : e.batches[number]? = some b)
    (hreducing : b.isReducing = true) (hwakes : e.wakes number (.advance d) = true) :
    e.now.after d ≤ e.now.latest b.plan.deadline.wakeup := by
  simp only [wakes, hb, Option.all_some, hreducing, Bool.and_eq_true, Bool.not_true,
    Bool.false_or, decide_eq_true_eq] at hwakes
  exact hwakes.2

/-- **How late a reducer can be.**  Under the law of the clock, a reducer is at work no later than
    when it begins or when its timer fires, and so it returns no later. -/
theorem run_awaited {goal : Goal} {due : Instant} (events : List Event)
    (hb : e.batches[number]? = some b) (hbegun : Begun goal b) (hnow : e.now ≤ due)
    (hdue : b.plan.deadline.wakeup ≤ due) (hlaw : e.abides (wakes number) events = true) :
    ∃ later, (e.run events).1.batches[number]? = some later ∧
      (later.plan = b.plan ∧ Begun goal later ∧
        (later.isReducing = true → (e.run events).1.now ≤ due)) ∧
      ∀ r ∈ (e.run events).2, r.batch = number → ∀ result, r.effect = .returned result →
        r.time ≤ due := by
  refine run_checked (P := fun e later => later.plan = b.plan ∧ Begun goal later ∧
    (later.isReducing = true → e.now ≤ due)) (fun e event later hlater hwakes hP => ?_)
    events hb ⟨rfl, hbegun, fun _ => hnow⟩ hlaw
  obtain ⟨hplan, hbegun, hwithin⟩ := hP
  have hkept := (later.react_move e number event).persists
  refine ⟨⟨hkept.plan.trans hplan, hbegun.react e number event, fun hafter => ?_⟩,
    fun r hr hnumber result hreturned => ?_⟩
  · have hreducing := isReducing_of_react hbegun.not_kept hafter
    rcases step_now_cases e event with ⟨d, rfl⟩ | hstill
    · rw [step_after]
      have hlatest : e.now.latest later.plan.deadline.wakeup ≤ due :=
        Instant.latest_le (hwithin hreducing) (hplan ▸ hdue)
      exact Nat.le_trans (after_le_of_wakes hlater hreducing hwakes) hlatest
    · rw [hstill]
      exact hwithin hreducing
  · rw [e.step_times event r hr]
    have hmem := History.mem_of hr hnumber
    rw [(step_share hlater event).2, hreturned] at hmem
    exact hwithin (isReducing_of_returned hmem)

/-- A turn of the reducer takes no time. -/
theorem wakes_poll (e : Engine) (number n : Nat) : e.wakes number (.poll n) = true := rfl

theorem wakes_tick (e : Engine) (number : Nat) : e.wakes number .tick = true := rfl

/-- A reducer that has nothing to do returns when its timer has fired. -/
theorem exists_return_of_isIdle {goal : Goal} {progress : Progress}
    (hb : e.batches[number]? = some b) (hstage : b.stage = .reducing goal progress)
    (hidle : b.isIdle e.toClock e.tokens = true) :
    ∃ more last r, e.abides (wakes number) more = true ∧
      (e.run more).1.batches[number]? = some last ∧ last.stage = .reduced r := by
  obtain ⟨hthere, hfired⟩ := run_wait hb b.plan.deadline
  have hstop : b.isAlarmed
      (e.run [.advance (b.plan.deadline.wakeup.since e.now), .tick]).1.toClock
      (e.run [.advance (b.plan.deadline.wakeup.since e.now), .tick]).1.tokens = true := by
    simp [isAlarmed, hfired]
  have hlaw : e.wakes number (.advance (b.plan.deadline.wakeup.since e.now)) = true := by
    have hdue := Nat.le_of_eq
      (congrArg Instant.nanos (b.plan.deadline.wakeup.after_since_eq_latest e.now))
    simp only [wakes, yields, hb, Option.all_some, hidle, Bool.true_and, Bool.or_eq_true,
      decide_eq_true_eq]
    exact .inr hdue
  have hlast := (step_share hthere (.poll number)).1
  have hreturned := poll_of_alarmed hstage hstop
  refine ⟨[.advance (b.plan.deadline.wakeup.since e.now), .tick] ++ [.poll number], _, _, ?_, ?_,
    by simpa [react] using hreturned⟩
  · simp [abides, hlaw, wakes_poll, wakes_tick]
  · simpa [run_append, run, react] using hlast

/-- **A reducer can always return**: the law of the clock never keeps it from its turns or from its
    timer, whatever the workers do. -/
theorem exists_return {goal : Goal} {progress : Progress}
    (hb : e.batches[number]? = some b) (hstage : b.stage = .reducing goal progress) :
    ∃ more last r, e.abides (wakes number) more = true ∧
      (e.run more).1.batches[number]? = some last ∧ last.stage = .reduced r := by
  -- Every turn returns or takes one of the outcomes that are left, unless there is nothing to do.
  induction hleft : b.size - progress.consumed.length using Nat.strongRecOn
    generalizing e b progress with
  | ind left ih =>
    by_cases hidle : b.isIdle e.toClock e.tokens = true
    · exact exists_return_of_isIdle hb hstage hidle
    obtain ⟨hafter, _⟩ := step_share hb (.poll number)
    have hreact : (b.react e number (.poll number)).1 = (b.poll e.toClock e.tokens).1 := by
      simp [react]
    rw [hreact] at hafter
    rcases poll_advances_of_busy hstage (by simpa using hidle) with
      ⟨r, hreduced⟩ | ⟨next, hnext, hmore, hlt⟩
    · exact ⟨[.poll number], _, r, by simp [abides, wakes_poll], hafter, hreduced⟩
    · have hkept := poll_keeps e.toClock e.tokens b
      have hless : (b.poll e.toClock e.tokens).1.size - next.consumed.length < left := by
        rw [hkept.size]
        omega
      obtain ⟨more, last, r, hlaw, hlast, hreduced⟩ := ih _ hless hafter hnext rfl
      exact ⟨.poll number :: more, last, r, by simp [abides, wakes_poll, hlaw], hlast, hreduced⟩

end Engine

/-! ## §3 Workers that are woken -/

namespace Worker

variable {p : Plan} {openings : Nat} {w : Worker} {s : Signal} {error : Error}

/-- The turns that a worker has left when it must stop: one at which it notices, and one more to
    begin with if it was never polled. -/
def rest (w : Worker) : Nat :=
  match w.phase with
  | .unbuilt | .finished | .aborted => 0
  | .queued => 2
  | .ready | .sending | .pausing | .reading _ _ => 1

theorem rest_le (w : Worker) : w.rest ≤ 2 := by
  unfold rest
  cases w.phase <;> simp

theorem rest_eq_zero : w.rest = 0 ↔ w.isLive = false := by
  unfold rest isLive
  cases w.phase <;> simp

/-- A worker that has ended is not among those that run. -/
theorem standing_of_ended (h : w.isLive = false) : w.standing ≠ .running := by
  unfold isLive at h
  unfold standing
  cases hp : w.phase <;> simp_all

/-- A worker that must stop never has more turns left than before. -/
theorem Transition.rest_le {m : Move} (h : Transition p (some error) openings w s m) :
    m.worker.rest ≤ w.rest := by
  cases h with
  | stay _ => exact Nat.le_refl _
  | enter hp => simp [rest, hp]
  | stop _ _ | stopReading _ _ => exact Nat.zero_le _
  -- Every other move is made only by a worker that need not stop.
  | attempt hstop _ | receive _ hstop _ | resume hstop _ | frame _ hstop _ | bodyEnd hstop _
  | panic hstop _ => cases hstop

/-- Every turn is one of those that are left. -/
theorem rest_turn (p : Plan) (error : Error) (openings : Nat) (w : Worker) :
    (w.step p (some error) openings .turn).worker.rest = w.rest - 1 := by
  unfold step
  cases hp : w.phase with
  | unbuilt | finished | aborted => simp [stay, rest, hp]
  | queued => simp [rest, hp]
  | ready | sending | pausing => simp [fail, finish, rest, hp]
  | reading head reader => simp [failReading, finish, rest, hp]

/-- A worker that waits, and has no reason to stop, does nothing at its turn. -/
theorem step_turn_of_isWaiting (h : w.isWaiting = true) (p : Plan) (openings : Nat) :
    w.step p none openings .turn = w.stay := by
  unfold isWaiting at h
  unfold step
  cases hp : w.phase <;> simp_all

end Worker

namespace Batch

variable {b : Batch} {e : Engine}

/-- Whether no worker of a batch would do anything at its turn. -/
def IsAtRest (e : Engine) (b : Batch) : Prop :=
  ∀ w ∈ b.workers, w.step b.plan (b.stopFor e w) e.openings .turn = w.stay

/-- When a batch whose workers are woken is at rest, all of them have ended. -/
theorem IsAtRest.ended (h : b.IsAtRest e) (halarm : b.isAlarmed e.toClock e.tokens = true) :
    b.hasLive = false := by
  refine List.any_eq_false.mpr fun w hw => ?_
  obtain ⟨error, herror⟩ := exists_stopFor halarm w
  have hturn := Worker.rest_turn b.plan error e.openings w
  rw [← herror, h w hw] at hturn
  have hsame : w.rest = w.rest - 1 := hturn
  have hnone : w.rest = 0 := by omega
  simp [Worker.rest_eq_zero.mp hnone]

/-- As long as nobody is woken, workers that wait are at rest, whatever the clock says. -/
theorem isAtRest_of_isWaiting (hwaiting : ∀ w ∈ b.workers, w.isWaiting = true)
    (hcalm : b.isAlarmed e.toClock e.tokens = false) : b.IsAtRest e := by
  intro w hw
  rw [(stopFor_eq_none_iff (hwaiting w hw)).mpr hcalm]
  exact Worker.step_turn_of_isWaiting (hwaiting w hw) _ _

end Batch

namespace Engine

open Batch

variable {client : Client} {now : Instant} {number : Nat} {b : Batch} {e : Engine}

/-- Whether an event is a turn of the worker at a position of a batch. -/
def Event.isTurnOf (number position : Nat) : Event → Bool
  | .signal n i .turn => n == number && i == position
  | _ => false

theorem Event.isTurnOf_iff {number position : Nat} {event : Event} :
    event.isTurnOf number position = true ↔ event = .signal number position .turn := by
  cases event with
  | signal n i s => cases s <;> simp [isTurnOf]
  | _ => simp [isTurnOf]

/-- **Turns bring a worker to its end** once everybody is woken: after any events whatever, it has no
    more turns left than before, less those that it had. -/
theorem run_rest {position : Nat} {w : Worker} (events : List Event)
    (hb : e.batches[number]? = some b) (hw : b.workers[position]? = some w)
    (halarm : b.isAlarmed e.toClock e.tokens = true) :
    ∃ later v, (e.run events).1.batches[number]? = some later ∧
      later.workers[position]? = some v ∧
      v.rest ≤ w.rest - events.countP (Event.isTurnOf number position) := by
  induction events generalizing e b w with
  | nil => exact ⟨b, w, hb, hw, Nat.le_refl _⟩
  | cons event rest ih =>
    have hmove := b.react_move e number event
    have hafter := (step_share hb event).1
    have halarm' := alarmed_step halarm hmove.persists event
    by_cases htold : ∃ s, event = .signal number position s
    · obtain ⟨s, rfl⟩ := htold
      obtain ⟨error, herror⟩ := exists_stopFor halarm w
      have hworker := (react_told e number hw s).1
      obtain ⟨later, v, hlater, hv, hrest⟩ := ih hafter hworker halarm'
      refine ⟨later, v, hlater, hv, Nat.le_trans hrest ?_⟩
      rw [herror]
      -- A turn is counted, and it was one of those that were left.
      by_cases hturn : s = .turn
      · subst hturn
        rw [Worker.rest_turn, List.countP_cons_of_pos (Event.isTurnOf_iff.mpr rfl), Nat.sub_sub,
          Nat.add_comm]
      · have hle := (Worker.step_transition b.plan (some error) e.openings w s).rest_le
        rw [List.countP_cons_of_neg (by simpa [Event.isTurnOf_iff] using hturn)]
        exact Nat.sub_le_sub_right hle _
    · have hother : ∀ s, event ≠ .signal number position s := fun s h => htold ⟨s, h⟩
      have hworker := (react_untold (b := b) e number position hother).1.trans hw
      obtain ⟨later, v, hlater, hv, hrest⟩ := ih hafter hworker halarm'
      refine ⟨later, v, hlater, hv, ?_⟩
      rwa [List.countP_cons_of_neg fun hturn => hother _ (Event.isTurnOf_iff.mp hturn)]

/-! ## §4 Settled batches -/

/-- What is left of a batch when its workers have ended: each of them has posted one outcome, of its
    own target, and the gauge of the workers at work counts those of other batches only. -/
structure Settled (h : History) (enabled : Bool) (number : Nat) (b : Batch) : Prop where
  ended : b.hasLive = false
  posted : ∀ i w, b.workers[i]? = some w →
    ∃ o, (h.of number).postedAt i = [o] ∧ o.target = w.target
  gone : ((Metrics.ofHistory h).shown enabled).inFlight =
    ((Metrics.ofHistory (h.filter fun r => r.batch ≠ number)).shown enabled).inFlight

/-- A batch is settled when its workers have ended. -/
theorem run_settled (events : List Event) (enabled : Bool)
    (hb : ((start client now).run events).1.batches[number]? = some b)
    (hended : b.hasLive = false) :
    Settled ((start client now).run events).2 enabled number b := by
  have hnot {w : Worker} (hw : w ∈ b.workers) : w.isLive = false := by
    simpa using List.any_eq_false.mp hended w hw
  refine ⟨hended, fun i w hw => ?_, ?_⟩
  · obtain ⟨o, hposted, htarget, _⟩ := (run_posts events hb hw).paid
      (hnot (List.mem_of_getElem? hw))
    exact ⟨o, hposted, htarget⟩
  · -- What the batch has added to the gauge is what its running workers are worth: nothing.
    have hworth : b.valueOf (fun place => if place = .running then 1 else 0) = 0 := by
      refine List.sum_eq_zero fun n hn => ?_
      obtain ⟨w, hw, rfl⟩ := List.mem_map.mp hn
      exact if_neg (Worker.standing_of_ended (hnot hw))
    have hsum := run_tracks_batch tracks_presence events hb
    rw [hworth] at hsum
    cases enabled with
    | false => rfl
    | true =>
      rw [Metrics.shown_enabled, Metrics.shown_enabled, Metrics.reads_inFlight.ofHistory,
        Metrics.reads_inFlight.ofHistory, History.sum_split _ _ number, hsum, Int.zero_add]

/-- **Nothing outlives its batch**, whatever its transport does.  Where time passes only when the
    reducer has nothing to do, and over none of its timers: an awaited reduction returns no later
    than when it begins or at the first whole millisecond at or after the deadline, whichever is
    later; it is at work no longer than that, and there is always a way for it to return.  And once
    the batch is cancelled or the timer for its deadline has fired, it is settled as soon as none of
    its workers can run any more, and so it is after two turns of each worker, whatever else
    happens. -/
theorem run_settles (client : Client) (now : Instant) (events : List Event)
    (hb : ((start client now).run events).1.batches[number]? = some b) :
    let first := (start client now).run events
    let due := first.1.now.latest b.plan.deadline.wakeup
    (∀ goal after, b.stage = .kept →
      first.1.abides (wakes number) (.reduce number goal :: after) = true →
      let run := first.1.run (.reduce number goal :: after)
      (∀ r ∈ run.2, r.batch = number → ∀ result, r.effect = .returned result → r.time ≤ due) ∧
      ∃ later, run.1.batches[number]? = some later ∧ Begun goal later ∧
        (later.isReducing = true →
          run.1.now ≤ due ∧
          ∃ more last result, run.1.abides (wakes number) more = true ∧
            (run.1.run more).1.batches[number]? = some last ∧ last.stage = .reduced result)) ∧
    (b.isAlarmed first.1.toClock first.1.tokens = true →
      (b.IsAtRest first.1 → Settled first.2 client.metricsEnabled number b) ∧
      ∀ more, (∀ i < b.size, 2 ≤ more.countP (Event.isTurnOf number i)) →
        let run := (start client now).run (events ++ more)
        ∃ later, run.1.batches[number]? = some later ∧ b.Persists later ∧
          Settled run.2 client.metricsEnabled number later) := by
  intro first due
  constructor
  · intro goal after hkept hlaw run
    -- The reduction begins now, and only the rest of the run is under the law from its beginning.
    simp only [abides, Bool.and_eq_true] at hlaw
    obtain ⟨hbegun, hdoings⟩ := step_share hb (.reduce number goal)
    have hstage : (b.react first.1 number (.reduce number goal)).1.stage =
        .reducing goal Progress.start := by simp [react, Batch.begin, hkept]
    have hplan := (b.react_move first.1 number (.reduce number goal)).persists.plan
    have hnow : (first.1.step (.reduce number goal)).1.now = first.1.now := step_now _ (by simp)
    have hearly : (first.1.step (.reduce number goal)).1.now ≤ due :=
      hnow ▸ Instant.le_latest_left _ _
    have hdue : (b.react first.1 number (.reduce number goal)).1.plan.deadline.wakeup ≤ due :=
      hplan ▸ Instant.le_latest_right _ _
    obtain ⟨later, hlater, ⟨_, hgoal, hwithin⟩, hreturned⟩ :=
      run_awaited after hbegun (.reducing hstage) hearly hdue hlaw.2
    refine ⟨fun r hr hnumber result heffect => ?_, later, hlater, hgoal, fun hreducing => ?_⟩
    · change r ∈ (first.1.step (.reduce number goal)).2 ++
        ((first.1.step (.reduce number goal)).1.run after).2 at hr
      rcases List.mem_append.mp hr with hr | hr
      · -- A beginning records nothing.
        have hmem := History.mem_of hr hnumber
        rw [hdoings] at hmem
        simp [react] at hmem
      · exact hreturned r hr hnumber result heffect
    · obtain ⟨_, progress, hstage⟩ := isReducing_iff.mp hreducing
      exact ⟨hwithin hreducing, exists_return hlater hstage⟩
  · intro halarm
    refine ⟨fun hrest => run_settled events _ hb (hrest.ended halarm), fun more hturns => ?_⟩
    obtain ⟨later, hlater, hkept⟩ := run_persists more hb
    have hthere : ((start client now).run (events ++ more)).1.batches[number]? = some later := by
      rw [run_append]
      exact hlater
    refine ⟨later, hthere, hkept, run_settled _ _ hthere (List.any_eq_false.mpr fun w hw => ?_)⟩
    -- Each worker had as many turns as it could have left.
    obtain ⟨i, hlt, hi⟩ := List.getElem_of_mem hw
    have hsize : i < b.size := hkept.size ▸ hlt
    obtain ⟨later', v, hlater', hv, hrest⟩ :=
      run_rest more hb (List.getElem?_eq_getElem hsize) halarm
    obtain rfl := Option.some.inj (hlater.symm.trans hlater')
    obtain rfl : w = v := by rw [List.getElem?_eq_getElem hlt, hi] at hv; exact Option.some.inj hv
    have hle := b.workers[i].rest_le
    have hcount := hturns i hsize
    have hnone : w.rest = 0 := by omega
    simp [Worker.rest_eq_zero.mp hnone]

/-- Two targets that never answer, and a deadline after two and a half milliseconds. -/
def hangingEvents : List Event :=
  [.dispatch { Operation.new .get "x" with timeout := some ⟨2500000⟩ }
      [⟨0, "http://a"⟩, ⟨1, "http://b"⟩],
    .signal 0 0 .turn, .signal 0 0 .turn]

/-- A join waits for them until the timer fires after three milliseconds. -/
def waitingEvents : List Event :=
  [.reduce 0 .join, .poll 0, .advance (.ofMillis 3), .tick, .poll 0]

/-- Each of the two workers has two turns. -/
def lastTurns : List Event :=
  [.signal 0 0 .turn, .signal 0 1 .turn, .signal 0 0 .turn, .signal 0 1 .turn]

/-- The join returns after three milliseconds, and the turns settle the batch. -/
theorem run_settles_hanging :
    let first := (start countingClient ⟨0⟩).run hangingEvents
    let run := (start countingClient ⟨0⟩).run (hangingEvents ++ waitingEvents)
    let ended := (start countingClient ⟨0⟩).run (hangingEvents ++ waitingEvents ++ lastTurns)
    ∃ b waited last, first.1.batches[0]? = some b ∧ b.stage = .kept ∧
      first.1.abides (wakes 0) waitingEvents = true ∧
      (∀ r ∈ (first.1.run waitingEvents).2, r.batch = 0 → ∀ result,
        r.effect = .returned result → r.time ≤ ⟨3000000⟩) ∧
      run.1.batches[0]? = some waited ∧ waited.reduction? = some (.joined []) ∧
      waited.hasLive = true ∧ waited.isAlarmed run.1.toClock run.1.tokens = true ∧
      ended.1.batches[0]? = some last ∧ Settled ended.2 true 0 last := by
  intro first run ended
  have hfresh : (first.1.batches[0]?.any fun b =>
      b.isKept && b.plan.deadline == ⟨2500000⟩) = true := by decide +kernel
  obtain ⟨b, hb, hkept⟩ := (Option.any_eq_true _ _).mp hfresh
  obtain ⟨hkept, hdeadline⟩ := (Bool.and_eq_true _ _).mp hkept
  have hkept : b.stage = .kept := Batch.isKept_iff.mp hkept
  have hdeadline : b.plan.deadline = ⟨2500000⟩ := beq_iff_eq.mp hdeadline
  have hlaw : first.1.abides (wakes 0) waitingEvents = true := by decide +kernel
  obtain ⟨hreturned, _⟩ := (run_settles _ _ hangingEvents hb).1 .join _ hkept hlaw
  have hwaited : (run.1.batches[0]?.any fun b => b.reduction? == some (.joined []) && b.hasLive &&
      b.isAlarmed run.1.toClock run.1.tokens && b.size == 2) = true := by decide +kernel
  obtain ⟨waited, hthere, hwaited⟩ := (Option.any_eq_true _ _).mp hwaited
  simp only [Bool.and_eq_true, beq_iff_eq] at hwaited
  obtain ⟨⟨⟨hjoined, hlive⟩, halarm⟩, hsize⟩ := hwaited
  have hturns : ∀ i < waited.size, 2 ≤ lastTurns.countP (Event.isTurnOf 0 i) := by
    rw [hsize]
    decide
  obtain ⟨last, hlast, _, hsettled⟩ :=
    ((run_settles _ _ (hangingEvents ++ waitingEvents) hthere).2 halarm).2 lastTurns hturns
  have hdue : first.1.now.latest b.plan.deadline.wakeup = ⟨3000000⟩ := by
    rw [hdeadline]
    decide +kernel
  refine ⟨b, waited, last, hb, hkept, hlaw, fun r hr hnumber result hresult => ?_, hthere, hjoined,
    hlive, halarm, hlast, hsettled⟩
  have hlate : r.time ≤ first.1.now.latest b.plan.deadline.wakeup :=
    hreturned r hr hnumber result hresult
  rwa [hdue] at hlate

/-- At the deadline itself nobody is woken: it lies between two milliseconds, and the timer fires at
    the later one.  Until then the workers rest, without an outcome, and are counted as before, even
    if the timers are looked after. -/
theorem late_workers_rest :
    let done := (start countingClient ⟨0⟩).run
      (hangingEvents ++ [.signal 0 1 .turn, .signal 0 1 .turn, .advance ⟨2500000⟩, .tick])
    ∃ b, done.1.batches[0]? = some b ∧ b.plan.deadline ≤ done.1.now ∧ b.IsAtRest done.1 ∧
      b.hasLive = true ∧ (done.2.of 0).posted = [] ∧
      ((Metrics.ofHistory done.2).shown true).inFlight = 2 := by
  intro done
  have hdone : (done.1.batches[0]?.any fun b => b.workers.all Worker.isWaiting && b.hasLive &&
      !b.isAlarmed done.1.toClock done.1.tokens && b.plan.deadline ≤ done.1.now) = true := by
    decide +kernel
  obtain ⟨b, hb, hcheck⟩ := (Option.any_eq_true _ _).mp hdone
  simp only [Bool.and_eq_true, Bool.not_eq_true', List.all_eq_true, decide_eq_true_eq] at hcheck
  obtain ⟨⟨⟨hwaiting, hlive⟩, hcalm⟩, hlate⟩ := hcheck
  exact ⟨b, hb, hlate, Batch.isAtRest_of_isWaiting hwaiting hcalm, hlive, by decide +kernel,
    by decide +kernel⟩

end Engine

end Replicast
