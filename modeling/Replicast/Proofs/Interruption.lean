import Replicast.Proofs.Engine.Clock
/-!
# Interrupted batches

Once a batch is cancelled, or the timer for its deadline has fired, it starts nothing any more: no
request, no copy of its body, no pause.  This is so wherever its workers are at that moment.  The
timer fires some time after the deadline.  In between no request and no copy is started either, since
the clock is read before every attempt, but an answer that arrives then is taken, and the worker may
begin the pause that it asks for.

## Overview

* `Batch.alarmed_step` and `Batch.interrupted_step` say that an interruption lasts.
* `Batch.Move.quiet` says that a batch that is cancelled or whose timer has fired starts nothing.
* `Batch.Move.winds` says what a batch whose deadline has come still starts: at most one pause for
  each worker whose request is under way, and nothing else.
* `Engine.Ceased` lists the ways in which a batch comes to start nothing any more.
* `Engine.run_ceased` is the result for all runs, and `Engine.late_answer_pauses` is a run in which a
  pause begins at the deadline.
-/

namespace Replicast

/-! ## §1 Interruptions last -/

namespace Batch

variable {b after : Batch} {e : Engine}

/-- A batch that is cancelled stays so. -/
theorem cancelled_step (hcancelled : b.isCancelled e.tokens = true) (hkept : b.Persists after)
    (event : Engine.Event) : after.isCancelled (e.step event).1.tokens = true := by
  have htokens := (e.step_time event).2
  simp only [isCancelled, Bool.or_eq_true] at hcancelled ⊢
  -- The batch's own token was cancelled, or its parent's.
  rcases hcancelled with hown | hparent
  · exact .inl (hkept.cancelled hown)
  · refine .inr ?_
    rw [hkept.parent]
    obtain ⟨token, htoken, hmem⟩ := (Option.any_eq_true _ _).mp hparent
    rw [List.contains_iff_mem] at hmem
    exact (Option.any_eq_true _ _).mpr ⟨token, htoken, List.contains_iff_mem.mpr (htokens hmem)⟩

/-- A batch that is interrupted stays so. -/
theorem interrupted_step (hstop : b.isInterrupted e.now e.tokens = true)
    (hkept : b.Persists after) (event : Engine.Event) :
    after.isInterrupted (e.step event).1.now (e.step event).1.tokens = true := by
  simp only [isInterrupted, Bool.or_eq_true, decide_eq_true_eq] at hstop ⊢
  rcases hstop with hcancelled | hdeadline
  · exact .inl (cancelled_step hcancelled hkept event)
  · rw [hkept.plan]
    exact .inr (Nat.le_trans hdeadline (e.step_time event).1)

/-- Whoever waits in a batch and is woken is woken for good. -/
theorem alarmed_step (halarm : b.isAlarmed e.toClock e.tokens = true)
    (hkept : b.Persists after) (event : Engine.Event) :
    after.isAlarmed (e.step event).1.toClock (e.step event).1.tokens = true := by
  simp only [isAlarmed, Bool.or_eq_true, Clock.hasFired_iff] at halarm ⊢
  rcases halarm with hcancelled | hfired
  · exact .inl (cancelled_step hcancelled hkept event)
  · rw [hkept.plan]
    exact .inr (Nat.le_trans hfired (e.step_ticked event))

end Batch

/-! ## §2 Workers that begin no attempt -/

namespace Worker

variable {p : Plan} {stop : Option Error} {openings : Nat} {w : Worker} {s : Signal} {m : Move}

private theorem finish_quiet (w : Worker) (events : List Log.Event) (o : Outcome) :
    ∀ x ∈ (w.finish events o).effects, x.isStart = false := by
  intro x hx
  rcases mem_finish_effects hx with ⟨event, rfl⟩ | rfl | rfl <;> rfl

/-- A worker that must stop starts nothing, in whichever phase it is. -/
theorem Transition.quiet {error : Error} (h : Transition p (some error) openings w s m) :
    ∀ x ∈ m.effects, x.isStart = false := by
  cases h with
  | stay _ => simp [Worker.stay]
  | enter _ => simp [Effect.isStart]
  | stop _ _ => exact finish_quiet w _ _
  | stopReading _ _ => exact finish_quiet w _ _
  -- Every other move is made only by a worker that need not stop.
  | attempt hstop _ | receive _ hstop _ | resume hstop _ | frame _ hstop _ | bodyEnd hstop _
  | panic hstop _ => cases hstop

/-- The pauses that a worker can still begin without a further attempt: one while its request is
    under way. -/
def pausesLeft (w : Worker) : Nat := if w.phase = .sending then 1 else 0

/-- A move that begins no attempt: no request, no copy, and a pause only from those that are left. -/
structure Winds (w : Worker) (m : Move) : Prop where
  attempts : ∀ x ∈ m.effects, x.isAttempt = false
  pauses : m.effects.countP Effect.isPause + m.worker.pausesLeft ≤ w.pausesLeft

/-- A move that starts nothing and leaves the worker's request where it is not under way. -/
private theorem Winds.of_quiet (hquiet : ∀ x ∈ m.effects, x.isStart = false)
    (hleft : m.worker.pausesLeft ≤ w.pausesLeft) : Winds w m := by
  refine ⟨fun x hx => (Effect.isStart_eq_false.mp (hquiet x hx)).1, ?_⟩
  have hnone : m.effects.countP Effect.isPause = 0 :=
    List.countP_eq_zero.mpr fun x hx => by simp [(Effect.isStart_eq_false.mp (hquiet x hx)).2]
  rw [hnone, Nat.zero_add]
  exact hleft

private theorem Winds.finish (w : Worker) (events : List Log.Event) (o : Outcome) :
    Winds w (w.finish events o) :=
  .of_quiet (finish_quiet w events o) (Nat.zero_le _)

/-- More effects that start nothing make no difference. -/
private theorem Winds.cons {x : Effect} (h : Winds w m) (hx : x.isStart = false) :
    Winds w { m with effects := x :: m.effects } := by
  obtain ⟨hattempt, hpause⟩ := Effect.isStart_eq_false.mp hx
  refine ⟨fun y hy => ?_, ?_⟩
  · rcases List.mem_cons.mp hy with rfl | hy
    · exact hattempt
    · exact h.attempts y hy
  · rw [List.countP_cons_of_neg (by simp [hpause])]
    exact h.pauses

/-- Going on after a response begins a pause at most, and the request is no longer under way. -/
private theorem retryAfter_winds (hphase : w.phase = .sending) (p : Plan) (status : Status) :
    Winds w (w.retryAfter p status) := by
  unfold retryAfter
  cases p.retryPolicy.backoffAfter status with
  | none =>
    exact .of_quiet (by simp [Effect.isStart])
      (by simp [pausesLeft])
  | some d =>
    refine ⟨by simp [Effect.isAttempt], ?_⟩
    simp [pausesLeft, hphase, List.countP_cons, Effect.isPause]

/-- Taking an answer begins no attempt. -/
private theorem receive_winds (hphase : w.phase = .sending) (p : Plan) (a : Answer) :
    Winds w (w.receive p a) := by
  have hreception := receive_reception p w a
  generalize w.receive p a = m at hreception ⊢
  cases hreception with
  | final _ =>
    exact .of_quiet (by simp [readFrom, Effect.isStart])
      (by simp [pausesLeft, readFrom])
  | again _ _ => exact (retryAfter_winds hphase p _).cons rfl
  | failed _ => exact ((Winds.finish w _ _).cons rfl).cons rfl
  | failedAgain _ =>
    exact .of_quiet (by simp [Effect.isStart])
      (by simp [pausesLeft])

/-- A worker that must stop before its next attempt begins none. -/
theorem Transition.winds (h : Transition p stop openings w s m)
    (hready : w.phase = .ready → stop ≠ none) : Winds w m := by
  cases h with
  | stay _ => exact .of_quiet (by simp [Worker.stay]) (Nat.le_refl _)
  | enter _ =>
    exact .of_quiet (by simp [Effect.isStart])
      (by simp [pausesLeft])
  | stop _ _ => exact .finish w _ _
  | stopReading _ _ => exact .finish w _ _
  | attempt hstop hphase => exact absurd hstop (hready hphase)
  | receive a _ hphase => exact receive_winds hphase p a
  | resume _ _ => exact .of_quiet (by simp) (by simp [pausesLeft])
  | @frame head reader f _ _ =>
    unfold readFrame
    cases reader.step p.maxResponseBodyBytes f with
    | ok _ => exact .of_quiet (by simp) (by simp [pausesLeft])
    | error _ => exact .finish w _ _
  | bodyEnd _ _ => exact .finish w _ _
  | panic _ _ =>
    exact .of_quiet (by simp [abort, Effect.isStart])
      (by simp [pausesLeft, abort])

end Worker

namespace Batch

variable {b after : Batch} {e : Engine}

/-! ## §3 Batches that wind up -/

theorem unplaced_quiet {effects : List Effect} (h : ∀ x ∈ effects, x.isConcluding = true) :
    ∀ x ∈ Engine.unplaced effects, x.2.isStart = false := by
  intro x hx
  exact Effect.isStart_of_isConcluding (Doings.unplaced_concluding h x hx)

/-- Every move but a signal leaves the workers alone and starts nothing. -/
theorem Move.signal_or_quiet {k : Doings} (h : Move e b after k) :
    (∃ position s, after = (b.signal e.toClock e.tokens e.openings position s).1 ∧
      k = Doings.here position (b.signal e.toClock e.tokens e.openings position s).2) ∨
    (after.workers = b.workers ∧ ∀ x ∈ k, x.2.isStart = false) := by
  cases h with
  | rest => exact .inr ⟨rfl, by simp⟩
  | signal position s => exact .inl ⟨position, s, rfl, rfl⟩
  | cancel =>
    exact .inr ⟨(release_keeps b).workers, by simp [Effect.isStart]⟩
  | begin goal => exact .inr ⟨(begin_keeps b goal).workers, by simp⟩
  | poll hturn =>
    refine .inr ⟨hturn.keeps.workers, ?_⟩
    -- A turn takes an outcome at most; the rest is judging and returning.
    rcases hturn.effects_cases with hconcluding | ⟨o, rest, rfl, hconcluding⟩
    · exact unplaced_quiet hconcluding
    · intro x hx
      rcases List.mem_cons.mp hx with rfl | hx
      · rfl
      · exact unplaced_quiet hconcluding x hx
  | drop => exact .inr ⟨(drop_keeps b).workers, unplaced_quiet (drop_concluding b)⟩

/-- A signal does what its worker does, and posts an outcome at most. -/
theorem signal_cases {position : Nat} {w : Worker} (hw : b.workers[position]? = some w)
    (s : Signal) {x : Effect} (hx : x ∈ (b.signal e.toClock e.tokens e.openings position s).2) :
    x ∈ (w.step b.plan (b.stopFor e w) e.openings s).effects ∨
      ∃ o posting, x = .posted o posting := by
  rw [signal_eq e hw s] at hx
  rcases List.mem_append.mp hx with hx | hx
  · exact .inl hx
  · cases hm : (w.step b.plan (b.stopFor e w) e.openings s).outcome with
    | none => simp [hm] at hx
    | some o =>
      simp only [hm, Option.elim_some, List.mem_singleton] at hx
      exact .inr ⟨o, _, hx⟩

/-- A batch that is cancelled or whose timer has fired starts nothing. -/
theorem Move.quiet {k : Doings} (halarm : b.isAlarmed e.toClock e.tokens = true)
    (h : Move e b after k) : ∀ x ∈ k, x.2.isStart = false := by
  rcases h.signal_or_quiet with ⟨position, s, -, rfl⟩ | ⟨-, hquiet⟩
  · intro x hx
    obtain ⟨effect, heffect, rfl⟩ := List.mem_map.mp hx
    cases hw : b.workers[position]? with
    | none =>
      rw [signal_of_none e hw s] at heffect
      cases heffect
    | some w =>
      -- Everybody who waits is woken, so that every worker must stop.
      obtain ⟨error, hstop⟩ := exists_stopFor halarm w
      have hmove := Worker.step_transition b.plan (b.stopFor e w) e.openings w s
      rcases signal_cases hw s heffect with hown | ⟨o, posting, rfl⟩
      · rw [hstop] at hmove hown
        exact hmove.quiet effect hown
      · rfl
  · exact hquiet

/-- The pauses that are left for the worker at a position. -/
def pausesLeft (b : Batch) (position : Nat) : Nat :=
  b.workers[position]?.elim 0 Worker.pausesLeft

/-- A batch whose deadline has come stops every worker before its next attempt. -/
theorem stopFor_of_ready {w : Worker} (hstop : b.isInterrupted e.now e.tokens = true)
    (hready : w.phase = .ready) : b.stopFor e w ≠ none := by
  intro hnone
  obtain ⟨hcancelled, hlate⟩ := Worker.interruption_eq_none.mp hnone
  have hearly : ¬ b.plan.deadline ≤ e.now := by simpa [Worker.isLate, hready] using hlate
  simp [isInterrupted, hcancelled, hearly] at hstop

/-- A batch whose deadline has come begins no attempt any more, and its workers begin pauses only
    from those that are left. -/
theorem Move.winds {k : Doings} (hstop : b.isInterrupted e.now e.tokens = true)
    (h : Move e b after k) :
    (∀ x ∈ k, x.2.isAttempt = false) ∧
      ∀ position, (k.effectsAt position).countP Effect.isPause + after.pausesLeft position ≤
        b.pausesLeft position := by
  rcases h.signal_or_quiet with ⟨place, s, rfl, rfl⟩ | ⟨hworkers, hquiet⟩
  · cases hw : b.workers[place]? with
    | none =>
      rw [signal_of_none e hw s]
      exact ⟨by simp [Doings.here], fun position => by simp [Doings.here]⟩
    | some w =>
      have hmove := (Worker.step_transition b.plan (b.stopFor e w) e.openings w s).winds
        (stopFor_of_ready hstop)
      refine ⟨fun x hx => ?_, fun position => ?_⟩
      · obtain ⟨effect, heffect, rfl⟩ := List.mem_map.mp hx
        rcases signal_cases hw s heffect with hown | ⟨o, posting, rfl⟩
        · exact hmove.attempts effect hown
        · rfl
      · by_cases hplace : place = position
        · subst hplace
          -- The post that may follow is no pause.
          have hcount : (b.signal e.toClock e.tokens e.openings place s).2.countP Effect.isPause =
              (w.step b.plan (b.stopFor e w) e.openings s).effects.countP Effect.isPause := by
            rw [signal_eq e hw s, List.countP_append]
            cases (w.step b.plan (b.stopFor e w) e.openings s).outcome <;> rfl
          have hlt : place < b.workers.length := (List.getElem?_eq_some_iff.mp hw).1
          have hbefore : b.pausesLeft place = w.pausesLeft := by simp [pausesLeft, hw]
          rw [Doings.effectsAt_here, hcount, hbefore]
          simpa [pausesLeft, signal_eq e hw s, hlt] using hmove.pauses
        · rw [Doings.effectsAt_here_ne hplace]
          simp [pausesLeft, signal_eq e hw s, List.getElem?_set_ne hplace]
  · refine ⟨fun x hx => (Effect.isStart_eq_false.mp (hquiet x hx)).1, fun position => ?_⟩
    have hnone : (k.effectsAt position).countP Effect.isPause = 0 :=
      List.countP_eq_zero.mpr fun x hx => by
        simp [(Effect.isStart_eq_false.mp (hquiet _ (Doings.mem_effectsAt.mp hx))).2]
    have hleft : after.pausesLeft position = b.pausesLeft position := by
      rw [pausesLeft, pausesLeft, hworkers]
    omega

/-! ## §4 Releases -/

/-- The marks of a release: every call of a handle, every return and every drop leaves the batch
    released, and whatever is released is cancelled. -/
structure Releases (b : Batch) (d : Doings) : Prop where
  sound : b.released = true → b.cancelled = true
  told : ∀ x ∈ d, x.2.isCancellation = true → b.released = true
  ended : (b.stage = .dropped ∨ ∃ r, b.stage = .reduced r) → b.released = true

theorem releases_of_newborn {targets : List Target} {d : Doings}
    {preparations : List Operation.Preparation}
    (h : Engine.Newborn e targets b d preparations) : Releases b d := by
  refine ⟨fun hreleased => ?_, fun x hx htold => ?_, fun hover => ?_⟩
  · rw [h.released] at hreleased
    cases hreleased
  · rw [Effect.isCancellation_of_isDispatching (h.dispatching x hx)] at htold
    cases htold
  -- A new batch is neither reduced nor dropped.
  · rcases h.stage with hkept | ⟨goal, hreducing⟩ <;> simp_all

/-- A handler that cancels releases the batch. -/
theorem judge_told (b : Batch) (o : Outcome) :
    ∀ x ∈ (b.judge o).2.1, x.isCancellation = true → (b.judge o).1.released = true := by
  unfold judge
  cases b.handler with
  | none => simp
  | some handler =>
    by_cases hcancel : (handler o).cancels = true <;> simp [hcancel, Effect.isCancellation]

theorem consume_told (b : Batch) (goal : Goal) (progress : Progress) (o : Outcome) :
    ∀ x ∈ (b.consume goal progress o).2, x.isCancellation = true →
      (b.consume goal progress o).1.released = true := by
  intro x hx htold
  cases goal with
  | join | decide _ _ => simp [consume] at hx
  | drain => exact judge_told b o x hx htold
  | first =>
    cases hverdict : (b.judge o).2.2 with
    | error e =>
      simp only [consume, hverdict] at hx ⊢
      exact judge_told b o x hx htold
    | ok u => simp [consume, conclude, hverdict]

theorem finish_released (b : Batch) (goal : Goal) (progress : Progress) (interrupted : Bool) :
    (b.finish goal progress interrupted).1.released = true := by
  rw [finish_eq_close, close_released]

/-- A turn that returns releases the batch, and so does one in which the handler cancels. -/
theorem Turn.releases {c : Clock} {tokens : List String} {effects : List Effect} {d : Doings}
    (h : Turn c tokens b after effects) (hreleases : Releases b d) :
    Releases after (d ++ Engine.unplaced effects) := by
  have hkept := h.keeps
  refine ⟨hkept.sound hreleases.sound, fun x hx htold => ?_, fun hover => ?_⟩
  · rcases List.mem_append.mp hx with hx | hx
    · exact hkept.released (hreleases.told x hx htold)
    obtain ⟨effect, heffect, rfl⟩ := List.mem_map.mp hx
    -- A turn that returns releases the batch anyway.
    cases h with
    | idle => cases heffect
    | complete _ _ | cutShort _ _ _ => exact finish_released _ _ _ _
    | take _ _ _ _ =>
      rcases List.mem_cons.mp heffect with rfl | heffect
      · cases htold
      · exact consume_told _ _ _ _ effect heffect htold
  · cases h with
    | idle => exact hreleases.ended hover
    | complete _ _ | cutShort _ _ _ => exact finish_released _ _ _ _
    | @take goal progress o rest _ _ _ _ =>
      -- The reducer goes on, or it returns what it has accepted.
      rcases consume_taken { b with channel := rest } goal progress o with
        ⟨_, hstage, _⟩ | ⟨_, _, _, _, hreleased⟩
      · simp [hstage] at hover
      · exact hreleased

/-- Every move leaves its marks. -/
theorem Releases.move {d k : Doings} (h : Releases b d) (hmove : b.Move e after k) :
    Releases after (d ++ k) := by
  have hkept := hmove.persists
  cases hmove with
  | rest => simpa using h
  | signal position s =>
    refine ⟨hkept.sound h.sound, fun x hx htold => ?_, fun hover => ?_⟩
    · rcases List.mem_append.mp hx with hx | hx
      · exact hkept.released (h.told x hx htold)
      obtain ⟨effect, heffect, rfl⟩ := List.mem_map.mp hx
      -- Neither a worker's own effects nor its post is a call of a handle.
      rcases signal_effects heffect with hown | ⟨o, posting, rfl⟩
      · rw [Effect.isCancellation_of_isOwn hown] at htold
        cases htold
      · cases htold
    · rw [signal_stage] at hover
      exact hkept.released (h.ended hover)
  | cancel =>
    exact ⟨hkept.sound h.sound, fun _ _ _ => b.release_released, fun _ => b.release_released⟩
  | begin goal =>
    rw [List.append_nil]
    refine ⟨hkept.sound h.sound, fun x hx htold => hkept.released (h.told x hx htold),
      fun hover => ?_⟩
    cases hstage : b.stage with
    | kept => simp [begin, hstage] at hover
    | reducing _ _ | reduced _ | dropped =>
      -- Whatever was begun before stays as it is.
      have hsame : b.begin goal = b := by simp [begin, hstage]
      rw [hsame] at hover ⊢
      exact h.ended hover
  | poll hturn => exact hturn.releases h
  | drop =>
    cases hstage : b.stage with
    | kept | reducing _ _ =>
      have hreleased : b.drop.1.released = true := by simp [drop, hstage]
      exact ⟨hkept.sound h.sound, fun _ _ _ => hreleased, fun _ => hreleased⟩
    | reduced _ | dropped => simpa [drop, hstage, Engine.unplaced] using h

end Batch

/-! ## §5 Runs -/

namespace Engine

/-- The ways in which a batch comes to start nothing any more. -/
inductive Ceased (e : Engine) (b : Batch) (d : Doings) : Prop where
  /-- A handle was told to cancel, by a caller or by the response handler. -/
  | told {effective : Bool} : (none, .cancelled effective) ∈ d → Ceased e b d
  | parent {token : String} : b.parent = some token → token ∈ e.tokens → Ceased e b d
  | returned {r : Reduction} : b.stage = .reduced r → Ceased e b d
  | dropped : b.stage = .dropped → Ceased e b d
  /-- The timer for the deadline has fired. -/
  | expired : e.hasFired b.plan.deadline = true → Ceased e b d

/-- In each of these ways everybody who waits in the batch is woken. -/
theorem Ceased.alarmed {e : Engine} {b : Batch} {d : Doings} (h : Ceased e b d)
    (hreleases : b.Releases d) : b.isAlarmed e.toClock e.tokens = true := by
  -- What is released is cancelled.
  have hreleased (hr : b.released = true) : b.isAlarmed e.toClock e.tokens = true := by
    simp [Batch.isAlarmed, Batch.isCancelled, hreleases.sound hr]
  cases h with
  | told hmem => exact hreleased (hreleases.told _ hmem rfl)
  | parent hparent hmem => simp [Batch.isAlarmed, Batch.isCancelled, hparent, hmem]
  | returned hstage => exact hreleased (hreleases.ended (.inr ⟨_, hstage⟩))
  | dropped hstage => exact hreleased (hreleases.ended (.inl hstage))
  | expired hfired => simp [Batch.isAlarmed, hfired]

/-- A run of a batch that is cancelled or whose timer has fired starts nothing. -/
theorem run_quiet {e : Engine} {number : Nat} {b : Batch} (events : List Event)
    (hb : e.batches[number]? = some b) (halarm : b.isAlarmed e.toClock e.tokens = true) :
    ∀ x ∈ (e.run events).2.of number, x.2.isStart = false := by
  -- Along the run: the interruption lasts, and while it does nothing is started.
  obtain ⟨_, _, _, hquiet⟩ := run_safe
    (P := fun e b => b.isAlarmed e.toClock e.tokens = true) (A := fun x => x.2.isStart = false)
    (fun e event b _ halarm =>
      have hmove := b.react_move e number event
      ⟨Batch.alarmed_step halarm hmove.persists event, hmove.quiet halarm⟩)
    events hb halarm
  exact hquiet

/-- A run of a batch whose deadline has come begins no attempt, and no more pauses than are left. -/
theorem run_winds {e : Engine} {number : Nat} {b : Batch} (events : List Event)
    (hb : e.batches[number]? = some b) (hstop : b.isInterrupted e.now e.tokens = true) :
    (∀ x ∈ (e.run events).2.of number, x.2.isAttempt = false) ∧
      ∀ position, (((e.run events).2.of number).effectsAt position).countP Effect.isPause ≤
        b.pausesLeft position := by
  -- What one event spends of the pauses, the rest of the run has less.
  induction events generalizing e b with
  | nil => exact ⟨by simp [run], fun position => by simp [run]⟩
  | cons event rest ih =>
    obtain ⟨hafter, hdoings⟩ := step_share hb event
    have hmove := b.react_move e number event
    obtain ⟨hattempts, hpauses⟩ := hmove.winds hstop
    obtain ⟨hrest, hleft⟩ := ih hafter (Batch.interrupted_step hstop hmove.persists event)
    simp only [run, History.of_append, hdoings, Doings.effectsAt_append, List.countP_append]
    refine ⟨fun x hx => ?_, fun position => ?_⟩
    · rcases List.mem_append.mp hx with hx | hx
      · exact hattempts x hx
      · exact hrest x hx
    · have hspent := hpauses position
      have hmore := hleft position
      omega

/-- **No work starts after an interruption.**  Once a handle of a batch was told to cancel, its
    parent token was cancelled, its reducer returned, it was dropped, or the timer for its deadline
    has fired, whatever happens later hands no request of the batch to the transport, opens no copy
    of its body and starts no pause.  From the deadline on, fired or not, no request is handed over
    and no copy is opened, and no pause is started but one at most by each worker whose request was
    under way at that moment. -/
theorem run_ceased (client : Client) (now : Instant) (before after : List Event) {number : Nat}
    {b : Batch} (hb : ((start client now).run before).1.batches[number]? = some b)
    (hceased : Ceased ((start client now).run before).1 b
        (((start client now).run before).2.of number) ∨
      b.plan.deadline ≤ ((start client now).run before).1.now) :
    ∃ later, ((start client now).run (before ++ after)).2 =
        ((start client now).run before).2 ++ later ∧
      (∀ r ∈ later, r.batch = number → r.effect.isAttempt = false) ∧
      (∀ position, ((later.of number).effectsAt position).countP Effect.isPause ≤
        b.pausesLeft position) ∧
      (Ceased ((start client now).run before).1 b (((start client now).run before).2.of number) →
        ∀ r ∈ later, r.batch = number → r.effect.isStart = false) := by
  -- The marks of the run so far show that the batch is interrupted now.
  have hreleases : b.Releases (((start client now).run before).2.of number) :=
    run_invariant (fun _ _ _ _ _ hbirth =>
        let ⟨_, hnew⟩ := hbirth.newborn
        Batch.releases_of_newborn hnew)
      (fun _ _ _ _ _ h hmove => h.move hmove) before hb
  have hstop : b.isInterrupted ((start client now).run before).1.now
      ((start client now).run before).1.tokens = true := by
    rcases hceased with hceased | hdeadline
    · exact Batch.isInterrupted_of_isAlarmed (hceased.alarmed hreleases)
    · simp [Batch.isInterrupted, hdeadline]
  obtain ⟨hattempts, hpauses⟩ := run_winds after hb hstop
  refine ⟨(((start client now).run before).1.run after).2, by rw [run_append],
    fun r hr hnumber => ?_, hpauses, fun hceased r hr hnumber => ?_⟩
  · exact hattempts _ (History.mem_of hr hnumber)
  · exact run_quiet after hb (hceased.alarmed hreleases) _ (History.mem_of hr hnumber)

/-- A worker pauses after a rate-limited response, and a handle is told to cancel. -/
def pausedEvents : List Event :=
  [.dispatch (.new .get "x") [⟨0, "http://a"⟩], .signal 0 0 .turn, .signal 0 0 .turn,
    .signal 0 0 (.answer (.response ⟨Status.tooManyRequests, .http11, Header.Map.empty⟩)),
    .cancel 0]

/-- The worker of `pausedEvents` does not go on when its pause is over. -/
theorem run_ceased_paused :
    ∃ b, (plain.run pausedEvents).1.batches[0]? = some b ∧
      Ceased (plain.run pausedEvents).1 b ((plain.run pausedEvents).2.of 0) ∧
      ∃ later, (plain.run (pausedEvents ++ [.signal 0 0 .pauseOver, .signal 0 0 .turn])).2 =
          (plain.run pausedEvents).2 ++ later ∧
        ∀ r ∈ later, r.batch = 0 → r.effect.isStart = false := by
  have hthere : (plain.run pausedEvents).1.batches[0]?.isSome = true := by decide +kernel
  have htold : (none, Effect.cancelled true) ∈ (plain.run pausedEvents).2.of 0 := by
    decide +kernel
  obtain ⟨b, hb⟩ := Option.isSome_iff_exists.mp hthere
  have hceased : Ceased (plain.run pausedEvents).1 b ((plain.run pausedEvents).2.of 0) :=
    .told htold
  obtain ⟨later, hlater, _, _, hquiet⟩ := run_ceased _ _ pausedEvents _ hb (.inl hceased)
  exact ⟨b, hb, hceased, later, hlater, hquiet hceased⟩

/-- A client whose first instant is one nanosecond past a whole millisecond. -/
def unaligned : Engine := start (ClientBuilder.ofConfig .standard).build ⟨1⟩

/-- A request is under way when its deadline comes, thirty seconds after the dispatch, and the timers
    are looked after at that very instant. -/
def overdueEvents : List Event :=
  [.dispatch (.new .get "x") [⟨0, "http://a"⟩], .signal 0 0 .turn, .signal 0 0 .turn,
    .advance (.ofSeconds 30), .tick]

/-- The deadline of `overdueEvents` has come, and the answer that arrives now begins a pause: the
    timer for the deadline fires with the next whole millisecond only. -/
theorem late_answer_pauses :
    ((unaligned.run overdueEvents).1.batches[0]?.any fun b =>
        b.plan.deadline ≤ (unaligned.run overdueEvents).1.now) = true ∧
      ∃ later, (unaligned.run (overdueEvents ++ [.signal 0 0 (.answer
            (.response ⟨Status.tooManyRequests, .http11, Header.Map.empty⟩))])).2 =
          (unaligned.run overdueEvents).2 ++ later ∧
        (later.any fun r => r.batch = 0 && r.effect.isPause) = true := by
  refine ⟨by decide +kernel, _, by rw [run_append], by decide +kernel⟩

end Engine

end Replicast
