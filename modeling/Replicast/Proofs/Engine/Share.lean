import Mathlib.Data.List.Induction
import Replicast.Proofs.Batch.Turn
import Replicast.Proofs.Engine.Doings
import Replicast.Proofs.Worker.Transition
/-!
# The share of one batch in a run

The batches of a client do not touch each other: what an event does to a batch depends on that
batch, the clock, the cancelled tokens and the count of openings.  A run of the client is, for each
of its batches, a beginning followed by moves of that batch alone.

## Overview

* `Engine.Birth` is the beginning of a batch, and `Batch.react` its move on an event.
* `Batch.Move` lists the moves.
* `Engine.run_induction` is the induction that every invariant of a batch goes by.
-/

namespace Replicast

/-! ## §1 Moves of a batch -/

/-- The move of the batch with a number on an event. -/
def Batch.react (b : Batch) (e : Engine) (number : Nat) : Engine.Event → Batch × Doings
  | .signal n position s =>
    if n = number then
      ((b.signal e.toClock e.tokens e.openings position s).1,
        Doings.here position (b.signal e.toClock e.tokens e.openings position s).2)
    else (b, [])
  | .cancel n =>
    if n = number then (b.release.1, [(none, .cancelled b.release.2)]) else (b, [])
  | .reduce n goal => if n = number then (b.begin goal, []) else (b, [])
  | .poll n =>
    if n = number then
      ((b.poll e.toClock e.tokens).1, Engine.unplaced (b.poll e.toClock e.tokens).2)
    else (b, [])
  | .drop n => if n = number then (b.drop.1, Engine.unplaced b.drop.2) else (b, [])
  | .dispatch _ _ | .replicate _ _ _ _ | .cancelToken _ | .advance _ | .tick => (b, [])

/-- The moves of a batch. -/
inductive Batch.Move (e : Engine) (b : Batch) : Batch → Doings → Prop where
  | rest : Move e b b []
  | signal (position : Nat) (s : Signal) :
      Move e b (b.signal e.toClock e.tokens e.openings position s).1
        (Doings.here position (b.signal e.toClock e.tokens e.openings position s).2)
  | cancel : Move e b b.release.1 [(none, .cancelled b.release.2)]
  | begin (goal : Goal) : Move e b (b.begin goal) []
  | poll {after : Batch} {effects : List Effect} :
      b.Turn e.toClock e.tokens after effects → Move e b after (Engine.unplaced effects)
  | drop : Move e b b.drop.1 (Engine.unplaced b.drop.2)

/-- Every reaction is a move. -/
theorem Batch.react_move (b : Batch) (e : Engine) (number : Nat) (event : Engine.Event) :
    Move e b (b.react e number event).1 (b.react e number event).2 := by
  cases event with
  | signal n position s =>
    by_cases hn : n = number
    · simpa [react, hn] using Move.signal position s
    · simpa [react, hn] using Move.rest
  | cancel n =>
    by_cases hn : n = number
    · simpa [react, hn] using Move.cancel
    · simpa [react, hn] using Move.rest
  | reduce n goal =>
    by_cases hn : n = number
    · simpa [react, hn] using Move.begin goal
    · simpa [react, hn] using Move.rest
  | poll n =>
    by_cases hn : n = number
    · simpa [react, hn] using Move.poll (poll_turn e.toClock e.tokens b)
    · simpa [react, hn] using Move.rest
  | drop n =>
    by_cases hn : n = number
    · simpa [react, hn] using Move.drop
    · simpa [react, hn] using Move.rest
  | dispatch _ _ | replicate _ _ _ _ | cancelToken _ | advance _ | tick => exact .rest

/-- Why a worker of the batch must stop, if it must. -/
def Batch.stopFor (b : Batch) (e : Engine) (w : Worker) : Option Error :=
  w.interruption b.plan e.toClock (b.isCancelled e.tokens)

section Stops

variable {b : Batch} {e : Engine} {w : Worker} {error : Error}

/-- What wakes everybody who waits in a batch interrupts it. -/
theorem Batch.isInterrupted_of_isAlarmed (h : b.isAlarmed e.toClock e.tokens = true) :
    b.isInterrupted e.now e.tokens = true := by
  simp only [isAlarmed, isInterrupted, Bool.or_eq_true, decide_eq_true_eq] at h ⊢
  exact h.imp id Clock.le_now_of_hasFired

/-- Workers stop only when the batch is interrupted. -/
theorem Batch.isInterrupted_of_stopFor (h : b.stopFor e w = some error) :
    b.isInterrupted e.now e.tokens = true := by
  simp only [isInterrupted, Bool.or_eq_true, decide_eq_true_eq]
  exact (Worker.interruption_eq_some.mp h).1.imp id Worker.deadline_le_of_isLate

/-- While nothing interrupts the batch, no worker stops. -/
theorem Batch.stopFor_eq_none (h : b.isInterrupted e.now e.tokens = false) (w : Worker) :
    b.stopFor e w = none := by
  cases hstop : b.stopFor e w with
  | none => rfl
  | some error =>
    rw [isInterrupted_of_stopFor hstop] at h
    cases h

/-- Every worker stops when everybody who waits is woken. -/
theorem Batch.exists_stopFor (h : b.isAlarmed e.toClock e.tokens = true) (w : Worker) :
    ∃ error, b.stopFor e w = some error := by
  refine ⟨_, Worker.interruption_eq_some.mpr ⟨?_, rfl⟩⟩
  simp only [isAlarmed, Bool.or_eq_true] at h
  exact h.imp id fun hfired => Worker.isLate_of_hasFired hfired w

/-- A worker that waits stops exactly when everybody who waits is woken. -/
theorem Batch.stopFor_eq_none_iff (hwaiting : w.isWaiting = true) :
    b.stopFor e w = none ↔ b.isAlarmed e.toClock e.tokens = false := by
  rw [stopFor, Worker.interruption_eq_none, Worker.isLate_of_isWaiting hwaiting, isAlarmed,
    Bool.or_eq_false_iff]

end Stops

/-- A signal changes one worker, and its outcome goes into the channel. -/
theorem Batch.signal_eq {b : Batch} {position : Nat} {w : Worker} (e : Engine)
    (hw : b.workers[position]? = some w) (s : Signal) :
    let m := w.step b.plan (b.stopFor e w) e.openings s
    b.signal e.toClock e.tokens e.openings position s =
      ({ b with
          workers := b.workers.set position m.worker
          channel := m.outcome.elim b.channel b.channel.post },
        m.effects ++ m.outcome.elim [] fun o => [.posted o b.channel.posting]) := by
  intro m
  have hm : m = w.step b.plan (b.stopFor e w) e.openings s := rfl
  simp only [Batch.signal, hw]
  rw [show w.interruption b.plan e.toClock (b.isCancelled e.tokens) = b.stopFor e w from rfl, ← hm]
  cases m.outcome <;> rfl

theorem Batch.signal_of_none {b : Batch} {position : Nat} (e : Engine)
    (hw : b.workers[position]? = none) (s : Signal) :
    b.signal e.toClock e.tokens e.openings position s = (b, []) := by
  simp [Batch.signal, hw]

@[simp] theorem Batch.signal_stage (b : Batch) (e : Engine) (position : Nat) (s : Signal) :
    (b.signal e.toClock e.tokens e.openings position s).1.stage = b.stage := by
  cases hw : b.workers[position]? with
  | none => rw [signal_of_none e hw s]
  | some w => rw [signal_eq e hw s]

/-- A signal has effects of the worker itself, and a post at most. -/
theorem Batch.signal_effects {b : Batch} {e : Engine} {position : Nat} {s : Signal} {x : Effect}
    (hx : x ∈ (b.signal e.toClock e.tokens e.openings position s).2) :
    x.isOwn = true ∨ ∃ o posting, x = .posted o posting := by
  cases hw : b.workers[position]? with
  | none =>
    rw [signal_of_none e hw s] at hx
    cases hx
  | some w =>
    have hm := (Worker.step_transition b.plan (b.stopFor e w) e.openings w s).lawful
    rw [signal_eq e hw s] at hx
    rcases List.mem_append.mp hx with hx | hx
    · exact .inl (hm.own x hx)
    · cases hout : (w.step b.plan (b.stopFor e w) e.openings s).outcome with
      | none => simp [hout] at hx
      | some o =>
        simp only [hout, Option.elim_some, List.mem_singleton] at hx
        exact .inr ⟨o, _, hx⟩

/-- What no move changes: the plan, the parent token, the handler, the targets and the room in the
    channel.  A batch that was cancelled or released stays so, and none is released without being
    cancelled. -/
structure Batch.Persists (b after : Batch) : Prop where
  plan : after.plan = b.plan
  parent : after.parent = b.parent
  handler : after.handler = b.handler
  targets : after.workers.map Worker.target = b.workers.map Worker.target
  capacity : after.channel.capacity = b.channel.capacity
  cancelled : b.cancelled = true → after.cancelled = true
  released : b.released = true → after.released = true
  sound : (b.released = true → b.cancelled = true) → after.released = true → after.cancelled = true

theorem Batch.Persists.refl (b : Batch) : Persists b b := ⟨rfl, rfl, rfl, rfl, rfl, id, id, id⟩

theorem Batch.Persists.trans {b₁ b₂ b₃ : Batch} (h : Persists b₁ b₂) (k : Persists b₂ b₃) :
    Persists b₁ b₃ :=
  ⟨k.plan.trans h.plan, k.parent.trans h.parent, k.handler.trans h.handler,
    k.targets.trans h.targets, k.capacity.trans h.capacity, k.cancelled ∘ h.cancelled,
    k.released ∘ h.released, k.sound ∘ h.sound⟩

theorem Batch.Persists.size {b after : Batch} (h : Persists b after) : after.size = b.size := by
  simpa [Batch.size] using congrArg List.length h.targets

theorem Batch.Keeps.persists {b after : Batch} (h : Keeps b after) : Persists b after :=
  ⟨h.plan, h.parent, h.handler, by rw [h.workers], h.capacity, h.cancelled,
    h.released, h.sound⟩

@[simp] theorem Channel.post_capacity (c : Channel) (o : Outcome) :
    (c.post o).capacity = c.capacity := by
  unfold Channel.post
  split <;> rfl

/-- A signal changes what its worker did, and not what the batch is. -/
theorem Batch.signal_persists (b : Batch) (e : Engine) (position : Nat) (s : Signal) :
    Persists b (b.signal e.toClock e.tokens e.openings position s).1 := by
  cases hw : b.workers[position]? with
  | none => exact signal_of_none e hw s ▸ .refl b
  | some w =>
    rw [signal_eq e hw s]
    -- The worker that was replaced carries the same target.
    have htarget := (Worker.step_transition b.plan (b.stopFor e w) e.openings w s).lawful.target
    refine ⟨rfl, rfl, rfl, ?_, ?_, id, id, id⟩
    · obtain ⟨hlt, rfl⟩ := List.getElem?_eq_some_iff.mp hw
      simp only [List.map_set, htarget]
      rw [← List.getElem_map Worker.target (h := by simpa using hlt), List.set_getElem_self]
    · cases (w.step b.plan (b.stopFor e w) e.openings s).outcome <;> simp

theorem Batch.Move.persists {e : Engine} {b after : Batch} {d : Doings} (h : Move e b after d) :
    Persists b after := by
  cases h with
  | rest => exact .refl b
  | signal position s => exact signal_persists b e position s
  | cancel => exact (release_keeps b).persists
  | begin goal => exact (begin_keeps b goal).persists
  | poll hturn => exact hturn.keeps.persists
  | drop => exact (drop_keeps b).persists

/-- No move wakes a worker that has ended. -/
theorem Batch.Move.hasLive {e : Engine} {b after : Batch} {k : Doings} (h : Move e b after k)
    (hlive : after.hasLive = true) : b.hasLive = true := by
  cases h with
  | rest => exact hlive
  | cancel => simpa [Batch.hasLive, (release_keeps b).workers] using hlive
  | begin goal => simpa [Batch.hasLive, (begin_keeps b goal).workers] using hlive
  | poll hturn => simpa [Batch.hasLive, hturn.keeps.workers] using hlive
  | drop => simpa [Batch.hasLive, (drop_keeps b).workers] using hlive
  | signal position s =>
    cases hw : b.workers[position]? with
    | none => simpa [signal_of_none e hw s] using hlive
    | some w =>
      have hstep := Worker.step_transition b.plan (b.stopFor e w) e.openings w s
      rw [signal_eq e hw s] at hlive
      generalize w.step b.plan (b.stopFor e w) e.openings s = m at hstep hlive
      obtain ⟨v, hv, hvlive⟩ := List.any_eq_true.mp hlive
      -- The live worker is the one that moved, which was live before, or another one.
      rcases List.mem_or_eq_of_mem_set hv with hmem | rfl
      · exact List.any_eq_true.mpr ⟨v, hmem, hvlive⟩
      · refine List.any_eq_true.mpr ⟨w, List.mem_of_getElem? hw, ?_⟩
        rcases hstep.lawful.progress with ⟨_, hsame⟩ | ⟨o, hends⟩
        · exact hsame ▸ hvlive
        · exact hends.wasLive

namespace Engine

/-! ## §2 Beginnings -/

/-- A new batch, and what is done for it at once. -/
def begun (e : Engine) (op : Operation) (targets : List Target) : Batch × Doings :=
  let preparations := op.prepareAll e.client e.openings targets
  placeAll e.client (op.retryPolicyFor e.client) 0 (e.fresh op preparations) preparations

/-- What is told when a replicated operation has a handler. -/
def ignored (op : Operation) : Doings :=
  if op.handler.isSome then
    [(none, .logged (Log.debug "response handler dropped for replicated write" []))]
  else []

/-- The events that begin a batch for a list of targets, with the batch and what it does first. -/
inductive Birth (e : Engine) : Event → List Target → Batch → Doings → Prop where
  | dispatch (op : Operation) (targets : List Target) :
      Birth e (.dispatch op targets) targets (e.begun op targets).1
        ((none, .dispatched targets.length) :: (e.begun op targets).2)
  | replicate (op : Operation) (targets : List Target) (threshold : Threshold)
      (acceptance : Acceptance) :
      Birth e (.replicate op targets threshold acceptance) targets
        ((e.begun { op with handler := none } targets).1.begin (.decide threshold acceptance))
        (ignored op ++ (none, .dispatched targets.length) ::
          (e.begun { op with handler := none } targets).2)

/-- The targets of the batch that an event begins. -/
def Event.targets? : Event → Option (List Target)
  | .dispatch _ targets | .replicate _ targets _ _ => some targets
  | _ => none

/-- An event with targets begins a batch, which comes after all others. -/
theorem step_of_targets {event : Event} {targets : List Target} (e : Engine)
    (h : event.targets? = some targets) :
    ∃ b d, Birth e event targets b d ∧ (e.step event).1.batches = e.batches ++ [b] ∧
      (e.step event).2 = e.records e.batches.length d := by
  cases event with
  | dispatch op ts =>
    obtain rfl : ts = targets := by simpa [Event.targets?] using h
    exact ⟨_, _, .dispatch op ts, rfl, rfl⟩
  | replicate op ts threshold acceptance =>
    obtain rfl : ts = targets := by simpa [Event.targets?] using h
    refine ⟨_, _, .replicate op ts threshold acceptance, ?_, ?_⟩
    · simp [step, change, dispatch, begun]
    · by_cases hhandler : op.handler.isSome = true <;>
        simp [step, change, dispatch, begun, ignored, records, hhandler]
  | _ => simp [Event.targets?] at h

/-! ## §3 One event -/

theorem step_advance (e : Engine) (d : Duration) :
    e.step (.advance d) = ({ e with toClock := e.toClock.pass d }, []) := rfl

theorem step_tick (e : Engine) : e.step .tick = ({ e with toClock := e.toClock.tick }, []) := rfl

/-- A step that only sets the clock records nothing and leaves every batch as it is.  The clock is a
    variable here, so that it is never computed. -/
theorem quiet_step {e : Engine} {event : Event} {c : Clock} {number : Nat} {b : Option Batch}
    (hstep : e.step event = ({ e with toClock := c }, [])) (hb : e.batches[number]? = b) :
    (e.step event).1.batches[number]? = b ∧ (e.step event).2.of number = [] := by
  rw [hstep]
  exact ⟨hb, rfl⟩

theorem change_share {e : Engine} {number : Nat} {b : Batch}
    (hb : e.batches[number]? = some b) (n : Nat) (f : Batch → Batch × Doings) :
    (e.change n f).1.batches[number]? = some (if n = number then (f b).1 else b) ∧
      (e.change n f).2.of number = if n = number then (f b).2 else [] := by
  unfold change
  by_cases hn : n = number
  · subst hn
    obtain ⟨hlt, rfl⟩ := List.getElem?_eq_some_iff.mp hb
    simp [hlt]
  · cases hother : e.batches[n]? with
    | none => simp [hn, hb]
    | some other => simp [hn, hb, List.getElem?_set_ne hn, History.of_records_ne hn]

theorem signal_share {e : Engine} {number : Nat} {b : Batch}
    (hb : e.batches[number]? = some b) (n position : Nat) (s : Signal) :
    (e.signal n position s).1.batches[number]? =
        some (if n = number then (b.signal e.toClock e.tokens e.openings position s).1 else b) ∧
      (e.signal n position s).2.of number =
        if n = number then
          Doings.here position (b.signal e.toClock e.tokens e.openings position s).2
        else [] := by
  unfold signal
  by_cases hn : n = number
  · subst hn
    obtain ⟨hlt, rfl⟩ := List.getElem?_eq_some_iff.mp hb
    simp [hlt, Doings.here]
  · cases hother : e.batches[n]? with
    | none => simp [hn, hb]
    | some other => simp [hn, hb, List.getElem?_set_ne hn, History.of_records_ne hn]

/-- A batch does not react to the beginning of another one. -/
theorem step_share_of_targets {e : Engine} {number : Nat} {b : Batch} {event : Event}
    {targets : List Target} (hb : e.batches[number]? = some b)
    (htargets : event.targets? = some targets) :
    (e.step event).1.batches[number]? = some (b.react e number event).1 ∧
      (e.step event).2.of number = (b.react e number event).2 := by
  have hlt : number < e.batches.length := (List.getElem?_eq_some_iff.mp hb).1
  -- Only `step_of_targets` is needed: the new batch has a number of its own.
  have hrest : b.react e number event = (b, []) := by
    cases event with
    | dispatch _ _ | replicate _ _ _ _ => rfl
    | _ => simp [Event.targets?] at htargets
  obtain ⟨b', d, _, hbatches, hhistory⟩ := step_of_targets e htargets
  rw [hbatches, hhistory, hrest]
  exact ⟨by simp [List.getElem?_append_left hlt, hb],
    History.of_records_ne (Nat.ne_of_gt hlt) e d⟩

/-- What an event does to a batch is the reaction of that batch. -/
theorem step_share {e : Engine} {number : Nat} {b : Batch} (hb : e.batches[number]? = some b)
    (event : Event) :
    (e.step event).1.batches[number]? = some (b.react e number event).1 ∧
      (e.step event).2.of number = (b.react e number event).2 := by
  cases event with
  | dispatch op targets =>
    have htargets : (Event.dispatch op targets).targets? = some targets := rfl
    exact step_share_of_targets hb htargets
  | replicate op targets threshold acceptance =>
    have htargets : (Event.replicate op targets threshold acceptance).targets? = some targets := rfl
    exact step_share_of_targets hb htargets
  | signal n position s =>
    have h := signal_share hb n position s
    by_cases hn : n = number <;> simpa [step, Batch.react, hn] using h
  | cancel n =>
    have h := change_share hb n fun b => (b.release.1, [(none, .cancelled b.release.2)])
    by_cases hn : n = number <;> simpa [step, Batch.react, hn] using h
  | reduce n goal =>
    have h := change_share hb n fun b => (b.begin goal, [])
    by_cases hn : n = number <;> simpa [step, Batch.react, hn] using h
  | poll n =>
    have h := change_share hb n fun b =>
      ((b.poll e.toClock e.tokens).1, unplaced (b.poll e.toClock e.tokens).2)
    by_cases hn : n = number <;> simpa [step, Batch.react, hn] using h
  | drop n =>
    have h := change_share hb n fun b => (b.drop.1, unplaced b.drop.2)
    by_cases hn : n = number <;> simpa [step, Batch.react, hn] using h
  | cancelToken name => exact ⟨hb, rfl⟩
  | advance d => exact quiet_step (step_advance e d) hb
  | tick => exact quiet_step (step_tick e) hb

/-- A number without a batch either stays so, with nothing recorded under it, or it is the number of
    the batch that the event begins. -/
theorem step_unborn {e : Engine} {number : Nat} (hnone : e.batches[number]? = none)
    (event : Event) :
    ((e.step event).1.batches[number]? = none ∧ (e.step event).2.of number = []) ∨
      (number = e.batches.length ∧ ∃ targets b d, Birth e event targets b d ∧
        (e.step event).1.batches[number]? = some b ∧ (e.step event).2.of number = d) := by
  have hle : e.batches.length ≤ number := List.getElem?_eq_none_iff.mp hnone
  cases htargets : event.targets? with
  | some targets =>
    obtain ⟨b, d, hbirth, hbatches, hhistory⟩ := step_of_targets e htargets
    rw [hbatches, hhistory]
    -- The new batch takes the first free number.
    rcases Nat.eq_or_lt_of_le hle with heq | hlt
    · subst heq
      exact .inr ⟨rfl, targets, b, d, hbirth, by simp, by simp⟩
    · exact .inl ⟨by simp; omega, History.of_records_ne (Nat.ne_of_lt hlt) e d⟩
  | none =>
    refine .inl ?_
    -- The remaining events change a batch that exists, or no batch at all.
    have hchange (n : Nat) (f : Batch → Batch × Doings) :
        (e.change n f).1.batches[number]? = none ∧ (e.change n f).2.of number = [] := by
      unfold change
      cases hn : e.batches[n]? with
      | none => exact ⟨hnone, rfl⟩
      | some b =>
        have hlt : n < e.batches.length := (List.getElem?_eq_some_iff.mp hn).1
        exact ⟨by simpa using hle, History.of_records_ne (by omega) e _⟩
    cases event with
    | dispatch _ _ | replicate _ _ _ _ => simp [Event.targets?] at htargets
    | signal n position s =>
      simp only [step, signal]
      cases hn : e.batches[n]? with
      | none => exact ⟨hnone, rfl⟩
      | some b =>
        have hlt : n < e.batches.length := (List.getElem?_eq_some_iff.mp hn).1
        exact ⟨by simpa using hle, History.of_records_ne (by omega) e _⟩
    | cancel n | reduce n _ | poll n | drop n => exact hchange n _
    | cancelToken _ => exact ⟨hnone, rfl⟩
    | advance d => exact quiet_step (step_advance e d) hnone
    | tick => exact quiet_step (step_tick e) hnone

/-! ## §4 Runs -/

/-- A client that was told nothing, before it does anything. -/
def plain : Engine := start (ClientBuilder.ofConfig .standard).build ⟨0⟩

theorem run_append (e : Engine) (xs ys : List Event) :
    e.run (xs ++ ys) =
      (((e.run xs).1.run ys).1, (e.run xs).2 ++ ((e.run xs).1.run ys).2) := by
  -- The state in which the second part begins is that after the first.
  induction xs generalizing e with
  | nil => simp [run]
  | cons x xs ih => simp [run, ih]

theorem run_concat (e : Engine) (events : List Event) (event : Event) :
    e.run (events ++ [event]) =
      (((e.run events).1.step event).1, (e.run events).2 ++ ((e.run events).1.step event).2) := by
  simp [run_append, run]

variable {client : Client} {now : Instant}

/-- A number without a batch has nothing recorded under it. -/
theorem run_unborn (events : List Event) {number : Nat}
    (hnone : ((start client now).run events).1.batches[number]? = none) :
    ((start client now).run events).2.of number = [] := by
  induction events using List.reverseRecOn with
  | nil => rfl
  | append_singleton events event ih =>
    rw [run_concat] at hnone ⊢
    -- Batches are never removed, so that there was none before either.
    cases hbefore : ((start client now).run events).1.batches[number]? with
    | some b =>
      have hafter := (step_share hbefore event).1
      simp_all
    | none =>
      rcases step_unborn hbefore event with ⟨_, hnothing⟩ | ⟨_, _, b, _, _, hborn, _⟩
      · simp [ih hbefore, hnothing]
      · simp_all

/-- **Induction over the life of a batch**: what holds of every new batch and is kept by every
    reaction holds of every batch in every run.  The property sees the events so far, the state of
    the client, and what the batch has done. -/
theorem run_induction {P : List Event → Engine → Nat → Batch → Doings → Prop}
    (born : ∀ events event targets b d,
      Birth ((start client now).run events).1 event targets b d →
      P (events ++ [event]) (((start client now).run events).1.step event).1
        ((start client now).run events).1.batches.length b d)
    (moved : ∀ events event number b d,
      ((start client now).run events).1.batches[number]? = some b →
      P events ((start client now).run events).1 number b d →
      P (events ++ [event]) (((start client now).run events).1.step event).1 number
        (b.react ((start client now).run events).1 number event).1
        (d ++ (b.react ((start client now).run events).1 number event).2))
    (events : List Event) {number : Nat} {b : Batch}
    (hb : ((start client now).run events).1.batches[number]? = some b) :
    P events ((start client now).run events).1 number b
      (((start client now).run events).2.of number) := by
  induction events using List.reverseRecOn generalizing b with
  | nil => simp [run, start] at hb
  | append_singleton events event ih =>
    rw [run_concat] at hb ⊢
    -- Either the batch was there before the last event, or the event began it.
    cases hbefore : ((start client now).run events).1.batches[number]? with
    | some before =>
      obtain ⟨hafter, hdoings⟩ := step_share hbefore event
      obtain rfl : _ = b := Option.some.inj (hafter.symm.trans hb)
      rw [History.of_append, hdoings]
      exact moved events event number before _ hbefore (ih hbefore)
    | none =>
      rcases step_unborn hbefore event with ⟨hnone, _⟩ | ⟨hnumber, _, b', d, hbirth, hborn, hdoings⟩
      · simp_all
      · obtain rfl : b' = b := Option.some.inj (hborn.symm.trans hb)
        rw [History.of_append, run_unborn events hbefore, hdoings, hnumber]
        exact born events event _ b' d hbirth

/-- What holds of every new batch and is kept by every move is an invariant of all batches. -/
theorem run_invariant {P : Batch → Doings → Prop}
    (born : ∀ e event targets b d, Birth e event targets b d → P b d)
    (moved : ∀ e b d after k, P b d → b.Move e after k → P after (d ++ k))
    (events : List Event) {number : Nat} {b : Batch}
    (hb : ((start client now).run events).1.batches[number]? = some b) :
    P b (((start client now).run events).2.of number) :=
  run_induction (P := fun _ _ _ b d => P b d)
    (fun _ _ _ _ _ hbirth => born _ _ _ _ _ hbirth)
    (fun _ _ _ b _ _ hinv => moved _ _ _ _ _ hinv (b.react_move _ _ _))
    events hb

/-- What a batch and its client keep through every event holds of them after every run from there,
    and what each reaction is bound to holds of everything that the batch does in the run. -/
theorem run_safe {P : Engine → Batch → Prop} {A : Placed → Prop} {number : Nat}
    (moved : ∀ e event b, e.batches[number]? = some b → P e b →
      P (e.step event).1 (b.react e number event).1 ∧ ∀ x ∈ (b.react e number event).2, A x)
    (events : List Event) {e : Engine} {b : Batch} (hb : e.batches[number]? = some b)
    (hP : P e b) :
    ∃ after, (e.run events).1.batches[number]? = some after ∧ P (e.run events).1 after ∧
      ∀ x ∈ (e.run events).2.of number, A x := by
  -- Forwards from here: each event keeps `P` and is bound to `A`, and so are the rest.
  induction events generalizing e b with
  | nil => exact ⟨b, hb, hP, by simp [run]⟩
  | cons event rest ih =>
    obtain ⟨hafter, hdoings⟩ := step_share hb event
    obtain ⟨hkept, hsafe⟩ := moved e event b hb hP
    obtain ⟨last, hlast, hPlast, hrest⟩ := ih hafter hkept
    refine ⟨last, hlast, hPlast, fun x hx => ?_⟩
    simp only [run, History.of_append, hdoings, List.mem_append] at hx
    rcases hx with hx | hx
    · exact hsafe x hx
    · exact hrest x hx

/-- **Induction along a run that begins with a batch**: what holds of the batch that an event begins
    and is kept by its reaction to every later event holds of it after every run from there. -/
theorem run_along {e : Engine} {event : Event} {targets : List Target}
    {P : List Event → Batch → Prop} (htargets : event.targets? = some targets)
    (born : ∀ b d, Birth e event targets b d →
      (e.step event).2 = e.records e.batches.length d → P [] b)
    (moved : ∀ after next b, (e.run (event :: after)).1.batches[e.batches.length]? = some b →
      P after b → P (after ++ [next])
        (b.react (e.run (event :: after)).1 e.batches.length next).1)
    (after : List Event) :
    ∃ b, (e.run (event :: after)).1.batches[e.batches.length]? = some b ∧ P after b := by
  induction after using List.reverseRecOn with
  | nil =>
    obtain ⟨b, d, hbirth, hbatches, hhistory⟩ := step_of_targets e htargets
    exact ⟨b, by simp [run, hbatches], born b d hbirth hhistory⟩
  | append_singleton after next ih =>
    obtain ⟨b, hb, hP⟩ := ih
    refine ⟨_, ?_, moved after next b hb hP⟩
    rw [← List.cons_append, run_concat]
    exact (step_share hb next).1

/-- What holds of the batch that an event begins and is kept by every move holds of this batch in
    every run from there. -/
theorem run_of_birth {P : Batch → Doings → Prop} (before after : List Event) {event : Event}
    {targets : List Target} (htargets : event.targets? = some targets)
    (born : ∀ b d, Birth ((start client now).run before).1 event targets b d → P b d)
    (moved : ∀ e b d after k, P b d → b.Move e after k → P after (d ++ k)) :
    ∃ b, ((start client now).run (before ++ event :: after)).1.batches[
        ((start client now).run before).1.batches.length]? = some b ∧
      P b (((start client now).run (before ++ event :: after)).2.of
        ((start client now).run before).1.batches.length) := by
  have hnone : ((start client now).run before).1.batches[
      ((start client now).run before).1.batches.length]? = none := by simp
  -- The number of the batch was free before, so that nothing was recorded under it.
  rw [run_append, History.of_append, run_unborn before hnone, List.nil_append]
  refine run_along (P := fun after b => P b
    ((((start client now).run before).1.run (event :: after)).2.of
      ((start client now).run before).1.batches.length)) htargets ?_ ?_ after
  · intro b d hbirth hhistory
    simpa [run, hhistory] using born b d hbirth
  · intro after next b hb hP
    rw [← List.cons_append, run_concat, History.of_append, (step_share hb next).2]
    exact moved _ b _ _ _ hP (b.react_move _ _ next)

/-- The batch that an event begins is there for good, and stays what it was at first. -/
theorem run_born (client : Client) (now : Instant) (before after : List Event) {event : Event}
    {targets : List Target} (htargets : event.targets? = some targets) :
    ∃ last, ((start client now).run (before ++ event :: after)).1.batches[
        ((start client now).run before).1.batches.length]? = some last ∧
      ∃ b d, Birth ((start client now).run before).1 event targets b d ∧ b.Persists last := by
  refine run_of_birth (P := fun last _ => ∃ b d,
    Birth ((start client now).run before).1 event targets b d ∧ b.Persists last)
    before after htargets (fun b d hbirth => ⟨b, d, hbirth, .refl b⟩) ?_
  rintro e last _ later k ⟨b, d, hbirth, hkept⟩ hmove
  exact ⟨b, d, hbirth, hkept.trans hmove.persists⟩

/-- A batch is there for good, and stays what it is. -/
theorem run_persists (events : List Event) {e : Engine} {number : Nat} {b : Batch}
    (hb : e.batches[number]? = some b) :
    ∃ after, (e.run events).1.batches[number]? = some after ∧ b.Persists after := by
  obtain ⟨after, hafter, hkept, _⟩ := run_safe (P := fun _ now => b.Persists now)
    (A := fun _ => True) (fun e event now _ hkept =>
      ⟨hkept.trans (now.react_move e number event).persists, fun _ _ => trivial⟩)
    events hb (.refl b)
  exact ⟨after, hafter, hkept⟩

/-- The plan of a batch is the same at any two times. -/
theorem run_plan {e : Engine} {xs ys : List Event} {number : Nat} {b later : Batch}
    (hb : (e.run xs).1.batches[number]? = some b)
    (hlater : (e.run (xs ++ ys)).1.batches[number]? = some later) : later.plan = b.plan := by
  obtain ⟨after, hafter, hkept⟩ := run_persists ys hb
  rw [run_append] at hlater
  obtain rfl := Option.some.inj (hafter.symm.trans hlater)
  exact hkept.plan

end Engine

end Replicast
