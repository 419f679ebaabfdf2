import Replicast.Proofs.Interruption
/-!
# The release of a batch

A batch is released by the first call of one of its handles, by its reducer, or by its drop, and
whoever comes later finds it released.  Its parent token cancels it without releasing it.

## Overview

* `Effect.isRelease` are the calls that took effect.
* `Batch.Release` lists what a move can have to do with the release of its batch, and
  `Batch.Move.release` finds the case of a move.
* `Engine.step_alone` says that whatever is done for one batch leaves the tokens and the other
  batches as they are.
* `Engine.run_released_once` is the result.
-/

namespace Replicast

/-! ## §1 Calls that take effect -/

/-- Whether an effect is a call that released its batch: a handle's, or the one of a reducer or a
    drop, which is told. -/
def Effect.isRelease : Effect → Bool
  | .cancelled effective => effective
  | .logged event => event.message == "batch released"
  | _ => false

namespace Worker

variable {p : Plan} {stop : Option Error} {openings : Nat} {w : Worker} {s : Signal} {m : Move}

private theorem finish_releases_nothing {events : List Log.Event} {o : Outcome}
    (h : ∀ event ∈ events, event.message ≠ "batch released") :
    (w.finish events o).effects.countP Effect.isRelease = 0 := by
  refine List.countP_eq_zero.mpr fun x hx => ?_
  simp only [finish, List.mem_append, List.mem_map, List.mem_cons, List.not_mem_nil, or_false] at hx
  rcases hx with ⟨event, hevent, rfl⟩ | rfl | rfl
  · simpa [Effect.isRelease] using h event hevent
  · simp [Effect.isRelease]
  · simp [Effect.isRelease]

private theorem fail_releases_nothing (w : Worker) (e : Error) :
    (w.fail e).effects.countP Effect.isRelease = 0 :=
  finish_releases_nothing (by simp [Log.debug])

private theorem failReading_releases_nothing (w : Worker) (head : ResponseHead) (e : Error) :
    (w.failReading head e).effects.countP Effect.isRelease = 0 :=
  finish_releases_nothing (by simp [Log.warn])

/-- A worker releases nothing. -/
theorem Transition.releases_nothing (h : Transition p stop openings w s m) :
    m.effects.countP Effect.isRelease = 0 := by
  cases h with
  | stay _ | enter _ | resume _ _ | panic _ _ => rfl
  | stop _ _ => exact fail_releases_nothing w _
  | stopReading _ _ => exact failReading_releases_nothing w _ _
  | bodyEnd _ _ => exact finish_releases_nothing (by simp)
  | attempt _ _ =>
    have hattempt := attempt_attempt p openings w
    generalize w.attempt p openings = m at hattempt ⊢
    cases hattempt with
    | initial _ | fresh _ _ _ | empty _ _ => simp [send, Effect.isRelease, Log.debug]
    | unopened _ _ _ hm =>
      subst hm
      simpa [Effect.isRelease] using fail_releases_nothing w.nextAttempt _
  | receive a _ _ =>
    have hreception := receive_reception p w a
    generalize w.receive p a = m at hreception ⊢
    cases hreception with
    | final _ => simp [readFrom, Effect.isRelease, Log.debug]
    | @again head _ _ =>
      unfold retryAfter
      cases p.retryPolicy.backoffAfter head.status <;> simp [Effect.isRelease, Log.warn]
    | failed _ => simpa [Effect.isRelease] using fail_releases_nothing w _
    | failedAgain _ => simp [Effect.isRelease, Log.warn]
  | @frame head reader f _ _ =>
    unfold readFrame
    cases reader.step p.maxResponseBodyBytes f with
    | ok next => rfl
    | error fault => exact failReading_releases_nothing w _ _

end Worker

namespace Batch

variable {b middle after : Batch} {effects more : List Effect}

/-! ## §2 What moves have to do with it -/

/-- What a part of a move has to do with the release of its batch. -/
inductive Release (b after : Batch) (effects : List Effect) : Prop where
  /-- The batch is as released and as cancelled as before, and no call took effect. -/
  | idle :
      after.released = b.released → after.cancelled = b.cancelled →
      effects.countP Effect.isRelease = 0 → Release b after effects
  /-- One call took effect, and the batch was not released before. -/
  | first :
      b.released = false → after.released = true → after.cancelled = true →
      effects.countP Effect.isRelease = 1 → Release b after effects

/-- One part after another: two calls cannot both take effect. -/
theorem Release.trans (h : Release b middle effects) (k : Release middle after more) :
    Release b after (effects ++ more) := by
  cases h with
  | idle hreleased hcancelled hnone =>
    cases k with
    | idle hreleased' hcancelled' hnone' =>
      exact .idle (hreleased'.trans hreleased) (hcancelled'.trans hcancelled)
        (by rw [List.countP_append, hnone, hnone'])
    | first hbefore hreleased' hcancelled' hone =>
      exact .first (hreleased ▸ hbefore) hreleased' hcancelled'
        (by rw [List.countP_append, hnone, hone])
  | first hbefore hreleased hcancelled hone =>
    cases k with
    | idle hreleased' hcancelled' hnone =>
      exact .first hbefore (hreleased'.trans hreleased) (hcancelled'.trans hcancelled)
        (by rw [List.countP_append, hone, hnone])
    | first hbefore' _ _ _ =>
      rw [hreleased] at hbefore'
      cases hbefore'

/-- What does not touch the batch, and is no call, has nothing to do with its release. -/
theorem Release.nothing (hnone : effects.countP Effect.isRelease = 0) : Release b b effects :=
  .idle rfl rfl hnone

/-- Only the released and the cancelled flag count. -/
theorem Release.congr (h : Release b middle effects) (hreleased : after.released = middle.released)
    (hcancelled : after.cancelled = middle.cancelled) : Release b after effects := by
  have hsame : Release middle after [] := .idle hreleased hcancelled rfl
  simpa using h.trans hsame

/-- A handle releases the batch exactly if it says so. -/
theorem release_release (b : Batch) : Release b b.release.1 [.cancelled b.release.2] := by
  unfold release
  cases hreleased : b.released with
  | true => exact .nothing rfl
  | false => exact .first hreleased rfl rfl rfl

/-- A handler that cancels does it through a handle. -/
theorem judge_release (b : Batch) (o : Outcome) : Release b (b.judge o).1 (b.judge o).2.1 := by
  unfold judge
  cases b.handler with
  | none => exact .nothing rfl
  | some handler =>
    by_cases hcancel : (handler o).cancels = true
    · simpa [hcancel] using (release_release b).trans (.nothing rfl)
    · simp only [hcancel, Bool.false_eq_true, if_false, List.nil_append]
      exact .nothing rfl

/-- Whoever closes a batch releases it, and tells so if nobody did it before. -/
theorem close_release (b : Batch) (stage : Stage) :
    Release b (b.close stage).1 (b.close stage).2 := by
  unfold close release
  cases hreleased : b.released with
  | true => exact .idle (by simp [hreleased]) rfl rfl
  | false => exact .first hreleased rfl rfl rfl

theorem conclude_release (b : Batch) (r : Reduction) :
    Release b (b.conclude r).1 (b.conclude r).2 :=
  (close_release b _).trans (.nothing rfl)

/-- What is told about a report is no call. -/
private theorem events_release_nothing (report : QuorumReport) (acceptance : Acceptance) :
    ((report.events acceptance).map Effect.logged).countP Effect.isRelease = 0 := by
  refine List.countP_eq_zero.mpr fun x hx => ?_
  obtain ⟨event, hevent, rfl⟩ := List.mem_map.mp hx
  simp only [QuorumReport.events, List.mem_append, List.mem_map, List.mem_singleton] at hevent
  rcases hevent with (⟨o, _, rfl⟩ | hinterrupted) | rfl
  · unfold QuorumReport.replicaEvent
    split <;> simp [Effect.isRelease, Log.debug, Log.warn]
  · unfold QuorumReport.interruptionEvent at hinterrupted
    split at hinterrupted
    · obtain rfl := List.mem_singleton.mp hinterrupted
      simp [Effect.isRelease, Log.warn]
    · cases hinterrupted
  · unfold QuorumReport.verdictEvent
    dsimp only
    split <;> simp [Effect.isRelease, Log.info, Log.warn]

theorem finish_release (b : Batch) (goal : Goal) (progress : Progress) (interrupted : Bool) :
    Release b (b.finish goal progress interrupted).1 (b.finish goal progress interrupted).2 := by
  cases goal with
  | drain =>
    have hdrained : Release b b [.logged (Log.debug "batch drained"
        [("received", .nat progress.consumed.length), b.sizeField,
          ("failed", .nat progress.errors.length), ("interrupted", .bool interrupted)])] :=
      .nothing rfl
    exact hdrained.trans (conclude_release b _)
  | first | join => exact conclude_release b _
  | decide threshold acceptance =>
    exact ((close_release b _).trans (.nothing (events_release_nothing _ acceptance))).trans
      (.nothing rfl)

theorem consume_release (b : Batch) (goal : Goal) (progress : Progress) (o : Outcome) :
    Release b (b.consume goal progress o).1 (b.consume goal progress o).2 := by
  cases goal with
  | join | decide _ _ => exact .idle rfl rfl rfl
  | drain => exact (judge_release b o).congr rfl rfl
  | first =>
    cases hverdict : (b.judge o).2.2 with
    | error e =>
      simp only [consume, hverdict]
      exact (judge_release b o).congr rfl rfl
    | ok u =>
      simp only [consume, hverdict]
      have haccepted : Release (b.judge o).1 (b.judge o).1
          [.logged (Log.debug "first accepted outcome"
            [("index", .nat o.target.index), ("received", .nat (progress.consumed ++ [o]).length),
              (b.judge o).1.sizeField])] := .nothing rfl
      exact (judge_release b o).trans (haccepted.trans (conclude_release _ _))

theorem Turn.release {c : Clock} {tokens : List String}
    (h : Turn c tokens b after effects) : Release b after effects := by
  cases h with
  | idle => exact .nothing rfl
  | complete _ _ => exact finish_release b _ _ _
  | cutShort _ _ _ =>
    refine Release.trans (.nothing ?_) (finish_release b _ _ _)
    unfold nextEvents
    split <;> rfl
  | @take goal progress o rest _ _ _ _ =>
    have htaken : Release b { b with channel := rest } [.consumed o] := .idle rfl rfl rfl
    exact htaken.trans (consume_release _ goal progress o)

theorem drop_release (b : Batch) : Release b b.drop.1 b.drop.2 := by
  unfold drop
  split
  · exact close_release b _
  · exact close_release b _
  · exact .nothing rfl
  · exact .nothing rfl

theorem signal_release (b : Batch) (e : Engine) (position : Nat) (s : Signal) :
    Release b (b.signal e.toClock e.tokens e.openings position s).1
      (b.signal e.toClock e.tokens e.openings position s).2 := by
  cases hw : b.workers[position]? with
  | none =>
    rw [signal_of_none e hw s]
    exact .nothing rfl
  | some w =>
    have hnothing :=
      (Worker.step_transition b.plan (b.stopFor e w) e.openings w s).releases_nothing
    rw [signal_eq e hw s]
    generalize w.step b.plan (b.stopFor e w) e.openings s = m at hnothing
    -- The post of a worker that ends is no call either.
    refine .idle rfl rfl ?_
    cases hout : m.outcome <;> simp [hnothing, Effect.isRelease]

/-- **Every move releases its batch once at most**, and only a batch that was not released. -/
theorem Move.release {e : Engine} {k : Doings} (h : Move e b after k) :
    Release b after (k.map (·.2)) := by
  have hplaced (place : Option Nat) (effects : List Effect) :
      (effects.map fun x => (place, x)).map (·.2) = effects := by simp [Function.comp_def]
  cases h with
  | rest => exact .nothing rfl
  | signal position s => exact (hplaced (some position) _).symm ▸ signal_release b e position s
  | cancel => exact release_release b
  | begin goal =>
    unfold Batch.begin
    split <;> exact .idle rfl rfl rfl
  | poll hturn => exact (hplaced none _).symm ▸ hturn.release
  | drop => exact (hplaced none _).symm ▸ drop_release b

/-! ## §3 The life of a batch -/

/-- Whether the batch was reduced or dropped. -/
def isOver (b : Batch) : Bool :=
  match b.stage with
  | .reduced _ | .dropped => true
  | .kept | .reducing _ _ => false

/-- A batch that is over was reduced or dropped. -/
theorem ended_of_isOver (h : b.isOver = true) :
    b.stage = .dropped ∨ ∃ r, b.stage = .reduced r := by
  unfold isOver at h
  cases hstage : b.stage <;> simp_all

/-- How a batch stands to the calls of its handles: it is released exactly when one of them took
    effect, and its own token is cancelled exactly when it is released. -/
structure Governed (b : Batch) (d : Doings) : Prop where
  once : d.countP (fun x => x.2.isRelease) = b.released.toNat
  own : b.cancelled = b.released

/-- Every move keeps the account of the calls. -/
theorem Governed.move {e : Engine} {d k : Doings} (h : Governed b d) (hmove : Move e b after k) :
    Governed after (d ++ k) := by
  have hcount : (k.map (·.2)).countP Effect.isRelease = k.countP fun x => x.2.isRelease :=
    List.countP_map
  cases hmove.release with
  | idle hreleased hcancelled hnone =>
    refine ⟨?_, hcancelled.trans (h.own.trans hreleased.symm)⟩
    rw [List.countP_append, h.once, ← hcount, hnone, hreleased, Nat.add_zero]
  | first hbefore hreleased hcancelled hone =>
    refine ⟨?_, hcancelled.trans hreleased.symm⟩
    rw [List.countP_append, h.once, ← hcount, hone, hbefore, hreleased]
    rfl

end Batch

/-! ## §4 Runs -/

namespace Engine

variable {client : Client} {now : Instant} {e : Engine}

/-- No call is made while a request is built. -/
theorem place_releases_nothing (policy : RetryPolicy) (position : Nat) (b : Batch)
    (p : Operation.Preparation) :
    (place client policy position b p).2.countP (fun x => x.2.isRelease) = 0 := by
  unfold place
  cases p.copy <;> cases p.intercepted <;> cases p.opened <;>
    simp [Batch.post, Effect.isRelease, buildEvent, Log.warn]

theorem placeAll_releases_nothing (policy : RetryPolicy) (preparations : List Operation.Preparation)
    (position : Nat) (b : Batch) :
    (placeAll client policy position b preparations).2.countP (fun x => x.2.isRelease) = 0 := by
  induction preparations generalizing position b with
  | nil => rfl
  | cons p rest ih =>
    simp only [placeAll, List.countP_append, place_releases_nothing, ih]

theorem begun_releases_nothing (op : Operation) (targets : List Target) :
    ((none, .dispatched targets.length) :: (e.begun op targets).2 : Doings).countP
      (fun x => x.2.isRelease) = 0 := by
  have hplaced : (e.begun op targets).2.countP (fun x => x.2.isRelease) = 0 :=
    placeAll_releases_nothing _ _ _ _
  rw [List.countP_cons, hplaced]
  rfl

/-- A batch begins without a call of its handles. -/
theorem Birth.governed {event : Event} {targets : List Target} {b : Batch} {d : Doings}
    (h : Birth e event targets b d) : b.Governed d := by
  obtain ⟨_, hnew⟩ := h.newborn
  have hnone : d.countP (fun x => x.2.isRelease) = 0 := by
    cases h with
    | dispatch op targets => exact begun_releases_nothing op targets
    | replicate op targets threshold acceptance =>
      have hignored : (ignored op).countP (fun x => x.2.isRelease) = 0 := by
        unfold ignored
        split <;> simp [Effect.isRelease, Log.debug]
      rw [List.countP_append, hignored, begun_releases_nothing]
  exact ⟨by rw [hnone, hnew.released]; rfl, hnew.cancelled.trans hnew.released.symm⟩

/-- In every run, a batch is released exactly by the calls that took effect. -/
theorem run_governed (events : List Event) {number : Nat} {b : Batch}
    (hb : ((start client now).run events).1.batches[number]? = some b) :
    b.Governed (((start client now).run events).2.of number) :=
  run_invariant (fun _ _ _ _ _ hbirth => hbirth.governed) (fun _ _ _ _ _ h hmove => h.move hmove)
    events hb

/-- In every run, a batch that is over was released. -/
theorem run_over (events : List Event) {number : Nat} {b : Batch}
    (hb : ((start client now).run events).1.batches[number]? = some b)
    (hover : b.isOver = true) : b.released = true := by
  have hreleases : b.Releases (((start client now).run events).2.of number) :=
    run_invariant (fun _ _ _ _ _ hbirth =>
        let ⟨_, hnew⟩ := hbirth.newborn
        Batch.releases_of_newborn hnew)
      (fun _ _ _ _ _ h hmove => h.move hmove) events hb
  exact hreleases.ended (Batch.ended_of_isOver hover)

/-- A batch that was released is released no more. -/
theorem run_released (events : List Event) {number : Nat} {b : Batch}
    (hb : e.batches[number]? = some b) (hreleased : b.released = true) :
    ∃ after, (e.run events).1.batches[number]? = some after ∧ after.released = true ∧
      ∀ x ∈ (e.run events).2.of number, x.2.isRelease = false := by
  refine run_safe (P := fun _ b => b.released = true) (A := fun x => x.2.isRelease = false)
    (fun e event b _ hreleased => ?_) events hb hreleased
  have hmove := b.react_move e number event
  refine ⟨hmove.persists.released hreleased, fun x hx => ?_⟩
  cases hmove.release with
  | idle _ _ hnone =>
    simpa using List.countP_eq_zero.mp hnone x.2 (List.mem_map_of_mem hx)
  | first hbefore _ _ _ =>
    rw [hreleased] at hbefore
    cases hbefore

/-- A batch that was cancelled stays so. -/
theorem run_cancelled (events : List Event) {number : Nat} {b : Batch}
    (hb : e.batches[number]? = some b) (hcancelled : b.isCancelled e.tokens = true) :
    ∃ after, (e.run events).1.batches[number]? = some after ∧
      after.isCancelled (e.run events).1.tokens = true := by
  obtain ⟨after, hafter, hlasts, _⟩ := run_safe
    (P := fun e b => b.isCancelled e.tokens = true) (A := fun _ => True)
    (fun e event b _ hcancelled =>
      ⟨Batch.cancelled_step hcancelled (b.react_move e number event).persists event,
        fun _ _ => trivial⟩)
    events hb hcancelled
  exact ⟨after, hafter, hlasts⟩

/-! ## §5 Tokens and other batches -/

/-- Whatever is done for one batch leaves the tokens and all other batches as they are. -/
theorem step_alone {event : Event} {r : Record} (hr : r ∈ (e.step event).2) :
    (e.step event).1.tokens = e.tokens ∧
      ∀ other, other ≠ r.batch → (e.step event).1.batches[other]? = e.batches[other]? := by
  have hbatch {number : Nat} {d : Doings} (hmem : r ∈ e.records number d) : r.batch = number := by
    obtain ⟨x, _, rfl⟩ := List.mem_map.mp hmem
    rfl
  cases htargets : event.targets? with
  | some targets =>
    -- A new batch stands behind all others.
    obtain ⟨b, d, _, hbatches, hhistory⟩ := step_of_targets e htargets
    rw [hhistory] at hr
    have hnumber := hbatch hr
    refine ⟨?_, fun other hother => ?_⟩
    · cases event with
      | dispatch _ _ => rfl
      | replicate _ _ _ _ =>
        simp only [step]
        exact (change_time _ _ _).2
      | _ => cases htargets
    · rw [hbatches]
      rcases Nat.lt_or_ge other e.batches.length with hlt | hge
      · exact List.getElem?_append_left hlt
      · rw [List.getElem?_eq_none hge, List.getElem?_eq_none (by simp; omega)]
  | none =>
    have hchange (number : Nat) (f : Batch → Batch × Doings) (hmem : r ∈ (e.change number f).2) :
        (e.change number f).1.tokens = e.tokens ∧
          ∀ other, other ≠ r.batch →
            (e.change number f).1.batches[other]? = e.batches[other]? := by
      refine ⟨(change_time e number f).2, fun other hother => ?_⟩
      unfold change at hmem ⊢
      cases hb : e.batches[number]? with
      | none => rfl
      | some b =>
        rw [hb] at hmem
        obtain rfl := hbatch hmem
        exact List.getElem?_set_ne hother.symm
    cases event with
    | dispatch _ _ | replicate _ _ _ _ => cases htargets
    | signal number position s =>
      simp only [step, signal] at hr ⊢
      cases hb : e.batches[number]? with
      | none => exact ⟨rfl, fun _ _ => rfl⟩
      | some b =>
        rw [hb] at hr
        obtain rfl := hbatch hr
        exact ⟨rfl, fun other hother => List.getElem?_set_ne hother.symm⟩
    | cancel number | reduce number _ | poll number | drop number => exact hchange number _ hr
    | cancelToken _ | advance _ | tick => cases hr

/-- A token is cancelled by an event of its own only. -/
theorem step_tokens (e : Engine) (event : Event) (name : String) :
    name ∈ (e.step event).1.tokens ↔ name ∈ e.tokens ∨ event = .cancelToken name := by
  have hchange (e : Engine) (number : Nat) (f : Batch → Batch × Doings) :
      name ∈ (e.change number f).1.tokens ↔ name ∈ e.tokens := by
    rw [(change_time e number f).2]
  cases event with
  | cancelToken other => simp [step, or_comm, eq_comm]
  | advance d => simp [(quiet_clock (step_advance e d)).2.1]
  | tick => simp [(quiet_clock (step_tick e)).2.1]
  | dispatch _ _ => simp [step, dispatch]
  | replicate _ _ _ _ => simp [step, hchange, dispatch]
  | signal number position s =>
    simp only [step, signal]
    cases e.batches[number]? <;> simp
  | cancel number | reduce number _ | poll number | drop number => simp [step, hchange]

theorem run_tokens (e : Engine) (events : List Event) (name : String) :
    name ∈ (e.run events).1.tokens ↔ name ∈ e.tokens ∨ .cancelToken name ∈ events := by
  induction events generalizing e with
  | nil => simp [run]
  | cons event rest ih =>
    rw [show (e.run (event :: rest)).1 = ((e.step event).1.run rest).1 from rfl, ih, step_tokens,
      List.mem_cons, or_assoc, eq_comm (a := event)]

/-- A batch begins under the token of its operation. -/
theorem Birth.parent {event : Event} {targets : List Target} {b : Batch} {d : Doings}
    (h : Birth e event targets b d) {op : Operation} (hop : event.operation? = some op) :
    b.parent = op.parent := by
  cases h with
  | dispatch op' _ =>
    obtain rfl := Option.some.inj hop
    rw [(begun_enqueue e op' targets).1]
    rfl
  | replicate op' _ threshold acceptance =>
    obtain rfl := Option.some.inj hop
    rw [(Batch.begin_keeps _ _).parent, (begun_enqueue e { op' with handler := none } targets).1]
    rfl

/-- **A batch is released once, and alone.**  Take a batch after any run that began it.  As many calls
    took effect as it is released, one or none, counting those of its handles, of its handler, of its
    reducer and of its drop; it is released when it was reduced or dropped.  It is cancelled exactly
    when it is released or the token of its operation was cancelled, before it began or after.
    However the run goes on, what is released or cancelled stays so, and once the batch is released
    no call takes effect any more; and the call that releases it leaves all tokens and all other
    batches as they are. -/
theorem run_released_once (client : Client) (now : Instant) (before after : List Event)
    {event : Event} {op : Operation} (hop : event.operation? = some op) :
    let number := ((start client now).run before).1.batches.length
    let events := before ++ event :: after
    let e := ((start client now).run events).1
    let history := ((start client now).run events).2
    ∃ b, e.batches[number]? = some b ∧
      (history.of number).countP (fun x => x.2.isRelease) = b.released.toNat ∧
      (b.isOver = true → b.released = true) ∧
      (b.isCancelled e.tokens = true ↔
        b.released = true ∨ ∃ name, op.parent = some name ∧ .cancelToken name ∈ events) ∧
      (∀ further, ∃ later, (e.run further).1.batches[number]? = some later ∧
        (b.isCancelled e.tokens = true → later.isCancelled (e.run further).1.tokens = true) ∧
        (b.released = true → later.released = true ∧
          ∀ r ∈ (e.run further).2, r.batch = number → r.effect.isRelease = false)) ∧
      ∀ next, ∀ r ∈ (e.step next).2, r.batch = number → r.effect.isRelease = true →
        (e.step next).1.tokens = e.tokens ∧
          ∀ other, other ≠ number → (e.step next).1.batches[other]? = e.batches[other]? := by
  intro number events e history
  obtain ⟨targets, htargets⟩ := Event.exists_targets hop
  obtain ⟨b, hb, first, d, hbirth, hkept⟩ := run_born client now before after htargets
  have hgoverned : b.Governed (history.of number) := run_governed events hb
  have hparent : b.parent = op.parent := hkept.parent.trans (hbirth.parent hop)
  have htokens (name : String) : name ∈ e.tokens ↔ .cancelToken name ∈ events :=
    (run_tokens (start client now) events name).trans (by simp [start])
  refine ⟨b, hb, hgoverned.once, run_over events hb, ?_, fun further => ?_, ?_⟩
  · simp [Batch.isCancelled, hgoverned.own, hparent, Option.any_eq_true, htokens]
  · obtain ⟨later, hlater, _⟩ := run_persists further hb
    refine ⟨later, hlater, fun hcancelled => ?_, fun hreleased => ?_⟩
    · obtain ⟨same, hsame, hlasts⟩ := run_cancelled further hb hcancelled
      obtain rfl := Option.some.inj (hsame.symm.trans hlater)
      exact hlasts
    · obtain ⟨same, hsame, hlasts, hnothing⟩ := run_released further hb hreleased
      obtain rfl := Option.some.inj (hsame.symm.trans hlater)
      exact ⟨hlasts, fun r hr hnumber => hnothing _ (History.mem_of hr hnumber)⟩
  · intro next r hr hnumber _
    obtain ⟨htokens, hothers⟩ := step_alone hr
    exact ⟨htokens, hnumber ▸ hothers⟩

/-- A batch for one target under the token `"t"` begins. -/
def underToken (url : String) : Event :=
  .dispatch { Operation.new .get "x" with parent := some "t" } [⟨0, url⟩]

/-- A handle of the first batch is told to cancel twice before the batch is dropped, and then the
    token `"t"` is cancelled. -/
def releasingEvents : List Event := [.cancel 0, .cancel 0, .drop 0, .cancelToken "t"]

/-- Of two batches under one token, one call takes effect for the first and none for the second, which
    is cancelled all the same. -/
theorem run_released_once_dropped :
    let done := plain.run (underToken "http://a" :: underToken "http://b" :: releasingEvents)
    (∃ b, done.1.batches[0]? = some b ∧ b.isOver = true ∧ b.released = true ∧
      (done.2.of 0).countP (fun x => x.2.isRelease) = 1) ∧
    ∃ b, done.1.batches[1]? = some b ∧ b.released = false ∧
      b.isCancelled done.1.tokens = true ∧ (done.2.of 1).countP (fun x => x.2.isRelease) = 0 := by
  intro done
  have hfirst : (done.1.batches[0]?.any fun b => b.isOver) = true := by decide +kernel
  have hsecond : (done.1.batches[1]?.any fun b => !b.released) = true := by decide +kernel
  constructor
  · have hop : (underToken "http://a").operation? = some _ := rfl
    obtain ⟨b, hb, honce, hended, _⟩ := run_released_once (ClientBuilder.ofConfig .standard).build
      ⟨0⟩ [] (underToken "http://b" :: releasingEvents) hop
    obtain ⟨b', hb', hover⟩ := (Option.any_eq_true _ _).mp hfirst
    obtain rfl := Option.some.inj (hb.symm.trans hb')
    have hreleased := hended hover
    exact ⟨b, hb', hover, hreleased, honce.trans (by rw [hreleased]; rfl)⟩
  · have hop : (underToken "http://b").operation? = some _ := rfl
    obtain ⟨b, hb, honce, _, hcancelled, _⟩ := run_released_once
      (ClientBuilder.ofConfig .standard).build ⟨0⟩ [underToken "http://a"] releasingEvents hop
    obtain ⟨b', hb', hkept⟩ := (Option.any_eq_true _ _).mp hsecond
    obtain rfl := Option.some.inj (hb.symm.trans hb')
    have hkept : b.released = false := by simpa using hkept
    exact ⟨b, hb', hkept, hcancelled.mpr (.inr ⟨"t", rfl, by simp [releasingEvents]⟩),
      honce.trans (by rw [hkept]; rfl)⟩

end Engine

end Replicast
