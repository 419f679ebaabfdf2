import Replicast.Proofs.Attempts
import Replicast.Proofs.Delivery
import Replicast.Proofs.Engine.Origin
/-!
# Attempts in outcomes

An outcome says how many attempts were made for its target, and this is the number of requests that
were handed to the transport, but for two ends of a worker: the outcome of one that panicked tells
of no attempt, and that of one that could not open a fresh copy of the body tells of one attempt too
many.  The latter outcome has an error of building a request although requests were sent.

## Overview

* `Worker.Counts` says how the attempts of a live worker stand to the requests that were sent, and
  `Outcome.Accounts` how those of an outcome do.
* `Engine.run_reckoned` says that they stand so in every run.
* `Engine.run_attempts` and `Engine.run_build_errors` are the results.
-/

namespace Replicast

/-! ## §1 The count of a live worker -/

namespace Worker

variable {p : Plan} {stop : Option Error} {openings : Nat} {w : Worker} {s : Signal} {m : Move}
  {requests : Nat}

/-- The count of a live worker: as many attempts as requests were sent for its target, within the
    bound of the policy.  A response is read only when it is final. -/
structure Counts (p : Plan) (w : Worker) (requests : Nat) : Prop where
  made : w.attempts = requests
  within : w.attempts ≤ max p.retryPolicy.maxAttempts 1
  spare : w.pace = .between → w.attempts = 0 ∨ w.attempts < p.retryPolicy.maxAttempts
  begun : w.isWaiting = true ∨ w.initial = none → 0 < w.attempts
  final : ∀ head reader, w.phase = .reading head reader →
    head.status.isTerminalSuccess = true ∨ p.retryPolicy.maxAttempts ≤ w.attempts

/-- A request is sent within the bound, and counted. -/
theorem Counts.send (h : Counts p w requests) (hphase : w.phase = .ready) (opened : List Effect)
    (copy : Stream) : Counts p (w.nextAttempt.send p opened copy).worker (requests + 1) := by
  have hspare := h.spare (by simp [pace, hphase])
  refine ⟨congrArg (· + 1) h.made, ?_, ?_, fun _ => Nat.succ_pos _, ?_⟩
  · show w.attempts + 1 ≤ _
    omega
  · simp [Worker.send, pace]
  · simp [Worker.send]

theorem Counts.attempt (h : Counts p w requests) (hphase : w.phase = .ready)
    (hattempt : Attempt p openings w m) (hlive : m.worker.isLive = true) :
    Counts p m.worker (requests + m.effects.countP Effect.isRequest) := by
  cases hattempt with
  | initial _ | empty _ _ => exact h.send hphase [] _
  | fresh _ _ _ => exact h.send hphase [.opened] _
  | unopened _ _ _ hm =>
    subst hm
    cases hlive

/-- Between two attempts, or with a final response, the count stays. -/
theorem Counts.goOn (h : Counts p w requests) (hphase : w.phase = .sending) {v : Worker}
    (hattempts : v.attempts = w.attempts)
    (hspare : v.pace = .between → w.attempts < p.retryPolicy.maxAttempts)
    (hfinal : ∀ head reader, v.phase = .reading head reader →
      head.status.isTerminalSuccess = true ∨ p.retryPolicy.maxAttempts ≤ w.attempts) :
    Counts p v requests := by
  have hbegun := h.begun (.inl (by simp [isWaiting, hphase]))
  exact ⟨hattempts.trans h.made, hattempts ▸ h.within,
    fun hpace => .inr (hattempts ▸ hspare hpace), fun _ => hattempts ▸ hbegun,
    fun head reader hreading => hattempts ▸ hfinal head reader hreading⟩

theorem Counts.receive {a : Answer} (h : Counts p w requests) (hphase : w.phase = .sending)
    (hreception : Reception p w a m) (hlive : m.worker.isLive = true) :
    Counts p m.worker (requests + m.effects.countP Effect.isRequest) := by
  cases hreception with
  | @final head hfinal =>
    refine h.goOn hphase rfl (by simp [readFrom, pace]) fun head' reader hreading => ?_
    obtain ⟨rfl, _⟩ := Phase.reading.inj hreading
    exact hfinal
  | @again head _ hspare =>
    -- With or without a pause, there is an attempt to spare.
    unfold retryAfter
    cases p.retryPolicy.backoffAfter head.status with
    | none => exact h.goOn hphase rfl (fun _ => hspare) (by simp)
    | some d => exact h.goOn hphase rfl (fun _ => hspare) (by simp)
  | failed _ => cases hlive
  | failedAgain hspare => exact h.goOn hphase rfl (fun _ => hspare) (by simp)

/-- **Every move that leaves its worker live keeps the count.** -/
theorem Counts.transition (h : Counts p w requests) (hmove : Transition p stop openings w s m)
    (hlive : m.worker.isLive = true) :
    Counts p m.worker (requests + m.effects.countP Effect.isRequest) := by
  cases hmove with
  | stay _ => exact h
  | enter hphase =>
    exact ⟨h.made, h.within, fun _ => h.spare (by simp [pace, hphase]),
      fun hor => h.begun (hor.imp (by simp [isWaiting]) id), by simp⟩
  | stop _ _ | stopReading _ _ | bodyEnd _ _ | panic _ _ => cases hlive
  | attempt _ hphase => exact h.attempt hphase (attempt_attempt p openings w) hlive
  | receive a _ hphase => exact h.receive hphase (receive_reception p w a) hlive
  | resume _ hphase =>
    have hbegun := h.begun (.inl (by simp [isWaiting, hphase]))
    exact ⟨h.made, h.within, fun _ => h.spare (by simp [pace, hphase]), fun _ => hbegun, by simp⟩
  | @frame head reader f _ hphase =>
    unfold readFrame at hlive ⊢
    cases hread : reader.step p.maxResponseBodyBytes f with
    | error fault => simp [hread, failReading, finish, isLive] at hlive
    | ok next =>
      -- The response stays the same while it is read.
      have hbegun := h.begun (.inl (by simp [isWaiting, hphase]))
      refine ⟨h.made, h.within, by simp [pace], fun _ => hbegun, fun head' reader' hreading => ?_⟩
      obtain ⟨rfl, _⟩ := Phase.reading.inj hreading
      exact h.final head reader hphase

/-- A move that ends its worker sends nothing. -/
theorem Transition.unsent (h : Transition p stop openings w s m)
    (hended : m.worker.isLive = false) : m.effects.countP Effect.isRequest = 0 := by
  have hpace : m.worker.pace ≠ .sending := by
    unfold isLive at hended
    unfold pace
    cases hphase : m.worker.phase <;> simp_all
  rw [← countP_filter_trial (fun _ => Effect.isTrial_of_isRequest)]
  have hdeed := h.deed
  generalize m.effects.filter Effect.isTrial = deeds at hdeed ⊢
  cases hdeed with
  | nothing _ => rfl
  | send _ _ _ hafter _ => exact absurd hafter hpace
  | last a _ _ _ => cases a <;> rfl
  | again a pauses _ _ _ _ _ hpauses => rcases hpauses with rfl | ⟨d, rfl⟩ <;> cases a <;> rfl

end Worker

/-! ## §2 The count of an outcome -/

/-- Whether an outcome says that no fresh copy of the body could be opened for a further attempt. -/
def Outcome.isUnopened (o : Outcome) : Bool :=
  o.error.any (fun e => e.code == .bodyReplay) && 0 < o.attempts

/-- How the attempts of an outcome stand to the requests that were sent for its target. -/
inductive Outcome.Accounts (p : Plan) (requests : Nat) (o : Outcome) : Prop where
  /-- The request could not be built. -/
  | refused {e : Error} :
      o.error = some e → e.isBuildError = true → o.attempts = 0 → requests = 0 →
      Accounts p requests o
  /-- Every attempt was sent. -/
  | sent :
      (∀ e, o.error = some e → e.isBuildError = false ∧ e.code ≠ .workerAborted) →
      o.attempts = requests → Accounts p requests o
  /-- The last attempt was not sent, for want of a fresh copy of the body. -/
  | unopened {e : Error} :
      o.error = some e → e.code = .bodyReplay → p.replays o.request = true →
      o.attempts = requests + 1 →
      0 < requests → Accounts p requests o
  /-- The worker was torn down, and no attempt is told of. -/
  | aborted {e : Error} :
      o.error = some e → e.code = .workerAborted → o.attempts = 0 → 0 < requests →
      Accounts p requests o

namespace Worker

variable {p : Plan} {stop : Option Error} {openings : Nat} {w : Worker} {s : Signal} {m : Move}
  {o : Outcome} {requests : Nat} {effects : List Effect}

/-- **Every end of a worker accounts for its requests.** -/
theorem Ending.accounts (h : Ending p stop w s o) (hcounts : Counts p w requests)
    (hstop : ∀ e, stop = some e → e.isBuildError = false ∧ e.code ≠ .workerAborted) :
    o.Accounts p requests := by
  cases h with
  | stopped hstopped _ | stoppedReading hstopped _ =>
    refine .sent (fun e he => ?_) hcounts.made
    obtain rfl := Option.some.inj he
    exact hstop _ hstopped
  | unopened _ _ hinitial hreplays =>
    -- The first attempt had its copy, so that this is a later one.
    have hbegun := hcounts.begun (.inr hinitial)
    exact .unopened rfl rfl hreplays (congrArg (· + 1) hcounts.made) (hcounts.made ▸ hbegun)
  | failed _ _ _ =>
    refine .sent (fun e he => ?_) hcounts.made
    obtain rfl := Option.some.inj he
    exact ⟨rfl, by simp [transportError, Error.code]⟩
  | @unread _ fault _ _ _ _ =>
    refine .sent (fun e he => ?_) hcounts.made
    obtain rfl := Option.some.inj he
    cases fault <;> exact ⟨rfl, by simp [bodyError, Error.code]⟩
  | read _ _ => exact .sent (by simp [report]) hcounts.made
  | aborted _ hwaiting =>
    exact .aborted rfl rfl rfl (hcounts.made ▸ hcounts.begun (.inl hwaiting))

/-- The reckoning of a target: while its worker is live, nothing is posted and the attempts are
    counted; what was posted when it has ended accounts for the requests. -/
structure Reckoned (p : Plan) (w : Worker) (effects : List Effect) : Prop where
  going : w.isLive = true →
    w.Counts p (effects.countP Effect.isRequest) ∧ effects.filterMap Effect.posted? = []
  ended : w.isLive = false →
    ∀ o ∈ effects.filterMap Effect.posted?, o.Accounts p (effects.countP Effect.isRequest)

/-- A new worker has made no attempt, and a target without one was refused. -/
theorem reckoned_workerOf {pre : Operation.Preparation}
    (hcopy : ∀ e, pre.copy = .error e → e.isBuildError = true)
    (hunsent : effects.countP Effect.isRequest = 0)
    (hposted : effects.filterMap Effect.posted? = pre.failure?.toList) :
    Reckoned p (Engine.workerOf pre) effects := by
  unfold Engine.workerOf
  unfold Operation.Preparation.failure? at hposted
  cases hpre : pre.copy with
  | ok copy =>
    simp only [hpre] at hposted
    refine ⟨fun _ => ⟨⟨hunsent.symm, Nat.zero_le _, fun _ => .inl rfl, ?_, by simp⟩, hposted⟩,
      by simp [isLive]⟩
    simp [isWaiting]
  | error e =>
    simp only [hpre] at hposted
    refine ⟨by simp [isLive], fun _ o ho => ?_⟩
    obtain rfl : o = Outcome.failed pre.target pre.head e := by simpa [hposted] using ho
    exact .refused rfl (hcopy e hpre) rfl hunsent

/-- Every move keeps the reckoning. -/
theorem Reckoned.transition (h : Reckoned p w effects) (hmove : Transition p stop openings w s m)
    (hstop : ∀ e, stop = some e → e.isBuildError = false ∧ e.code ≠ .workerAborted)
    (posting : Channel.Posting) : Reckoned p m.worker (effects ++ m.doings posting) := by
  have hrequests : (m.doings posting).countP Effect.isRequest =
      m.effects.countP Effect.isRequest := by
    cases hout : m.outcome <;> simp [Move.doings, hout, Effect.isRequest]
  rcases hmove.lawful.progress with ⟨hnone, hsame⟩ | ⟨o, hends⟩
  · -- Without an outcome the worker is as live as it was.
    refine ⟨fun hlive => ?_, fun hended => ?_⟩
    · obtain ⟨hcounts, hposted⟩ := h.going (hsame ▸ hlive)
      rw [List.countP_append, List.filterMap_append, hrequests, hposted,
        hmove.lawful.posted posting, hnone]
      exact ⟨hcounts.transition hmove hlive, rfl⟩
    · rw [List.countP_append, List.filterMap_append, hrequests, hmove.unsent hended,
        hmove.lawful.posted posting, hnone, Option.toList_none, List.append_nil]
      exact h.ended (hsame ▸ hended)
  · -- With one it was live, and the outcome is the first to be posted.
    obtain ⟨hcounts, hposted⟩ := h.going hends.wasLive
    refine ⟨fun hlive => absurd hlive (by simp [hends.ended]), fun hended o' ho => ?_⟩
    rw [List.filterMap_append, hposted, hmove.lawful.posted posting, hends.outcome] at ho
    obtain rfl : o' = o := by simpa using ho
    rw [List.countP_append, hrequests, hmove.unsent hended]
    exact (hmove.ending hends.outcome).accounts hcounts hstop

end Worker

/-! ## §3 Runs -/

/-- The requests that were handed to the transport for the target at a position of a batch. -/
def History.requestsFor (h : History) (batch position : Nat) : Nat :=
  ((h.of batch).effectsAt position).countP Effect.isRequest

/-- An error of building is no panic. -/
theorem Error.not_aborted_of_isBuildError {e : Error} (h : e.isBuildError = true) :
    e.code ≠ .workerAborted := by
  intro hcode
  unfold isBuildError at h
  rw [hcode] at h
  cases h

namespace Engine

variable {client : Client} {now : Instant}

/-- To be stopped is neither an error of building nor a panic. -/
theorem stopFor_notBuild {b : Batch} {e : Engine} {w : Worker} {error : Error}
    (h : b.stopFor e w = some error) :
    error.isBuildError = false ∧ error.code ≠ .workerAborted := by
  refine ⟨?_, stopFor_code h⟩
  unfold Error.isBuildError
  rcases stopFor_reason h with hcode | hcode <;>
    · rw [hcode]
      rfl

/-- In every run, the requests for every target are accounted for. -/
theorem run_reckoned (events : List Event) {number position : Nat} {b : Batch} {w : Worker}
    (hb : ((start client now).run events).1.batches[number]? = some b)
    (hw : b.workers[position]? = some w) :
    w.Reckoned b.plan ((((start client now).run events).2.of number).effectsAt position) := by
  refine worker_induction (P := fun _ p w effects => w.Reckoned p effects) ?_ ?_ ?_ events hb hw
  · intro events event targets b d preparations p _ hnew hp
    rw [hnew.here position p hp]
    refine Worker.reckoned_workerOf (hnew.failure p (List.mem_of_getElem? hp)) ?_
      (p.doings_posted _ _)
    rw [← countP_filter_trial (fun _ => Effect.isTrial_of_isRequest), doings_trials]
    rfl
  · intro events b w effects s _ _ hreckoned
    exact hreckoned.transition (Worker.step_transition _ _ _ _ _) (fun _ => stopFor_notBuild) _
  · exact fun _ _ _ _ _ _ hreckoned => hreckoned

/-- A post is one of a target of a batch that is there. -/
theorem run_posted {events : List Event} {r : Record}
    (hr : r ∈ ((start client now).run events).2) {o : Outcome} {posting : Channel.Posting}
    (hposted : r.effect = .posted o posting) :
    ∃ b i w, ((start client now).run events).1.batches[r.batch]? = some b ∧ r.position = some i ∧
      b.workers[i]? = some w ∧ o ∈ (((start client now).run events).2.of r.batch).postedAt i := by
  have hb := List.getElem?_eq_getElem (run_batch_lt events r hr)
  have hmem := History.mem_of hr rfl
  rw [hposted] at hmem
  obtain ⟨i, hi, hplace⟩ := (run_ledger events hb).placed _ hmem (by simp [Effect.posted?])
  have hplace : r.position = some i := hplace
  rw [hplace] at hmem
  exact ⟨_, i, _, hb, hplace, List.getElem?_eq_getElem hi,
    List.mem_filterMap.mpr ⟨_, Doings.mem_effectsAt.mpr hmem, rfl⟩⟩

/-- Every outcome that a run posts accounts for the requests for its target. -/
theorem run_accounts {events : List Event} {r : Record}
    (hr : r ∈ ((start client now).run events).2) {o : Outcome} {posting : Channel.Posting}
    (hposted : r.effect = .posted o posting) :
    ∃ b i, ((start client now).run events).1.batches[r.batch]? = some b ∧ r.position = some i ∧
      o.Accounts b.plan (((start client now).run events).2.requestsFor r.batch i) := by
  obtain ⟨b, i, w, hb, hplace, hw, hmine⟩ := run_posted hr hposted
  obtain ⟨hgoing, hended⟩ := run_reckoned events hb hw
  refine ⟨b, i, hb, hplace, hended ?_ o hmine⟩
  -- A live worker has posted nothing.
  by_contra hlive
  have hnothing : (((start client now).run events).2.of r.batch).postedAt i = [] :=
    (hgoing (by simpa using hlive)).2
  rw [hnothing] at hmine
  cases hmine

/-- **Attempts in outcomes.**  The attempts of an outcome are the requests that were handed to the
    transport for its target, unless its worker was torn down by a panic or could not open a fresh
    copy of the body.  In the first case at least one request was sent, and the outcome tells of
    none; in the second, it tells of one more than were sent. -/
theorem run_attempts (client : Client) (now : Instant) (events : List Event) {r : Record}
    (hr : r ∈ ((start client now).run events).2) {o : Outcome} {posting : Channel.Posting}
    (hposted : r.effect = .posted o posting) :
    ∃ i, r.position = some i ∧
      let sent := ((start client now).run events).2.requestsFor r.batch i
      (o.attempts = sent ↔ o.isAborted = false ∧ o.isUnopened = false) ∧
        (o.isAborted = true → o.attempts = 0 ∧ 0 < sent) ∧
        (o.isUnopened = true → o.attempts = sent + 1 ∧ 0 < sent) := by
  obtain ⟨b, i, _, hplace, haccounts⟩ := run_accounts hr hposted
  refine ⟨i, hplace, ?_⟩
  generalize ((start client now).run events).2.requestsFor r.batch i = sent at haccounts
  cases haccounts with
  | @refused e he hbuild hattempts hsent =>
    have hcode := Error.not_aborted_of_isBuildError hbuild
    simp [Outcome.isAborted, Outcome.isUnopened, he, hcode, hattempts, hsent]
  | sent hother hsent =>
    have haborted : o.isAborted = false := by
      cases he : o.error with
      | none => simp [Outcome.isAborted, he]
      | some e => simp [Outcome.isAborted, he, (hother e he).2]
    have hunopened : o.isUnopened = false := by
      cases he : o.error with
      | none => simp [Outcome.isUnopened, he]
      | some e =>
        have hcode : e.code ≠ .bodyReplay := by
          intro hcode
          have hbuild := (hother e he).1
          unfold Error.isBuildError at hbuild
          rw [hcode] at hbuild
          cases hbuild
        simp [Outcome.isUnopened, he, hcode]
    simp [haborted, hunopened, hsent]
  | @unopened e he hcode _ hattempts hsent =>
    simp [Outcome.isAborted, Outcome.isUnopened, he, hcode, hattempts, hsent]
  | @aborted e he hcode hattempts hsent =>
    have hne : 0 ≠ sent := Nat.ne_of_lt hsent
    simp [Outcome.isAborted, Outcome.isUnopened, he, hcode, hattempts, hsent, hne]

/-- Four targets: the request of the last one cannot be built. -/
def spentTargets : List Target :=
  [⟨0, "http://a"⟩, ⟨1, "http://b"⟩, ⟨2, "http://c"⟩, ⟨3, "::"⟩]

/-- A body that can be opened three times, once for each request that can be built. -/
def spentOperation : Operation :=
  { Operation.new .put "x" with body := .factory fun n => if n < 3 then .ok [] else .error "spent" }

/-- The first target is told to try again, the worker of the second one panics, and the third one
    answers. -/
def spentEvents : List Event :=
  [.dispatch spentOperation spentTargets, .signal 0 0 .turn, .signal 0 1 .turn, .signal 0 2 .turn,
    .signal 0 0 .turn, .signal 0 1 .turn, .signal 0 2 .turn,
    .signal 0 0 (.answer (.response ⟨⟨502, by decide⟩, .http11, Header.Map.empty⟩)),
    .signal 0 0 .turn, .signal 0 1 .panic,
    .signal 0 2 (.answer (.response ⟨Status.ok, .http11, Header.Map.empty⟩)), .signal 0 2 .bodyEnd]

/-- For the first of `spentTargets` one request is sent, and two attempts are told of. -/
theorem run_attempts_spent :
    ∃ r ∈ (plain.run spentEvents).2, ∃ o posting, r.effect = .posted o posting ∧
      o.isUnopened = true ∧ ∃ i, r.position = some i ∧
        o.attempts = (plain.run spentEvents).2.requestsFor r.batch i + 1 := by
  have hthere : ((plain.run spentEvents).2.any fun r =>
      r.effect.posted?.any Outcome.isUnopened) = true := by decide +kernel
  obtain ⟨r, hr, o, posting, hposted, hunopened⟩ := History.exists_post hthere
  obtain ⟨i, hplace, _, _, hattempts⟩ := run_attempts _ _ spentEvents hr hposted
  exact ⟨r, hr, o, posting, hposted, hunopened, i, hplace, (hattempts hunopened).1⟩

/-- The attempts of an outcome are not always the requests that were sent. -/
theorem attempts_miscounted :
    ¬ ∀ events, ∀ r ∈ (plain.run events).2, ∀ o posting i, r.effect = .posted o posting →
      r.position = some i → o.attempts = (plain.run events).2.requestsFor r.batch i := by
  intro hall
  have hthere : ((plain.run spentEvents).2.any fun r => r.effect.posted?.any fun o =>
      r.position.any fun i =>
        o.attempts != (plain.run spentEvents).2.requestsFor r.batch i) = true := by decide +kernel
  obtain ⟨r, hr, o, posting, hposted, hany⟩ := History.exists_post hthere
  obtain ⟨i, hplace, hne⟩ := (Option.any_eq_true _ _).mp hany
  exact bne_iff_ne.mp hne (hall spentEvents r hr o posting i hposted hplace)

/-! ## §4 Errors of building -/

/-- For a target whose request could not be built nothing is done but what the dispatch did. -/
theorem run_refused (before after : List Event) {event : Event} {op : Operation}
    {targets : List Target} (hop : event.operation? = some op)
    (htargets : event.targets? = some targets) {i : Nat} {p : Operation.Preparation}
    {error : Error}
    (hp : (op.prepareAll client ((start client now).run before).1.openings targets)[i]? = some p)
    (hcopy : p.copy = .error error) :
    ∃ policy, (((start client now).run (before ++ event :: after)).2.of
      ((start client now).run before).1.batches.length).effectsAt i = p.doings client policy := by
  have hclient : ((start client now).run before).1.client = client := run_client _ before
  obtain ⟨b, d, hbirth, hbatches, hhistory⟩ :=
    step_of_targets ((start client now).run before).1 htargets
  obtain ⟨op', hop', _, hnew⟩ := hbirth.prepared
  obtain rfl := Option.some.inj (hop.symm.trans hop')
  rw [hclient] at hnew
  have hnone : ((start client now).run before).1.batches[
      ((start client now).run before).1.batches.length]? = none := by simp
  have hb : (((start client now).run before).1.step event).1.batches[
      ((start client now).run before).1.batches.length]? = some b := by simp [hbatches]
  -- There is no worker, so that nothing comes after the dispatch.
  have hw : b.workers[i]? = some (workerOf p) := by simp [hnew.workers, hp]
  have hended : (workerOf p).isLive = false := by simp [workerOf, hcopy, Worker.isLive]
  have hrest := run_ended after hb hw hended
  refine ⟨b.plan.retryPolicy, ?_⟩
  rw [run_append, History.of_append, run_unborn before hnone, List.nil_append]
  simp only [run, History.of_append, Doings.effectsAt_append, hrest, List.append_nil, hhistory,
    History.of_records, hnew.here i p hp, hclient]

/-- **Errors of building.**  An outcome with an error of building a request tells of no attempt
    exactly when no request was sent for its target.  Otherwise the error is that no fresh copy of
    the body could be opened for a further attempt, and one request less was sent than it tells of
    attempts.  Every target whose request could not be built by the dispatch has an outcome with an
    error of building, and for it nothing is ever sent. -/
theorem run_build_errors (client : Client) (now : Instant) (events : List Event) :
    let e := ((start client now).run events).1
    let history := ((start client now).run events).2
    (∀ r ∈ history, ∀ o posting error, r.effect = .posted o posting → o.error = some error →
      error.isBuildError = true →
      ∃ b i, e.batches[r.batch]? = some b ∧ r.position = some i ∧
        (history.requestsFor r.batch i = 0 ↔ o.attempts = 0) ∧
        (0 < o.attempts → error.code = .bodyReplay ∧ b.plan.replays o.request = true ∧
          o.attempts = history.requestsFor r.batch i + 1)) ∧
    ∀ before event after op targets, events = before ++ event :: after →
      event.operation? = some op → event.targets? = some targets →
      let first := ((start client now).run before).1
      ∀ i p error, (op.prepareAll client first.openings targets)[i]? = some p →
        p.copy = .error error →
        error.isBuildError = true ∧
          (history.of first.batches.length).postedAt i =
            [Outcome.failed p.target p.head error] ∧
          history.requestsFor first.batches.length i = 0 := by
  intro e history
  refine ⟨fun r hr o posting error hposted herror hbuild => ?_, ?_⟩
  · obtain ⟨b, i, hb, hplace, haccounts⟩ := run_accounts hr hposted
    refine ⟨b, i, hb, hplace, ?_⟩
    change o.Accounts b.plan (history.requestsFor r.batch i) at haccounts
    cases haccounts with
    | refused _ _ hattempts hsent => simp [hattempts, hsent]
    | sent hother _ =>
      rw [(hother error herror).1] at hbuild
      cases hbuild
    | unopened he hcode hreplays hattempts hsent =>
      obtain rfl := Option.some.inj (herror.symm.trans he)
      exact ⟨⟨fun hnone => by omega, fun hnone => by omega⟩,
        fun _ => ⟨hcode, hreplays, hattempts⟩⟩
    | aborted he hcode _ _ =>
      obtain rfl := Option.some.inj (herror.symm.trans he)
      exact absurd hcode (Error.not_aborted_of_isBuildError hbuild)
  · rintro before event after op targets hsplit hop htargets first i p error hp hcopy
    obtain ⟨policy, heffects⟩ := run_refused before after hop htargets hp hcopy
    rw [← hsplit] at heffects
    refine ⟨?_, ?_, ?_⟩
    · obtain ⟨t, number, _, rfl⟩ := Operation.prepareAll_getElem? op client hp
      exact Operation.prepare_failure op client t number hcopy
    · show List.filterMap Effect.posted? (Doings.effectsAt _ i) = _
      rw [heffects, Operation.Preparation.doings_posted, Operation.Preparation.failure?]
      simp [hcopy]
    · show List.countP Effect.isRequest (Doings.effectsAt _ i) = 0
      rw [heffects, ← countP_filter_trial (fun _ => Effect.isTrial_of_isRequest), doings_trials]
      rfl

/-- Of `spentTargets` the last one is refused by the dispatch, and the first one has an error of
    building after a request was sent. -/
theorem run_build_errors_spent :
    let history := (plain.run spentEvents).2
    (∃ p error, (spentOperation.prepareAll (ClientBuilder.ofConfig .standard).build 0
          spentTargets)[3]? = some p ∧ p.copy = .error error ∧ error.isBuildError = true ∧
        (history.of 0).postedAt 3 = [Outcome.failed p.target p.head error] ∧
        history.requestsFor 0 3 = 0) ∧
      ∃ r ∈ history, ∃ o posting error, r.effect = .posted o posting ∧ o.error = some error ∧
        error.isBuildError = true ∧ 0 < o.attempts ∧ ∃ i, r.position = some i ∧
          error.code = .bodyReplay ∧ o.attempts = history.requestsFor r.batch i + 1 := by
  intro history
  obtain ⟨hposts, hrefused⟩ :=
    run_build_errors (ClientBuilder.ofConfig .standard).build ⟨0⟩ spentEvents
  constructor
  · have hthere : ((spentOperation.prepareAll (ClientBuilder.ofConfig .standard).build 0
        spentTargets)[3]?.any fun p => !p.copy.isOk) = true := by decide +kernel
    obtain ⟨p, hp, hfailed⟩ := (Option.any_eq_true _ _).mp hthere
    obtain ⟨error, hcopy⟩ : ∃ error, p.copy = .error error := by
      cases hcopy : p.copy with
      | ok copy => simp [hcopy, Except.isOk, Except.toBool] at hfailed
      | error error => exact ⟨error, rfl⟩
    exact ⟨p, error, hp, hcopy,
      hrefused [] _ _ spentOperation spentTargets rfl rfl rfl 3 p error hp hcopy⟩
  · have hthere : (history.any fun r => r.effect.posted?.any fun o =>
        o.error.any Error.isBuildError && decide (0 < o.attempts)) = true := by decide +kernel
    obtain ⟨r, hr, o, posting, hposted, hany⟩ := History.exists_post hthere
    obtain ⟨hany, hattempts⟩ := (Bool.and_eq_true _ _).mp hany
    obtain ⟨error, herror, hbuild⟩ := (Option.any_eq_true _ _).mp hany
    obtain ⟨_, i, _, hplace, _, hlater⟩ := hposts r hr o posting error hposted herror hbuild
    obtain ⟨hcode, _, hsent⟩ := hlater (of_decide_eq_true hattempts)
    exact ⟨r, hr, o, posting, error, hposted, herror, hbuild, of_decide_eq_true hattempts, i, hplace,
      hcode, hsent⟩

/-- Requests may have been sent for a target whose outcome has an error of building. -/
theorem build_error_after_request :
    ¬ ∀ events, ∀ r ∈ (plain.run events).2, ∀ o posting error i, r.effect = .posted o posting →
      r.position = some i → o.error = some error → error.isBuildError = true →
      (plain.run events).2.requestsFor r.batch i = 0 := by
  intro hall
  have hthere : ((plain.run spentEvents).2.any fun r => r.effect.posted?.any fun o =>
      r.position.any fun i => o.error.any fun error => error.isBuildError &&
        (plain.run spentEvents).2.requestsFor r.batch i != 0) = true := by decide +kernel
  obtain ⟨r, hr, o, posting, hposted, hany⟩ := History.exists_post hthere
  obtain ⟨i, hplace, hany⟩ := (Option.any_eq_true _ _).mp hany
  obtain ⟨error, herror, hany⟩ := (Option.any_eq_true _ _).mp hany
  obtain ⟨hbuild, hne⟩ := (Bool.and_eq_true _ _).mp hany
  exact bne_iff_ne.mp hne (hall spentEvents r hr o posting error i hposted hplace herror hbuild)

end Engine

end Replicast
