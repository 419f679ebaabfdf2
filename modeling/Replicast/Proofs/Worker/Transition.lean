import Replicast.Batch.Worker
import Replicast.Proofs.Batch.Kinds
/-!
# The transitions of a worker

Every move of a worker, as a relation with one constructor per way in which a worker can move.
Invariants of workers go by cases on this relation and not on the step function.

## Overview

* `Worker.awaits` says which signals a phase is waiting for.
* `Worker.Transition` lists the moves, and `Worker.step_transition` finds the one that a step makes.
* `Worker.Attempt` and `Worker.Reception` say the same of the two moves that have more than two
  ends.
-/

namespace Replicast.Worker

variable {p : Plan} {stop : Option Error} {openings : Nat} {w : Worker} {s : Signal} {m : Move}

/-! ## §1 Waiting -/

/-- Whether a phase waits for something outside the worker. -/
def isWaiting (w : Worker) : Bool :=
  match w.phase with
  | .sending | .pausing | .reading _ _ => true
  | _ => false

/-- Whether a signal is one that the worker's phase waits for. -/
def awaits (w : Worker) : Signal → Bool
  | .turn => w.phase == .queued || w.phase == .ready
  | .answer _ => w.phase == .sending
  | .pauseOver => w.phase == .pausing
  | .frame _ | .bodyEnd =>
    match w.phase with
    | .reading _ _ => true
    | _ => false
  | .panic => w.isWaiting

/-- The phases in which an interruption ends a worker without a response. -/
def isBeforeResponse (w : Worker) : Bool :=
  w.phase == .ready || w.phase == .sending || w.phase == .pausing

theorem isLive_of_isWaiting (h : w.isWaiting = true) : w.isLive = true := by
  unfold isWaiting at h
  unfold isLive
  split at h <;> simp_all

theorem isLive_of_isBeforeResponse (h : w.isBeforeResponse = true) : w.isLive = true := by
  simp only [isBeforeResponse, Bool.or_eq_true, beq_iff_eq] at h
  unfold isLive
  rcases h with (h | h) | h <;> simp [h]

theorem isLive_of_awaits (h : w.awaits s = true) : w.isLive = true := by
  unfold isLive
  cases hp : w.phase <;> cases s <;> simp_all [awaits, isWaiting]

/-- Which phases have their turn. -/
theorem awaits_turn : w.awaits .turn = true ↔ w.phase = .queued ∨ w.phase = .ready := by
  simp [awaits]

/-! ## §2 Reasons to stop -/

theorem interruption_eq_some {c : Clock} {cancelled : Bool} {e : Error} :
    w.interruption p c cancelled = some e ↔
      (cancelled = true ∨ w.isLate p c = true) ∧ e = p.interruptionError c.now w.request := by
  rw [interruption, ← Bool.or_eq_true_iff]
  by_cases hstop : (cancelled || w.isLate p c) = true
  · rw [if_pos hstop]
    exact ⟨fun h => ⟨hstop, (Option.some.inj h).symm⟩, fun h => congrArg some h.2.symm⟩
  · rw [if_neg hstop]
    exact ⟨nofun, fun h => absurd h.1 hstop⟩

theorem interruption_eq_none {c : Clock} {cancelled : Bool} :
    w.interruption p c cancelled = none ↔ cancelled = false ∧ w.isLate p c = false := by
  simp [interruption]

/-- Where a worker waits, the timer tells it that the deadline has passed. -/
theorem isLate_of_isWaiting (h : w.isWaiting = true) (p : Plan) (c : Clock) :
    w.isLate p c = c.hasFired p.deadline := by
  unfold isWaiting at h
  unfold isLate
  split at h <;> simp_all

/-! ## §3 Moves -/

/-- The moves of a worker, given why it must stop, if it must. -/
inductive Transition (p : Plan) (stop : Option Error) (openings : Nat) (w : Worker) :
    Signal → Move → Prop where
  /-- The worker is not waiting for this signal. -/
  | stay {s : Signal} : w.awaits s = false → Transition p stop openings w s w.stay
  /-- The first turn, at which an interruption is not noticed yet. -/
  | enter :
      w.phase = .queued →
      Transition p stop openings w .turn ⟨{ w with phase := .ready }, [.entered], none⟩
  /-- An interruption, noticed before there is a final response. -/
  | stop {s : Signal} {e : Error} :
      stop = some e → w.isBeforeResponse = true → Transition p stop openings w s (w.fail e)
  /-- An interruption, noticed while the final response is read. -/
  | stopReading {s : Signal} {e : Error} {head : ResponseHead} {reader : BoundedReader} :
      stop = some e → w.phase = .reading head reader →
      Transition p stop openings w s (w.failReading head e)
  | attempt :
      stop = none → w.phase = .ready → Transition p stop openings w .turn (w.attempt p openings)
  | receive (a : Answer) :
      stop = none → w.phase = .sending → Transition p stop openings w (.answer a) (w.receive p a)
  | resume :
      stop = none → w.phase = .pausing →
      Transition p stop openings w .pauseOver ⟨{ w with phase := .ready }, [], none⟩
  | frame {head : ResponseHead} {reader : BoundedReader} (f : Frame) :
      stop = none → w.phase = .reading head reader →
      Transition p stop openings w (.frame f) (w.readFrame p head reader f)
  | bodyEnd {head : ResponseHead} {reader : BoundedReader} :
      stop = none → w.phase = .reading head reader →
      Transition p stop openings w .bodyEnd (w.succeed head reader.taken)
  | panic :
      stop = none → w.isWaiting = true → Transition p stop openings w .panic w.abort

/-- Every step is a transition. -/
theorem step_transition (p : Plan) (stop : Option Error) (openings : Nat) (w : Worker)
    (s : Signal) : Transition p stop openings w s (w.step p stop openings s) := by
  unfold step
  cases hp : w.phase with
  -- One case for each phase.  An ended worker is deaf to every signal.
  | unbuilt | finished | aborted =>
    exact .stay (by cases s <;> simp [awaits, isWaiting, hp])
  | queued =>
    cases s with
    | turn => exact .enter hp
    | _ => exact .stay (by simp [awaits, isWaiting, hp])
  | ready =>
    cases s with
    | turn =>
      -- The interruption is looked for before the attempt begins.
      cases stop with
      | some e => exact .stop rfl (by simp [isBeforeResponse, hp])
      | none => exact .attempt rfl hp
    | _ => exact .stay (by simp [awaits, isWaiting, hp])
  | sending =>
    cases stop with
    | some e => exact .stop rfl (by simp [isBeforeResponse, hp])
    | none =>
      cases s with
      | answer a => exact .receive a rfl hp
      | panic => exact .panic rfl (by simp [isWaiting, hp])
      | _ => exact .stay (by simp [awaits, hp])
  | pausing =>
    cases stop with
    | some e => exact .stop rfl (by simp [isBeforeResponse, hp])
    | none =>
      cases s with
      | pauseOver => exact .resume rfl hp
      | panic => exact .panic rfl (by simp [isWaiting, hp])
      | _ => exact .stay (by simp [awaits, hp])
  | reading head reader =>
    cases stop with
    | some e => exact .stopReading rfl hp
    | none =>
      cases s with
      | frame f => exact .frame f rfl hp
      | bodyEnd => exact .bodyEnd rfl hp
      | panic => exact .panic rfl (by simp [isWaiting, hp])
      | _ => exact .stay (by simp [awaits, hp])

/-- A worker that has ended does nothing any more. -/
theorem step_of_ended (h : w.isLive = false) : w.step p stop openings s = w.stay := by
  unfold step
  unfold isLive at h
  split at h
  · simp_all
  · simp_all
  · simp_all
  · cases h

/-- A worker that need not stop does nothing on a signal that it does not wait for. -/
theorem step_of_deaf (h : w.awaits s = false) : w.step p none openings s = w.stay := by
  have hmove := step_transition p none openings w s
  generalize w.step p none openings s = m at hmove ⊢
  cases hmove with
  | stay _ => rfl
  | stop hstop _ | stopReading hstop _ => cases hstop
  | enter hp | attempt _ hp | receive _ _ hp | resume _ hp | frame _ _ hp | bodyEnd _ hp =>
    simp [awaits, hp] at h
  | panic _ hwaiting => simp [awaits, hwaiting] at h

/-- A worker that need not stop while it is live does nothing on a signal that it does not wait
    for, ended or not. -/
theorem step_of_unheard (hdeaf : w.awaits s = false) (hcalm : w.isLive = true → stop = none) :
    w.step p stop openings s = w.stay := by
  cases hlive : w.isLive with
  | false => exact step_of_ended hlive
  | true =>
    rw [hcalm hlive]
    exact step_of_deaf hdeaf

/-! ## §4 Moves with more than one end -/

/-- The moves that begin an attempt: they differ in the copy of the body. -/
inductive Attempt (p : Plan) (openings : Nat) (w : Worker) : Move → Prop where
  /-- The copy that was opened when the request was built. -/
  | initial {copy : Stream} :
      w.initial = some copy → Attempt p openings w (w.nextAttempt.send p [] copy)
  | fresh {copy : Stream} :
      w.initial = none → p.replays w.request = true → p.body.openCopy openings = .ok copy →
      Attempt p openings w (w.nextAttempt.send p [.opened] copy)
  | empty :
      w.initial = none → p.replays w.request = false →
      Attempt p openings w (w.nextAttempt.send p [] [])
  /-- No fresh copy could be opened, so that nothing is sent. -/
  | unopened {cause : String} {m : Move} :
      w.initial = none → p.replays w.request = true → p.body.openCopy openings = .error cause →
      m = w.nextAttempt.fail (.bodyReplay w.request.method w.request.redactedUri cause) →
      Attempt p openings w { m with effects := .opened :: m.effects }

/-- Beginning an attempt is one of these moves. -/
theorem attempt_attempt (p : Plan) (openings : Nat) (w : Worker) :
    Attempt p openings w (w.attempt p openings) := by
  unfold attempt
  -- The copy of the first attempt is there; later ones depend on the method and the body.
  cases hinit : w.initial with
  | some copy => exact .initial hinit
  | none =>
    by_cases hreplay : p.replays w.request = true
    · cases hopen : p.body.openCopy openings with
      | ok copy => simpa [hreplay] using Attempt.fresh hinit hreplay hopen
      | error cause =>
        simpa [hreplay] using Attempt.unopened hinit hreplay hopen rfl
    · simpa [hreplay] using Attempt.empty hinit (by simpa using hreplay)

/-- The moves on an answer of the transport. -/
inductive Reception (p : Plan) (w : Worker) : Answer → Move → Prop where
  /-- A final response: a success, or the last one allowed. -/
  | final {head : ResponseHead} :
      head.status.isTerminalSuccess = true ∨ p.retryPolicy.maxAttempts ≤ w.attempts →
      Reception p w (.response head)
        { w.readFrom head with effects := .answered (.response head) :: (w.readFrom head).effects }
  | again {head : ResponseHead} :
      head.status.isTerminalSuccess = false → w.attempts < p.retryPolicy.maxAttempts →
      Reception p w (.response head)
        { w.retryAfter p head.status with
          effects := .answered (.response head) :: (w.retryAfter p head.status).effects }
  /-- A failure at the last attempt allowed. -/
  | failed {f : TransportFailure} :
      p.retryPolicy.maxAttempts ≤ w.attempts →
      Reception p w (.failure f)
        { w.fail (w.transportError f) with
          effects := .answered (.failure f) :: .counted .transportError ::
            (w.fail (w.transportError f)).effects }
  | failedAgain {f : TransportFailure} :
      w.attempts < p.retryPolicy.maxAttempts →
      Reception p w (.failure f)
        ⟨{ w with phase := .ready },
          [.answered (.failure f), .counted .transportError,
            .logged (Log.warn "retrying request after transport error"
              [("attempt", .nat w.attempts), ("error", .text (w.transportError f).message)]),
            .counted .retry],
          none⟩

/-- Taking an answer is one of these moves. -/
theorem receive_reception (p : Plan) (w : Worker) (a : Answer) :
    Reception p w a (w.receive p a) := by
  cases a with
  | response head =>
    -- A response is final when it succeeds or when no attempt is left.
    by_cases hfinal : head.status.isTerminalSuccess = true ∨
        p.retryPolicy.maxAttempts ≤ w.attempts
    · have h := Reception.final hfinal
      simpa [receive, hfinal] using h
    · have h : Reception p w (.response head) _ := .again (by simp_all) (by omega)
      simpa [receive, hfinal] using h
  | failure f =>
    by_cases hlast : p.retryPolicy.maxAttempts ≤ w.attempts
    · have h : Reception p w (.failure f) _ := .failed hlast
      simpa [receive, hlast] using h
    · have h : Reception p w (.failure f) _ := .failedAgain (by omega)
      simpa [receive, hlast] using h

/-! ## §5 Going on and ending -/

/-- A move that ends a live worker with an outcome of its own target. -/
structure Ends (w : Worker) (m : Move) (o : Outcome) : Prop where
  outcome : m.outcome = some o
  wasLive : w.isLive = true
  ended : m.worker.isLive = false
  target : o.target = w.target
  request : o.request = w.request

/-- A move keeps the target and the request of its worker, posts nothing by itself, and either ends
    the worker or leaves it as live as it was. -/
structure Lawful (w : Worker) (m : Move) : Prop where
  target : m.worker.target = w.target
  request : m.worker.request = w.request
  own : ∀ x ∈ m.effects, x.isOwn = true
  progress : (m.outcome = none ∧ m.worker.isLive = w.isLive) ∨ ∃ o, Ends w m o

/-- A move without an outcome between live phases. -/
private theorem Lawful.between (hlive : w.isLive = true) (htarget : m.worker.target = w.target)
    (hrequest : m.worker.request = w.request) (hown : ∀ x ∈ m.effects, x.isOwn = true)
    (hnone : m.outcome = none) (hafter : m.worker.isLive = true) : Lawful w m :=
  ⟨htarget, hrequest, hown, .inl ⟨hnone, hafter.trans hlive.symm⟩⟩

/-- Further effects of the worker itself make no difference. -/
private theorem Lawful.withEffects {effects : List Effect} (h : Lawful w m)
    (hown : ∀ x ∈ effects, x.isOwn = true) : Lawful w { m with effects } :=
  ⟨h.target, h.request, hown, h.progress.imp id fun ⟨o, he⟩ =>
    ⟨o, he.outcome, he.wasLive, he.ended, he.target, he.request⟩⟩

/-- A worker that ends tells about it and records its outcome. -/
theorem mem_finish_effects {events : List Log.Event} {o : Outcome} {x : Effect}
    (hx : x ∈ (w.finish events o).effects) :
    (∃ event, x = .logged event) ∨ x = .recorded o ∨ x = .left := by
  simp only [finish, List.mem_append, List.mem_map, List.mem_cons, List.not_mem_nil, or_false] at hx
  rcases hx with ⟨event, _, rfl⟩ | rfl | rfl
  · exact .inl ⟨event, rfl⟩
  · exact .inr (.inl rfl)
  · exact .inr (.inr rfl)

private theorem finish_own (w : Worker) (events : List Log.Event) (o : Outcome) :
    ∀ x ∈ (w.finish events o).effects, x.isOwn = true := by
  intro x hx
  rcases mem_finish_effects hx with ⟨event, rfl⟩ | rfl | rfl <;> rfl

/-- Every regular end of a live worker is lawful. -/
private theorem finish_lawful {events : List Log.Event} {o : Outcome} (hlive : w.isLive = true)
    (htarget : o.target = w.target) (hrequest : o.request = w.request) :
    Lawful w (w.finish events o) :=
  ⟨rfl, rfl, finish_own w events o, .inr ⟨o, rfl, hlive, rfl, htarget, hrequest⟩⟩

theorem isLive_of_phase {phase : Phase} (h : w.phase = phase)
    (hphase : phase ≠ .unbuilt ∧ phase ≠ .finished ∧ phase ≠ .aborted) : w.isLive = true := by
  unfold isLive
  cases hp : w.phase <;> simp_all

private theorem send_lawful (p : Plan) {opened : List Effect} (copy : Stream)
    (hlive : w.isLive = true) (hopened : ∀ x ∈ opened, x.isOwn = true) :
    Lawful w (w.nextAttempt.send p opened copy) := by
  refine .between hlive rfl rfl (fun x hx => ?_) rfl rfl
  rcases List.mem_append.mp hx with hx | hx
  · exact hopened x hx
  · simp only [List.mem_cons, List.not_mem_nil, or_false] at hx
    rcases hx with rfl | rfl | rfl <;> rfl

private theorem Attempt.lawful (h : Attempt p openings w m) (hlive : w.isLive = true) :
    Lawful w m := by
  cases h with
  | initial _ => exact send_lawful p _ hlive (by simp)
  | fresh _ _ _ => exact send_lawful p _ hlive (by simp [Effect.isOwn])
  | empty _ _ => exact send_lawful p _ hlive (by simp)
  | unopened _ _ _ hm =>
    subst hm
    have hended (e : Error) : Lawful w (w.nextAttempt.fail e) :=
      ⟨rfl, rfl, finish_own _ _ _, .inr ⟨_, rfl, hlive, rfl, rfl, rfl⟩⟩
    refine (hended _).withEffects fun x hx => ?_
    rcases List.mem_cons.mp hx with rfl | hx
    · rfl
    · exact finish_own _ _ _ x hx

private theorem Reception.lawful {a : Answer} (h : Reception p w a m) (hlive : w.isLive = true) :
    Lawful w m := by
  cases h with
  | final _ => exact .between hlive rfl rfl (by simp [readFrom, Effect.isOwn]) rfl rfl
  | @again head _ _ =>
    unfold retryAfter
    cases p.retryPolicy.backoffAfter head.status with
    | none => exact .between hlive rfl rfl (by simp [Effect.isOwn]) rfl rfl
    | some d => exact .between hlive rfl rfl (by simp [Effect.isOwn]) rfl rfl
  | failed _ =>
    refine (finish_lawful hlive rfl rfl).withEffects fun x hx => ?_
    rcases List.mem_cons.mp hx with rfl | hx
    · rfl
    rcases List.mem_cons.mp hx with rfl | hx
    · rfl
    exact finish_own _ _ _ x hx
  | failedAgain _ => exact .between hlive rfl rfl (by simp [Effect.isOwn]) rfl rfl

private theorem readFrame_lawful (p : Plan) (head : ResponseHead) (reader : BoundedReader)
    (f : Frame) (hlive : w.isLive = true) : Lawful w (w.readFrame p head reader f) := by
  unfold readFrame
  cases reader.step p.maxResponseBodyBytes f with
  | ok next => exact .between hlive rfl rfl (by simp) rfl rfl
  | error fault => exact finish_lawful hlive rfl rfl

private theorem abort_lawful (hlive : w.isLive = true) : Lawful w w.abort :=
  ⟨rfl, rfl, by simp [abort, Effect.isOwn], .inr ⟨_, rfl, hlive, rfl, rfl, rfl⟩⟩

/-- **Every transition is lawful.** -/
theorem Transition.lawful (h : Transition p stop openings w s m) : Lawful w m := by
  -- Each move keeps to its worker; those with an outcome end it.
  cases h with
  | stay _ => exact ⟨rfl, rfl, by simp [Worker.stay], .inl ⟨rfl, rfl⟩⟩
  | enter hp =>
    exact .between (isLive_of_phase hp (by simp)) rfl rfl (by simp [Effect.isOwn]) rfl rfl
  | stop _ hp => exact finish_lawful (isLive_of_isBeforeResponse hp) rfl rfl
  | stopReading _ hp => exact finish_lawful (isLive_of_phase hp (by simp)) rfl rfl
  | attempt _ hp => exact (attempt_attempt p openings w).lawful (isLive_of_phase hp (by simp))
  | receive a _ hp => exact (receive_reception p w a).lawful (isLive_of_phase hp (by simp))
  | resume _ hp => exact .between (isLive_of_phase hp (by simp)) rfl rfl (by simp) rfl rfl
  | @frame head reader f _ hp =>
    exact readFrame_lawful p head reader f (isLive_of_phase hp (by simp))
  | bodyEnd _ hp => exact finish_lawful (isLive_of_phase hp (by simp)) rfl rfl
  | panic _ hp => exact abort_lawful (isLive_of_isWaiting hp)

end Replicast.Worker
