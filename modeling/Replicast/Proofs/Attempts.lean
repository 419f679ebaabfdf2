import Mathlib.Algebra.BigOperators.Ring.Finset
import Mathlib.Algebra.Order.Ring.Nat
import Replicast.Proofs.Counters
import Replicast.Proofs.Engine.Position
/-!
# Attempts in the counters

Attempts, retries, pauses and transport errors are each counted on an arm of their own of the retry
loop, some before the step that they count and some after it.  In every state of every run, however
the loop was cut off, the counters agree with what passed between the workers, the transport and the
clock.

## Overview

* `trials` are the attempts that the transport completed for one target, and `Trial.isVain` are
  those after which another attempt is due.
* `Engine.courses` is what was done for each target of a client, and `Engine.run_count` spreads a
  count over a history among them.
* `Worker.Deed` lists what a move has to do with attempts, and `Worker.Tally` is the invariant of
  the effects for one target.
* `Engine.run_tallies` is the result.
-/

namespace Replicast

/-! ## §1 Counters of attempts -/

/-- The counter of a thing that is counted as it happens. -/
def Metrics.read (m : Metrics) : Counter → Nat
  | .attempt => m.attempts
  | .retry => m.retries
  | .backoff => m.rateLimitBackoffs
  | .transportError => m.transportErrors

theorem Metrics.read_recordOutcome (m : Metrics) (o : Outcome) (c : Counter) :
    (m.recordOutcome o).read c = m.read c := by
  unfold recordOutcome
  cases o.status? <;> cases o.error <;> cases c <;> rfl

theorem Metrics.reads_counter (c : Counter) :
    Reads (fun m => m.read c) fun x => if x == .counted c then 1 else 0 := by
  refine ⟨by cases c <;> rfl, fun m x => ?_⟩
  cases x with
  | recorded o =>
    show ((m.recordOutcome o).read c : Int) = m.read c + 0
    rw [m.read_recordOutcome, Int.add_zero]
  | counted d => cases c <;> cases d <;> rfl
  | decided met => cases met <;> cases c <;> rfl
  | _ => cases c <;> rfl

/-- Counting the effects of a history that have a property is adding up ones. -/
theorem History.countP_eq_sum (h : History) (p : Effect → Bool) :
    ((h.countP fun r => p r.effect : Nat) : Int) = h.sum fun x => if p x then 1 else 0 := by
  simpa [History.sum] using countP_filterMap some (fun r : Record => p r.effect) h

/-- Counting the effects of a batch that have a property is adding up ones. -/
theorem Doings.countP_eq_sum (d : Doings) (p : Effect → Bool) :
    ((d.countP fun x => p x.2 : Nat) : Int) = d.sum fun x => if p x then 1 else 0 := by
  simpa [Doings.sum] using countP_filterMap some (fun x : Engine.Placed => p x.2) d

/-- A counter is the number of times that its thing was counted. -/
theorem Metrics.read_ofHistory (h : History) (c : Counter) :
    (Metrics.ofHistory h).read c = h.countP fun r => r.effect == .counted c := by
  have hreads := (reads_counter c).ofHistory h
  rw [← History.countP_eq_sum] at hreads
  exact_mod_cast hreads

/-! ## §2 Attempts -/

/-- Whether the transport ended a request with a success. -/
def Answer.succeeds : Answer → Bool
  | .response head => head.status.isTerminalSuccess
  | .failure _ => false

/-- An attempt that the transport has completed. -/
structure Trial where
  /-- Its number among the attempts for its target, from one. -/
  number : Nat
  answer : Answer
deriving DecidableEq, Repr

/-- Whether an attempt was unsuccessful and not the last one that the policy allows. -/
def Trial.isVain (policy : RetryPolicy) (t : Trial) : Bool :=
  !t.answer.succeeds && t.number < policy.maxAttempts

/-- The attempts that were completed in some effects for a target, when some requests were handed to
    the transport before: an answer completes the attempt whose request came last. -/
def trialsFrom (requests : Nat) : List Effect → List Trial
  | [] => []
  | .sent _ _ :: rest => trialsFrom (requests + 1) rest
  | .answered a :: rest => ⟨requests, a⟩ :: trialsFrom requests rest
  | _ :: rest => trialsFrom requests rest

/-- The attempts that were completed for a target. -/
def trials (effects : List Effect) : List Trial := trialsFrom 0 effects

/-- How many attempts were completed in vain with attempts to spare. -/
def vainTrials (policy : RetryPolicy) (effects : List Effect) : Nat :=
  (trials effects).countP (·.isVain policy)

namespace Effect

/-- Whether the transport ended a request with an error of its own. -/
def isTransportError : Effect → Bool
  | .answered (.failure _) => true
  | _ => false

/-- Whether an effect has to do with attempts. -/
def isTrial : Effect → Bool
  | .sent _ _ | .answered _ | .paused _ | .counted _ => true
  | _ => false

variable {x : Effect}

theorem isTrial_of_isRequest (h : x.isRequest = true) : x.isTrial = true := by
  cases x <;> first | rfl | cases h

theorem isTrial_of_isPause (h : x.isPause = true) : x.isTrial = true := by
  cases x <;> first | rfl | cases h

theorem isTrial_of_isTransportError (h : x.isTransportError = true) : x.isTrial = true := by
  cases x <;> first | rfl | cases h

theorem isTrial_of_counted {c : Counter} (h : (x == .counted c) = true) : x.isTrial = true := by
  obtain rfl := eq_of_beq h
  rfl

theorem isTrial_of_isConcluding (h : x.isConcluding = true) : x.isTrial = false := by
  cases x <;> first | rfl | cases h

theorem isTrial_of_isDispatching (h : x.isDispatching = true) : x.isTrial = false := by
  cases x <;> first | rfl | cases h

end Effect

theorem trialsFrom_append (requests : Nat) (xs ys : List Effect) :
    trialsFrom requests (xs ++ ys) =
      trialsFrom requests xs ++ trialsFrom (requests + xs.countP Effect.isRequest) ys := by
  induction xs generalizing requests with
  | nil => rfl
  | cons x rest ih =>
    cases x with
    | sent head copy =>
      simp only [List.cons_append, trialsFrom, ih, List.countP_cons, Effect.isRequest, if_true]
      congr 2
      omega
    | answered a => simp [trialsFrom, ih, Effect.isRequest]
    | _ => simp [trialsFrom, ih, Effect.isRequest]

/-- Whatever has nothing to do with attempts may be left out. -/
theorem trialsFrom_filter (requests : Nat) (effects : List Effect) :
    trialsFrom requests (effects.filter Effect.isTrial) = trialsFrom requests effects := by
  induction effects generalizing requests with
  | nil => rfl
  | cons x rest ih => cases x <;> simp [trialsFrom, List.filter_cons, Effect.isTrial, ih]

theorem countP_filter_trial {p : Effect → Bool} (hp : ∀ x, p x = true → x.isTrial = true)
    (effects : List Effect) : (effects.filter Effect.isTrial).countP p = effects.countP p := by
  rw [List.countP_filter]
  refine List.countP_congr fun x _ => ?_
  simp only [Bool.and_eq_true]
  exact ⟨fun h => h.1, fun h => ⟨h, hp x h⟩⟩

theorem count_filter_trial (c : Counter) (effects : List Effect) :
    (effects.filter Effect.isTrial).count (.counted c) = effects.count (.counted c) :=
  countP_filter_trial (fun _ => Effect.isTrial_of_counted) effects

/-! ## §3 Counting by target -/

/-- A count over the doings of a batch is spread among its targets, when whatever is counted is done
    for one of them. -/
theorem Doings.countP_effectsAt {d : Doings} {size : Nat} {p : Effect → Bool}
    (hplaced : ∀ x ∈ d, p x.2 = true → ∃ position < size, x.1 = some position) :
    d.countP (fun x => p x.2) =
      ((List.range size).map fun position => (d.effectsAt position).countP p).sum := by
  induction d with
  | nil => simp
  | cons x rest ih =>
    have hrest := ih fun y hy => hplaced y (List.mem_cons_of_mem x hy)
    -- The first effect counts for the target that it was done for, if it counts at all.
    have hat (position : Nat) : (effectsAt (x :: rest) position).countP p =
        (if x.1 = some position ∧ p x.2 = true then 1 else 0) +
          (effectsAt rest position).countP p := by
      obtain ⟨place, effect⟩ := x
      by_cases hplace : place = some position <;> by_cases hp : p effect = true <;>
        simp [effectsAt, hplace, hp, Nat.add_comm]
    have hone : ((List.range size).map fun position =>
        if x.1 = some position ∧ p x.2 = true then 1 else 0).sum = if p x.2 then 1 else 0 := by
      by_cases hp : p x.2 = true
      · obtain ⟨position, hlt, hplace⟩ := hplaced x List.mem_cons_self hp
        change (Finset.range size).sum _ = _
        simp [hplace, hp, hlt]
      · simp [hp]
    simp only [List.countP_cons, hat, List.sum_map_add, hone, hrest, Nat.add_comm]

/-- A count over a history of batches with numbers below a bound is spread among the batches. -/
theorem History.countP_of_lt (h : History) (bound : Nat) (hlt : ∀ r ∈ h, r.batch < bound)
    (p : Effect → Bool) :
    h.countP (fun r => p r.effect) =
      ((List.range bound).map fun number => (h.of number).countP fun x => p x.2).sum := by
  have hsum := h.sum_of_lt (fun x => if p x then 1 else 0) bound hlt
  simp only [← History.countP_eq_sum, ← Doings.countP_eq_sum] at hsum
  refine Int.ofNat_inj.mp (hsum.trans ?_)
  rw [Nat.cast_list_sum, List.map_map]
  rfl

namespace Engine

/-- What was done for each target of a client, with the batch of the target. -/
def courses (e : Engine) (h : History) : List (Batch × List Effect) :=
  e.batches.zipIdx.flatMap fun (b, number) =>
    (List.range b.size).map fun position => (b, (h.of number).effectsAt position)

theorem mem_courses {e : Engine} {h : History} {b : Batch} {effects : List Effect} :
    (b, effects) ∈ e.courses h ↔ ∃ number position, e.batches[number]? = some b ∧
      position < b.size ∧ effects = (h.of number).effectsAt position := by
  simp only [courses, List.mem_flatMap, List.mem_map, List.mem_range, Prod.exists,
    List.mem_zipIdx_iff_getElem?, Prod.mk.injEq]
  constructor
  · rintro ⟨b', number, hb, position, hlt, rfl, rfl⟩
    exact ⟨number, position, hb, hlt, rfl⟩
  · rintro ⟨number, position, hb, hlt, rfl⟩
    exact ⟨b, number, hb, position, hlt, rfl, rfl⟩

end Engine

namespace Batch

variable {b after : Batch} {e : Engine} {k : Doings}

/-- Only workers have to do with attempts. -/
def Tries (b : Batch) (d : Doings) : Prop :=
  ∀ x ∈ d, x.2.isTrial = true → ∃ position < b.size, x.1 = some position

theorem tries_of_concluding (h : ∀ x ∈ k, x.2.isConcluding = true) : b.Tries k := by
  intro x hx htrial
  rw [Effect.isTrial_of_isConcluding (h x hx)] at htrial
  cases htrial

theorem Move.tries (h : b.Move e after k) : b.Tries k := by
  cases h with
  | rest | begin _ => exact tries_of_concluding (by simp)
  | cancel => exact tries_of_concluding (by simp [Effect.isConcluding])
  | drop => exact tries_of_concluding (Doings.unplaced_concluding (drop_concluding b))
  | signal position s =>
    intro x hx _
    obtain ⟨effect, heffect, rfl⟩ := List.mem_map.mp hx
    cases hw : b.workers[position]? with
    | none => simp [signal_of_none e hw s] at heffect
    | some w => exact ⟨position, (List.getElem?_eq_some_iff.mp hw).1, rfl⟩
  | poll hturn =>
    rcases hturn.effects_cases with hconcluding | ⟨o, rest, rfl, hconcluding⟩
    · exact tries_of_concluding (Doings.unplaced_concluding hconcluding)
    · intro x hx htrial
      rcases List.mem_cons.mp hx with rfl | hx
      · cases htrial
      · exact tries_of_concluding (Doings.unplaced_concluding hconcluding) x hx htrial

end Batch

namespace Engine

variable {client : Client} {now : Instant}

theorem run_tries (events : List Event) {number : Nat} {b : Batch}
    (hb : ((start client now).run events).1.batches[number]? = some b) :
    b.Tries (((start client now).run events).2.of number) := by
  refine run_invariant (P := Batch.Tries) ?_ ?_ events hb
  · intro e event targets b d hbirth x hx htrial
    obtain ⟨_, hnew⟩ := hbirth.newborn
    rw [Effect.isTrial_of_isDispatching (hnew.dispatching x hx)] at htrial
    cases htrial
  · intro e b d after k hd hmove x hx htrial
    rw [hmove.persists.size]
    rcases List.mem_append.mp hx with hx | hx
    · exact hd x hx htrial
    · exact hmove.tries x hx htrial

/-- Whatever has to do with attempts is counted target by target. -/
theorem run_count {p : Effect → Bool} (hp : ∀ x, p x = true → x.isTrial = true)
    (events : List Event) :
    ((start client now).run events).2.countP (fun r => p r.effect) =
      ((((start client now).run events).1.courses ((start client now).run events).2).map
        fun c => c.2.countP p).sum := by
  have hbatch {number : Nat} {b : Batch}
      (hb : ((start client now).run events).1.batches[number]? = some b) :
      (((start client now).run events).2.of number).countP (fun x => p x.2) =
        ((List.range b.size).map fun position =>
          ((((start client now).run events).2.of number).effectsAt position).countP p).sum :=
    Doings.countP_effectsAt fun x hx hpx => run_tries events hb x hx (hp _ hpx)
  rw [History.countP_of_lt _ _ (run_batch_lt events), courses, List.flatMap_def, List.map_flatten,
    List.sum_flatten, List.map_map, List.map_map]
  congr 1
  refine List.ext_getElem (by simp) fun number hnumber _ => ?_
  have hlt : number < ((start client now).run events).1.batches.length := by simpa using hnumber
  simpa [Function.comp_def] using hbatch (List.getElem?_eq_getElem hlt)

end Engine

/-! ## §4 What moves have to do with attempts -/

/-- What the transport's answer counts for by itself. -/
def Answer.errors : Answer → List Effect
  | .response _ => []
  | .failure _ => [.counted .transportError]

/-- How a worker stands to its attempts. -/
inductive Pace where
  /-- Before the next attempt. -/
  | between
  | sending
  /-- No further attempt follows. -/
  | ended
deriving DecidableEq, Repr

/-- How many requests were sent when some attempts were in vain: as many before the next attempt,
    one more while a request is out, and either when all is over. -/
def Pace.Fits (requests vain : Nat) : Pace → Prop
  | .between => requests = vain
  | .sending => requests = vain + 1
  | .ended => vain ≤ requests ∧ requests ≤ vain + 1

theorem Pace.Fits.ended {pace : Pace} {requests vain : Nat} (h : pace.Fits requests vain) :
    Pace.ended.Fits requests vain := by
  cases pace with
  | between => exact ⟨Nat.le_of_eq h.symm, by rw [show requests = vain from h]; omega⟩
  | sending => exact ⟨by rw [show requests = vain + 1 from h]; omega, Nat.le_of_eq h⟩
  | ended => exact h

namespace Worker

variable {p : Plan} {stop : Option Error} {openings : Nat} {w : Worker} {s : Signal} {m : Move}

def pace (w : Worker) : Pace :=
  match w.phase with
  | .unbuilt | .queued | .ready | .pausing => .between
  | .sending => .sending
  | .reading _ _ | .finished | .aborted => .ended

/-- What a move has to do with attempts. -/
inductive Deed (p : Plan) (w : Worker) (m : Move) : List Effect → Prop where
  | nothing :
      m.worker.pace = .ended ∨ m.worker.pace = w.pace ∧ m.worker.attempts = w.attempts →
      Deed p w m []
  | send (head : RequestHead) (copy : Stream) :
      w.pace = .between → m.worker.pace = .sending → m.worker.attempts = w.attempts + 1 →
      Deed p w m [.counted .attempt, .sent head copy]
  /-- An answer that ends the attempts. -/
  | last (a : Answer) :
      w.pace = .sending → m.worker.pace = .ended →
      a.succeeds = true ∨ p.retryPolicy.maxAttempts ≤ w.attempts →
      Deed p w m (.answered a :: a.errors)
  /-- An answer after which another attempt is due, perhaps after a pause. -/
  | again (a : Answer) (pauses : List Effect) :
      w.pace = .sending → m.worker.pace = .between → m.worker.attempts = w.attempts →
      a.succeeds = false → w.attempts < p.retryPolicy.maxAttempts →
      pauses = [] ∨ (∃ d, pauses = [.counted .backoff, .paused d]) →
      Deed p w m (.answered a :: a.errors ++ .counted .retry :: pauses)

theorem finish_trials (w : Worker) (events : List Log.Event) (o : Outcome) :
    (w.finish events o).effects.filter Effect.isTrial = [] := by
  refine List.filter_eq_nil_iff.mpr fun x hx => ?_
  rcases mem_finish_effects hx with ⟨event, rfl⟩ | rfl | rfl <;> simp [Effect.isTrial]

theorem Attempt.deed (h : Attempt p openings w m) (hbetween : w.pace = .between) :
    Deed p w m (m.effects.filter Effect.isTrial) := by
  cases h with
  | initial _ | fresh _ _ _ | empty _ _ => exact .send _ _ hbetween rfl rfl
  | unopened _ _ _ hm =>
    -- Nothing was sent, and nothing will be.
    subst hm
    have hfail (e : Error) : (w.nextAttempt.fail e).effects.filter Effect.isTrial = [] :=
      finish_trials _ _ _
    simp only [List.filter_cons, Effect.isTrial, Bool.false_eq_true, if_false, hfail]
    exact .nothing (.inl rfl)

theorem Reception.deed {a : Answer} (h : Reception p w a m) (hsending : w.pace = .sending) :
    Deed p w m (m.effects.filter Effect.isTrial) := by
  cases h with
  | @final head hfinal => exact .last (.response head) hsending rfl hfinal
  | @again head hfails hspare =>
    unfold retryAfter
    cases p.retryPolicy.backoffAfter head.status with
    | none => exact .again (.response head) [] hsending rfl rfl hfails hspare (.inl rfl)
    | some d =>
      exact .again (.response head) [.counted .backoff, .paused d] hsending rfl rfl hfails hspare
        (.inr ⟨d, rfl⟩)
  | @failed f hlast =>
    have hfail : (w.fail (w.transportError f)).effects.filter Effect.isTrial = [] :=
      finish_trials _ _ _
    simp only [List.filter_cons, Effect.isTrial, if_true, hfail]
    exact .last (.failure f) hsending rfl (.inr hlast)
  | @failedAgain f hspare => exact .again (.failure f) [] hsending rfl rfl rfl hspare (.inl rfl)

/-- **Every transition is a deed.** -/
theorem Transition.deed (h : Transition p stop openings w s m) :
    Deed p w m (m.effects.filter Effect.isTrial) := by
  have hended {v : Worker} {events : List Log.Event} {o : Outcome}
      (hm : m = v.finish events o) : Deed p w m (m.effects.filter Effect.isTrial) := by
    subst hm
    rw [finish_trials]
    exact .nothing (.inl rfl)
  cases h with
  | stay _ => exact .nothing (.inr ⟨rfl, rfl⟩)
  | enter hp => exact .nothing (.inr ⟨by simp [pace, hp], rfl⟩)
  | stop _ _ | stopReading _ _ | bodyEnd _ _ => exact hended rfl
  | attempt _ hp => exact (attempt_attempt p openings w).deed (by simp [pace, hp])
  | receive a _ hp => exact (receive_reception p w a).deed (by simp [pace, hp])
  | resume _ hp => exact .nothing (.inr ⟨by simp [pace, hp], rfl⟩)
  | @frame head reader f _ hp =>
    unfold readFrame at hended ⊢
    cases hread : reader.step p.maxResponseBodyBytes f with
    | ok next => exact .nothing (.inl rfl)
    | error fault =>
      simp only [hread] at hended
      exact hended rfl
  | panic _ _ => exact .nothing (.inl rfl)

end Worker

/-! ## §5 Accounts of attempts -/

/-- What was counted is what happened, when some requests had been sent before. -/
structure Balanced (policy : RetryPolicy) (requests : Nat) (effects : List Effect) : Prop where
  attempts : effects.count (.counted .attempt) = effects.countP Effect.isRequest
  backoffs : effects.count (.counted .backoff) = effects.countP Effect.isPause
  errors : effects.count (.counted .transportError) = effects.countP Effect.isTransportError
  retries : effects.count (.counted .retry) =
    (trialsFrom requests effects).countP (·.isVain policy)
  pauses : effects.countP Effect.isPause ≤ effects.count (.counted .retry)

theorem Balanced.append {policy : RetryPolicy} {requests : Nat} {xs ys : List Effect}
    (h : Balanced policy requests xs)
    (hys : Balanced policy (requests + xs.countP Effect.isRequest) ys) :
    Balanced policy requests (xs ++ ys) := by
  refine ⟨?_, ?_, ?_, ?_, ?_⟩
  · rw [List.count_append, List.countP_append, h.attempts, hys.attempts]
  · rw [List.count_append, List.countP_append, h.backoffs, hys.backoffs]
  · rw [List.count_append, List.countP_append, h.errors, hys.errors]
  · rw [List.count_append, trialsFrom_append, List.countP_append, h.retries, hys.retries]
  · rw [List.count_append, List.countP_append]
    exact Nat.add_le_add h.pauses hys.pauses

/-- Whatever has nothing to do with attempts may be put back. -/
theorem Balanced.of_filter {policy : RetryPolicy} {requests : Nat} {effects : List Effect}
    (h : Balanced policy requests (effects.filter Effect.isTrial)) :
    Balanced policy requests effects := by
  have hrequests := countP_filter_trial (fun _ => Effect.isTrial_of_isRequest) effects
  have hpauses := countP_filter_trial (fun _ => Effect.isTrial_of_isPause) effects
  have herrors := countP_filter_trial (fun _ => Effect.isTrial_of_isTransportError) effects
  obtain ⟨hattempts, hbackoffs, hfailures, hretries, hle⟩ := h
  rw [count_filter_trial] at hattempts hbackoffs hfailures hretries hle
  rw [trialsFrom_filter] at hretries
  rw [hpauses] at hbackoffs hle
  exact ⟨hrequests ▸ hattempts, hbackoffs, herrors ▸ hfailures, hretries, hle⟩

namespace Worker

variable {p : Plan} {w : Worker} {m : Move} {effects deeds : List Effect}

/-- A deed counts what happens. -/
theorem Deed.balanced (h : Deed p w m deeds) : Balanced p.retryPolicy w.attempts deeds := by
  cases h with
  | nothing _ => exact ⟨rfl, rfl, rfl, rfl, Nat.le_refl _⟩
  | send head copy _ _ _ =>
    constructor <;> simp [trialsFrom, Effect.isRequest, Effect.isPause, Effect.isTransportError]
  | last a _ _ hlast =>
    -- The answer is final, so that the attempt was not in vain.
    have hfinal : (⟨w.attempts, a⟩ : Trial).isVain p.retryPolicy = false := by
      rcases hlast with hsuccess | hspent <;> simp_all [Trial.isVain]
    cases a <;> constructor <;>
      simp [Answer.errors, trialsFrom, hfinal, Effect.isRequest, Effect.isPause,
        Effect.isTransportError, List.countP_cons]
  | again a pauses _ _ _ hfails hspare hpauses =>
    have hvain : (⟨w.attempts, a⟩ : Trial).isVain p.retryPolicy = true := by
      simp [Trial.isVain, hfails, hspare]
    rcases hpauses with rfl | ⟨d, rfl⟩ <;> cases a <;> constructor <;>
      simp [Answer.errors, trialsFrom, hvain, Effect.isRequest, Effect.isPause,
        Effect.isTransportError, List.countP_cons]

/-- The account of a worker: what was counted for it is what happened, and its requests fit the
    attempts that were in vain. -/
structure Tally (p : Plan) (w : Worker) (effects : List Effect) : Prop where
  balanced : Balanced p.retryPolicy 0 effects
  made : w.pace ≠ .ended → effects.countP Effect.isRequest = w.attempts
  fits : w.pace.Fits (effects.countP Effect.isRequest) (effects.count (.counted .retry))

/-- A deed keeps the account. -/
theorem Tally.deed (h : Tally p w effects) (hdeed : Deed p w m deeds) :
    Tally p m.worker (effects ++ deeds) := by
  have hbalanced (hgoing : w.pace ≠ .ended) : Balanced p.retryPolicy 0 (effects ++ deeds) := by
    refine h.balanced.append ?_
    rw [Nat.zero_add, h.made hgoing]
    exact hdeed.balanced
  have hfits := h.fits
  cases hdeed with
  | nothing hpace =>
    rw [List.append_nil]
    -- The worker is where it was, or its attempts are over.
    rcases hpace with hafter | ⟨hsame, hattempts⟩
    · exact ⟨h.balanced, fun hgoing => absurd hafter hgoing, hafter ▸ hfits.ended⟩
    · exact ⟨h.balanced, fun hgoing => (h.made (hsame ▸ hgoing)).trans hattempts.symm,
        hsame ▸ hfits⟩
  | send head copy hbefore hafter hattempts =>
    have hmade := h.made (by simp [hbefore])
    rw [hbefore] at hfits
    refine ⟨hbalanced (by simp [hbefore]), fun _ => ?_, ?_⟩
    · simp [Effect.isRequest, hattempts, hmade]
    · rw [hafter]
      simpa [Pace.Fits, Effect.isRequest] using hfits
  | last a hbefore hafter hlast =>
    rw [hbefore] at hfits
    refine ⟨hbalanced (by simp [hbefore]), fun hgoing => absurd hafter hgoing, ?_⟩
    rw [hafter]
    cases a <;> simpa [Answer.errors, Effect.isRequest] using hfits.ended
  | again a pauses hbefore hafter hattempts hfails hspare hpauses =>
    have hmade := h.made (by simp [hbefore])
    rw [hbefore] at hfits
    refine ⟨hbalanced (by simp [hbefore]), fun _ => ?_, ?_⟩
    · rw [hattempts, ← hmade]
      rcases hpauses with rfl | ⟨d, rfl⟩ <;> cases a <;> simp [Answer.errors, Effect.isRequest]
    · rw [hafter]
      rcases hpauses with rfl | ⟨d, rfl⟩ <;> cases a <;>
        simpa [Pace.Fits, Answer.errors, Effect.isRequest] using hfits

end Worker

namespace Engine

variable {client : Client} {now : Instant}

theorem doings_trials (p : Operation.Preparation) (client : Client) (policy : RetryPolicy) :
    (p.doings client policy).filter Effect.isTrial = [] := by
  unfold Operation.Preparation.doings
  cases p.intercepted <;> cases p.opened <;> cases p.copy <;> rfl

/-- In every run, the account of every worker is right. -/
theorem run_tally (events : List Event) {number position : Nat} {b : Batch} {w : Worker}
    (hb : ((start client now).run events).1.batches[number]? = some b)
    (hw : b.workers[position]? = some w) :
    w.Tally b.plan (((((start client now).run events).2.of number).effectsAt position).filter
      Effect.isTrial) := by
  refine worker_induction (P := fun _ p w effects => w.Tally p (effects.filter Effect.isTrial))
    ?_ ?_ ?_ events hb hw
  · intro events event targets b d preparations p _ hnew hp
    rw [hnew.here position p hp, doings_trials]
    have hbetween : (workerOf p).pace = .between := by unfold workerOf; cases p.copy <;> rfl
    have hattempts : (workerOf p).attempts = 0 := by unfold workerOf; cases p.copy <;> rfl
    exact ⟨⟨rfl, rfl, rfl, rfl, Nat.le_refl _⟩, fun _ => hattempts.symm, by rw [hbetween]; rfl⟩
  · intro events b w effects s _ _ ih
    have hdeed := (Worker.step_transition b.plan (b.stopFor ((start client now).run events).1 w)
      ((start client now).run events).1.openings w s).deed
    generalize w.step b.plan (b.stopFor ((start client now).run events).1 w)
      ((start client now).run events).1.openings s = m at hdeed ⊢
    have hpost : (m.doings b.channel.posting).filter Effect.isTrial =
        m.effects.filter Effect.isTrial := by
      cases hout : m.outcome <;> simp [Worker.Move.doings, hout, Effect.isTrial]
    rw [List.filter_append, hpost]
    exact ih.deed hdeed
  · exact fun _ _ _ _ _ _ ih => ih

/-! ## §6 The counters -/

/-- What was done for any target counts what happened, and it has sent as many requests as attempts
    were in vain, or one more. -/
theorem run_balanced (events : List Event) :
    ∀ c ∈ ((start client now).run events).1.courses ((start client now).run events).2,
      Balanced c.1.plan.retryPolicy 0 c.2 ∧
        Pace.ended.Fits (c.2.countP Effect.isRequest) (c.2.count (.counted .retry)) := by
  rintro ⟨b, effects⟩ hc
  obtain ⟨number, position, hb, hlt, rfl⟩ := mem_courses.mp hc
  obtain ⟨hbalanced, _, hfits⟩ := run_tally events hb (List.getElem?_eq_getElem hlt)
  refine ⟨hbalanced.of_filter, ?_⟩
  have hover := hfits.ended
  rwa [countP_filter_trial (fun _ => Effect.isTrial_of_isRequest), count_filter_trial] at hover

/-- A counter of attempts is spread among the targets. -/
theorem run_read (c : Counter) (events : List Event) :
    (Metrics.ofHistory ((start client now).run events).2).read c =
      ((((start client now).run events).1.courses ((start client now).run events).2).map
        fun course => course.2.count (.counted c)).sum := by
  rw [Metrics.read_ofHistory]
  exact run_count (fun _ => Effect.isTrial_of_counted) events

/-- **The counters of attempts are exact.**  With counting enabled, in every state of every run over
    one client: the attempts counted are the requests handed to the transport, the backoffs are the
    pauses asked of the clock, the transport errors are the requests that the transport ended with
    an error of its own, and the retries are the completed attempts that were unsuccessful and not
    the last ones that their policies allow.  Therefore there are no more backoffs than retries, no
    more retries than attempts, and beyond the retries at most one attempt for each target for which
    a request was sent. -/
theorem run_tallies (client : Client) (now : Instant) (hmetrics : client.metricsEnabled = true)
    (events : List Event) :
    let e := ((start client now).run events).1
    let history := ((start client now).run events).2
    let m := (Metrics.ofHistory history).shown client.metricsEnabled
    m.attempts = history.countP (fun r => r.effect.isRequest) ∧
      m.rateLimitBackoffs = history.countP (fun r => r.effect.isPause) ∧
      m.transportErrors = history.countP (fun r => r.effect.isTransportError) ∧
      m.retries =
        ((e.courses history).map fun c => vainTrials c.1.plan.retryPolicy c.2).sum ∧
      m.rateLimitBackoffs ≤ m.retries ∧
      m.retries ≤ m.attempts ∧
      m.attempts ≤ m.retries + (e.courses history).countP fun c => c.2.any Effect.isRequest := by
  intro e history m
  have hm : m = Metrics.ofHistory history := by
    simp only [m, hmetrics, Metrics.shown_enabled]
  have hcourses : ∀ c ∈ e.courses history, _ := run_balanced events
  have hattempts : m.attempts = _ := hm ▸ run_read .attempt events
  have hbackoffs : m.rateLimitBackoffs = _ := hm ▸ run_read .backoff events
  have herrors : m.transportErrors = _ := hm ▸ run_read .transportError events
  have hretries : m.retries = _ := hm ▸ run_read .retry events
  refine ⟨?_, ?_, ?_, ?_, ?_, ?_, ?_⟩
  · rw [hattempts, run_count (fun _ => Effect.isTrial_of_isRequest) events]
    exact congrArg List.sum (List.map_congr_left fun c hc => (hcourses c hc).1.attempts)
  · rw [hbackoffs, run_count (fun _ => Effect.isTrial_of_isPause) events]
    exact congrArg List.sum (List.map_congr_left fun c hc => (hcourses c hc).1.backoffs)
  · rw [herrors, run_count (fun _ => Effect.isTrial_of_isTransportError) events]
    exact congrArg List.sum (List.map_congr_left fun c hc => (hcourses c hc).1.errors)
  · rw [hretries]
    exact congrArg List.sum (List.map_congr_left fun c hc => (hcourses c hc).1.retries)
  · rw [hbackoffs, hretries]
    exact List.sum_le_sum fun c hc => (hcourses c hc).1.backoffs ▸ (hcourses c hc).1.pauses
  · rw [hattempts, hretries]
    exact List.sum_le_sum fun c hc => (hcourses c hc).1.attempts ▸ (hcourses c hc).2.1
  · -- A target for which nothing was sent has no attempt beyond its retries.
    have hone : ∀ c ∈ e.courses history, c.2.count (.counted .attempt) ≤
        c.2.count (.counted .retry) + if c.2.any Effect.isRequest then 1 else 0 := by
      intro c hc
      obtain ⟨hbalanced, hfits⟩ := hcourses c hc
      rw [hbalanced.attempts]
      by_cases hany : c.2.any Effect.isRequest = true
      · simpa [hany] using hfits.2
      · have hnone : c.2.countP Effect.isRequest = 0 := by simpa using hany
        rw [hnone]
        exact Nat.zero_le _
    have hworkers : (e.courses history).countP (fun c => c.2.any Effect.isRequest) =
        ((e.courses history).map fun c => if c.2.any Effect.isRequest then 1 else 0).sum := by
      induction e.courses history with
      | nil => rfl
      | cons c rest ih => rw [List.countP_cons, List.map_cons, List.sum_cons, ih, Nat.add_comm]
    rw [hattempts, hretries, hworkers, ← List.sum_map_add]
    exact List.sum_le_sum hone

/-- One worker is told to wait, fails and is cut off with a request out; the other one is cancelled
    after it was told that it may try again. -/
def triedEvents : List Event :=
  [.dispatch (.new .get "x") [⟨0, "http://a"⟩, ⟨1, "http://b"⟩], .signal 0 0 .turn,
    .signal 0 0 .turn, .signal 0 1 .turn, .signal 0 1 .turn,
    .signal 0 0 (.answer (.response ⟨Status.tooManyRequests, .http11, Header.Map.empty⟩)),
    .signal 0 0 .pauseOver, .signal 0 0 .turn,
    .signal 0 0 (.answer (.failure (.io .connectionReset none))), .signal 0 0 .turn,
    .signal 0 1 (.answer (.failure (.client .connect []))), .cancel 0, .signal 0 0 .turn,
    .signal 0 1 .turn]

/-- The counters of `triedEvents`: four attempts by two workers, with three retries. -/
theorem run_tallies_tried :
    countingClient.metricsEnabled = true ∧
      let e := ((start countingClient ⟨0⟩).run triedEvents).1
      let history := ((start countingClient ⟨0⟩).run triedEvents).2
      let m := (Metrics.ofHistory history).shown countingClient.metricsEnabled
      m.attempts = history.countP (fun r => r.effect.isRequest) ∧
        m.retries =
          ((e.courses history).map fun c => vainTrials c.1.plan.retryPolicy c.2).sum ∧
        m.attempts ≤ m.retries + (e.courses history).countP (fun c => c.2.any Effect.isRequest) ∧
        [m.attempts, m.retries, m.rateLimitBackoffs, m.transportErrors] = [4, 3, 1, 2] := by
  have hmetrics : countingClient.metricsEnabled = true := rfl
  obtain ⟨hattempts, _, _, hretries, _, _, hmost⟩ :=
    run_tallies countingClient ⟨0⟩ hmetrics triedEvents
  exact ⟨hmetrics, hattempts, hretries, hmost, by decide +kernel⟩

end Engine

end Replicast
