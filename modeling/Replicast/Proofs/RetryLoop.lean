import Mathlib.Data.List.Infix
import Replicast.Proofs.Engine.Position
import Replicast.Proofs.Worker.Retry
/-!
# The retry loop in a run

Whatever else happens to a client, a worker whose batch is not interrupted does what its transport's
replies make it do: the exchanges and the outcome are those of the reference.

## Overview

* `Engine.heard` are the signals of a run that reach a worker while it waits for them.
* `Engine.Calm` says that a worker's batch is not interrupted before the worker has ended.
* `Engine.Served` gathers what a transport with some replies means for a run.
* `Engine.run_retries` is the result.
-/

namespace Replicast

theorem Operation.Preparation.doings_exchanges (p : Operation.Preparation) (client : Client)
    (policy : RetryPolicy) : (p.doings client policy).filterMap Effect.exchange? = [] := by
  unfold doings
  cases p.intercepted <;> cases p.opened <;> cases p.copy <;> rfl

theorem Worker.Move.doings_exchanges (m : Worker.Move) (posting : Channel.Posting) :
    (m.doings posting).filterMap Effect.exchange? = m.effects.filterMap Effect.exchange? := by
  unfold doings
  rw [List.filterMap_append]
  cases m.outcome <;> simp [Effect.exchange?]

namespace Engine

/-! ## §1 What a worker hears -/

/-- Whether the worker at a position waits for a signal. -/
def listens (e : Engine) (number position : Nat) (s : Signal) : Bool :=
  e.batches[number]?.any fun b => b.workers[position]?.any (·.awaits s)

/-- The signal of an event, when the worker at a position waits for it. -/
def heardAt (e : Engine) (number position : Nat) : Event → List Signal
  | .signal n i s => if n = number ∧ i = position ∧ e.listens number position s then [s] else []
  | _ => []

/-- The signals of a run that the worker at a position waits for. -/
def heard (e : Engine) (number position : Nat) : List Event → List Signal
  | [] => []
  | event :: rest => e.heardAt number position event ++ (e.step event).1.heard number position rest

variable {e : Engine} {number position : Nat}

theorem heard_append (e : Engine) (xs ys : List Event) :
    e.heard number position (xs ++ ys) =
      e.heard number position xs ++ (e.run xs).1.heard number position ys := by
  -- What is heard later depends on the state that the first part leaves behind.
  induction xs generalizing e with
  | nil => rfl
  | cons x xs ih => simp [heard, run, ih]

theorem heard_concat (e : Engine) (events : List Event) (event : Event) :
    e.heard number position (events ++ [event]) =
      e.heard number position events ++ (e.run events).1.heardAt number position event := by
  simp [heard_append, heard]

theorem heardAt_of_none (hnone : e.batches[number]? = none) (event : Event) :
    e.heardAt number position event = [] := by
  unfold heardAt
  split
  · simp [listens, hnone]
  · rfl

theorem heardAt_other {event : Event} (h : ∀ s, event ≠ .signal number position s) :
    e.heardAt number position event = [] := by
  unfold heardAt
  split
  · rename_i n i s
    have hne : ¬ (n = number ∧ i = position ∧ e.listens number position s = true) := by
      rintro ⟨rfl, rfl, _⟩
      exact h s rfl
    rw [if_neg hne]
  · rfl

theorem heardAt_signal {b : Batch} {w : Worker} (hb : e.batches[number]? = some b)
    (hw : b.workers[position]? = some w) (s : Signal) :
    e.heardAt number position (.signal number position s) = if w.awaits s then [s] else [] := by
  simp [heardAt, listens, hb, hw]

/-- Before a batch begins, none of its workers hears anything. -/
theorem heard_of_unborn (events : List Event) (hnone : (e.run events).1.batches[number]? = none) :
    e.heard number position events = [] := by
  induction events using List.reverseRecOn with
  | nil => rfl
  | append_singleton events event ih =>
    -- A batch that is missing now was missing before.
    have hbefore : (e.run events).1.batches[number]? = none := by
      cases hthere : (e.run events).1.batches[number]? with
      | none => rfl
      | some b =>
        rw [run_concat, (step_share hthere event).1] at hnone
        cases hnone
    rw [heard_concat, ih hbefore, heardAt_of_none hbefore]
    rfl

/-! ## §2 Calm runs -/

/-- The batch of the worker at a position is not interrupted while the worker is live. -/
def Calm (e : Engine) (events : List Event) (number position : Nat) : Prop :=
  ∀ before b w, before <+: events → (e.run before).1.batches[number]? = some b →
    b.workers[position]? = some w → w.isLive = true →
    b.isInterrupted (e.run before).1.now (e.run before).1.tokens = false

theorem Calm.left {xs ys : List Event} (h : e.Calm (xs ++ ys) number position) :
    e.Calm xs number position :=
  fun before b w hbefore => h before b w (hbefore.trans (List.prefix_append xs ys))

theorem signal_time (e : Engine) (number position : Nat) (s : Signal) :
    (e.signal number position s).1.now = e.now ∧
      (e.signal number position s).1.tokens = e.tokens := by
  unfold signal
  cases e.batches[number]? <;> exact ⟨rfl, rfl⟩

theorem signal_interrupted (b : Batch) (e : Engine) (position : Nat) (s : Signal) (time : Instant)
    (tokens : List String) :
    (b.signal e.toClock e.tokens e.openings position s).1.isInterrupted time tokens =
      b.isInterrupted time tokens := by
  cases hw : b.workers[position]? with
  | none => rw [Batch.signal_of_none e hw s]
  | some w =>
    rw [Batch.signal_eq e hw s]
    rfl

/-- Signals do not interrupt. -/
theorem Calm.signal {events : List Event} {b : Batch} {w : Worker}
    (h : e.Calm events number position) (hb : (e.run events).1.batches[number]? = some b)
    (hw : b.workers[position]? = some w) (hlive : w.isLive = true) (s : Signal) :
    e.Calm (events ++ [.signal number position s]) number position := by
  intro before b' w' hprefix hb' hw' hlive'
  rcases List.prefix_concat_iff.mp hprefix with rfl | hbefore
  -- The whole run: the signal changed neither the clock nor the tokens, nor the batch's own.
  · have hcalm := h events b w (List.prefix_refl _) hb hw hlive
    obtain ⟨hnow, htokens⟩ := signal_time (e.run events).1 number position s
    obtain ⟨hthere, _⟩ := signal_share hb number position s
    rw [if_pos rfl] at hthere
    rw [run_concat, step] at hb' ⊢
    rw [hthere] at hb'
    obtain rfl := Option.some.inj hb'
    rw [hnow, htokens, signal_interrupted]
    exact hcalm
  · exact h before b' w' hbefore hb' hw' hlive'

/-! ## §3 Runs that are served -/

variable {client : Client} {now : Instant} {replies : Nat → Reply}

/-- A run in which a transport with some replies serves the worker at a position: the request of
    the target could be built, every copy of its body opens, the batch is not interrupted before the
    worker has ended, and what the worker hears comes from the replies, in order. -/
structure Served (client : Client) (now : Instant) (replies : Nat → Reply) (events : List Event)
    (number position : Nat) (b : Batch) (w : Worker) : Prop where
  batch : ((start client now).run events).1.batches[number]? = some b
  worker : b.workers[position]? = some w
  built : w.phase ≠ .unbuilt
  bound : 0 < b.plan.retryPolicy.maxAttempts
  opens : ∀ opening, ∃ copy, b.plan.body.openCopy opening = .ok copy
  calm : (start client now).Calm events number position
  heard : (serve replies ((start client now).heard number position events)).isSome = true

/-- A served worker stays with the reference. -/
theorem run_follows (events : List Event) {b : Batch} {w : Worker}
    (hb : ((start client now).run events).1.batches[number]? = some b)
    (hw : b.workers[position]? = some w) (hbuilt : w.phase ≠ .unbuilt)
    (hbound : 0 < b.plan.retryPolicy.maxAttempts)
    (hopens : ∀ opening, ∃ copy, b.plan.body.openCopy opening = .ok copy)
    (hcalm : (start client now).Calm events number position) {c : Cursor}
    (hserved : serve replies ((start client now).heard number position events) = some c) :
    w.Follows b.plan replies c
      (((((start client now).run events).2.of number).effectsAt position).filterMap
        Effect.exchange?)
      ((((start client now).run events).2.of number).postedAt position) := by
  -- The induction is on the events; the invariant is `Worker.Follows` at the cursor that the heard
  -- signals lead to.
  refine worker_induction
    (P := fun events p w effects => w.phase ≠ .unbuilt → 0 < p.retryPolicy.maxAttempts →
      (∀ opening, ∃ copy, p.body.openCopy opening = .ok copy) →
      (start client now).Calm events number position →
      ∀ c, serve replies ((start client now).heard number position events) = some c →
        w.Follows p replies c (effects.filterMap Effect.exchange?)
          (effects.filterMap Effect.posted?))
    ?_ ?_ ?_ events hb hw hbuilt hbound hopens hcalm c hserved
  · intro events event targets b d preparations p hlength hnew hp hbuilt hbound _ _ c hserved
    -- A new worker has heard nothing.
    have hnone : ((start client now).run events).1.batches[number]? = none := by simp [hlength]
    rw [heard_concat, heard_of_unborn events hnone, heardAt_of_none hnone] at hserved
    obtain rfl := Option.some.inj hserved
    rw [hnew.here position p hp, p.doings_exchanges, p.doings_posted]
    unfold workerOf Operation.Preparation.failure? at *
    cases hcopy : p.copy with
    | error error => simp [hcopy] at hbuilt
    | ok copy => exact Worker.follows_start hbound rfl rfl
  · intro events b w effects s hb hw ih hbuilt hbound hopens hcalm c hserved
    rw [heard_concat, heardAt_signal hb hw] at hserved
    -- While the worker is live nothing stops it.
    have hquiet : w.isLive = true → b.stopFor ((start client now).run events).1 w = none :=
      fun hlive => Batch.stopFor_eq_none
        (hcalm events b w (List.prefix_append _ _) hb hw hlive) w
    cases hawaits : w.awaits s with
    | true =>
      -- The worker is live, and the transport sends this signal.
      have hlive := Worker.isLive_of_awaits hawaits
      rw [hquiet hlive] at hbuilt ⊢
      have hmove := Worker.step_transition b.plan none
        ((start client now).run events).1.openings w s
      generalize w.step b.plan none ((start client now).run events).1.openings s = m
        at hmove hbuilt ⊢
      rw [hawaits, if_pos rfl, serve_append] at hserved
      obtain ⟨before, hbefore, hnext⟩ := Option.bind_eq_some_iff.mp hserved
      have hfollows := ih (fun hphase => by simp [Worker.isLive, hphase] at hlive) hbound hopens
        hcalm.left before hbefore
      have hafter := (hfollows.transition hbound hopens hmove hawaits
        (by simpa using hnext)).follows
      rw [List.filterMap_append, List.filterMap_append, m.doings_exchanges, hmove.lawful.posted]
      exact hafter
    | false =>
      -- The worker does not hear the signal, and nothing else happens to it.
      have hstay : w.step b.plan (b.stopFor ((start client now).run events).1 w)
          ((start client now).run events).1.openings s = w.stay :=
        Worker.step_of_unheard hawaits hquiet
      rw [hstay] at hbuilt ⊢
      rw [hawaits] at hserved
      simpa [Worker.stay, Worker.Move.doings] using
        ih hbuilt hbound hopens hcalm.left c (by simpa using hserved)
  · intro events event p w effects hother ih hbuilt hbound hopens hcalm c hserved
    -- No other event is heard by this worker.
    rw [heard_concat, heardAt_other hother, List.append_nil] at hserved
    exact ih hbuilt hbound hopens hcalm.left c hserved

/-! ## §4 Served workers end -/

variable {events : List Event} {b : Batch} {w : Worker}

/-- A live worker that is served can be brought on by a signal. -/
theorem Served.advance (h : Served client now replies events number position b w)
    (hlive : w.isLive = true) {c : Cursor}
    (hc : serve replies ((start client now).heard number position events) = some c) :
    ∃ s b' w' c', Served client now replies (events ++ [.signal number position s]) number position
        b' w' ∧
      serve replies ((start client now).heard number position
        (events ++ [.signal number position s])) = some c' ∧
      w'.effort b'.plan replies c' < w.effort b.plan replies c := by
  have hfollows := run_follows events h.batch h.worker h.built h.bound h.opens h.calm hc
  obtain ⟨s, next, hawaits, hnext⟩ := hfollows.exists_next hlive
  have hquiet : b.stopFor ((start client now).run events).1 w = none :=
    Batch.stopFor_eq_none (h.calm events b w (List.prefix_refl _) h.batch h.worker hlive) w
  have hmove := Worker.step_transition b.plan none ((start client now).run events).1.openings w s
  have hadvances := hfollows.transition h.bound h.opens hmove hawaits hnext
  obtain ⟨hthere, _⟩ := step_share h.batch (.signal number position s)
  obtain ⟨hworker, _⟩ := Batch.react_told ((start client now).run events).1 number h.worker s
  have hplan := (b.react_move ((start client now).run events).1 number
    (.signal number position s)).persists.plan
  rw [hquiet] at hworker
  have hheard : serve replies ((start client now).heard number position
      (events ++ [.signal number position s])) = some next := by
    rw [heard_concat, heardAt_signal h.batch h.worker, hawaits, if_pos rfl, serve_append, hc]
    simpa using hnext
  refine ⟨s, _, _, next, ⟨?_, hworker, hadvances.follows.built, ?_, ?_,
    h.calm.signal h.batch h.worker hlive s, by rw [hheard]; rfl⟩, hheard, ?_⟩
  · rw [run_concat]
    exact hthere
  · rw [hplan]
    exact h.bound
  · rw [hplan]
    exact h.opens
  · rw [hplan]
    exact hadvances.effort_lt

/-- Further signals bring a served worker to its end. -/
theorem Served.finish (h : Served client now replies events number position b w) :
    ∃ (more : List Signal) (b' : Batch) (w' : Worker),
      Served client now replies (events ++ more.map (.signal number position)) number position
        b' w' ∧ w'.isLive = false := by
  obtain ⟨c, hc⟩ := Option.isSome_iff_exists.mp h.heard
  -- Every signal that the worker hears costs effort, so that it ends after finitely many.
  induction heffort : w.effort b.plan replies c using Nat.strongRecOn
    generalizing events b w c with
  | ind effort ih =>
    cases hlive : w.isLive with
    | false => exact ⟨[], b, w, by simpa using h, hlive⟩
    | true =>
      obtain ⟨s, b', w', c', hserved, hc', hless⟩ := h.advance hlive hc
      obtain ⟨more, b'', w'', hfinal, hended⟩ := ih _ (heffort ▸ hless) hserved c' hc' rfl
      exact ⟨s :: more, b'', w'', by simpa using hfinal, hended⟩

/-- **The retry loop equals its reference.**  When a served worker has ended, it has handed as many
    requests to the transport as the reference has attempts; requests, answers and pauses came in
    the order of the reference; and it has posted the outcome of the reference, which is made from
    the last reply alone.  And a served worker always comes to its end when it hears enough. -/
theorem run_retries (h : Served client now replies events number position b w) :
    let doings := ((start client now).run events).2.of number
    let exchanges := (doings.effectsAt position).filterMap Effect.exchange?
    (w.isLive = false →
      exchanges.count .request = lastAttempt b.plan.retryPolicy.maxAttempts replies ∧
      exchanges = exchangesFor b.plan.retryPolicy replies ∧
      doings.postedAt position = [outcomeFor b.plan w.target w.request replies] ∧
      (outcomeFor b.plan w.target w.request replies).attempts =
        lastAttempt b.plan.retryPolicy.maxAttempts replies) ∧
    ∃ (more : List Signal) (b' : Batch) (w' : Worker),
      Served client now replies (events ++ more.map (.signal number position)) number position
        b' w' ∧ w'.isLive = false := by
  intro doings exchanges
  refine ⟨fun hended => ?_, h.finish⟩
  obtain ⟨c, hc⟩ := Option.isSome_iff_exists.mp h.heard
  obtain ⟨htrace, hposted⟩ :=
    (run_follows events h.batch h.worker h.built h.bound h.opens h.calm hc).of_ended hended
  change exchanges = _ at htrace
  exact ⟨by rw [htrace, exchangesFor_count h.bound], htrace, hposted, outcomeFor_attempts _ _ _ _⟩

/-- A rate-limited response, a failed exchange, and then a response with a body. -/
def tryingReplies : Nat → Reply
  | 0 => .response ⟨Status.tooManyRequests, .http11, Header.Map.empty⟩ [.data [110, 111]]
  | 1 => .failure (.plain "reset" [])
  | _ => .response ⟨Status.ok, .http11, Header.Map.empty⟩ [.data [111, 107], .trailers]

/-- A worker that hears `tryingReplies`, among turns and frames that it does not wait for. -/
def tryingEvents : List Event :=
  .dispatch (.new .get "x") [⟨0, "http://a"⟩] ::
    ([.turn, .turn, .pauseOver, .answer (tryingReplies 0).answer, .turn, .frame (.data [110, 111]),
      .pauseOver, .turn, .answer (tryingReplies 1).answer, .turn,
      .answer (tryingReplies 2).answer, .frame (.data [111, 107]), .turn, .frame .trailers,
      .bodyEnd] : List Signal).map (.signal 0 0)

/-- The worker of `tryingEvents` ends after three requests with the last response. -/
theorem run_retries_trying :
    ∃ b w, Served (ClientBuilder.ofConfig .standard).build ⟨0⟩ tryingReplies tryingEvents 0 0 b w ∧
      w.isLive = false ∧
      ((((plain.run tryingEvents).2.of 0).effectsAt 0).filterMap Effect.exchange?).count .request =
        lastAttempt b.plan.retryPolicy.maxAttempts tryingReplies ∧
      ((plain.run tryingEvents).2.of 0).postedAt 0 =
        [outcomeFor b.plan w.target w.request tryingReplies] := by
  have hfacts : (plain.run tryingEvents).1.batches[0]?.any (fun b =>
      (match b.plan.body with | .empty => true | _ => false) &&
        decide (0 < b.plan.retryPolicy.maxAttempts) &&
        b.workers[0]?.any fun w => w.phase == .finished) = true := by decide +kernel
  have hcalm : (tryingEvents.inits.all fun before => (plain.run before).1.batches[0]?.all fun b =>
      !b.isInterrupted (plain.run before).1.now (plain.run before).1.tokens) = true := by
    decide +kernel
  have hheard : (serve tryingReplies (plain.heard 0 0 tryingEvents)).isSome = true := by
    decide +kernel
  obtain ⟨b, hb, hfacts⟩ := (Option.any_eq_true _ _).mp hfacts
  simp only [Bool.and_eq_true, decide_eq_true_eq] at hfacts
  obtain ⟨⟨hbody, hbound⟩, hworker⟩ := hfacts
  obtain ⟨w, hw, hphase⟩ := (Option.any_eq_true _ _).mp hworker
  rw [beq_iff_eq] at hphase
  have hopens : ∀ opening, ∃ copy, b.plan.body.openCopy opening = .ok copy := by
    intro opening
    split at hbody
    · rename_i hempty
      exact ⟨[], by rw [hempty]; rfl⟩
    · cases hbody
  have hserved : Served (ClientBuilder.ofConfig .standard).build ⟨0⟩ tryingReplies tryingEvents 0 0
      b w := by
    refine ⟨hb, hw, by simp [hphase], hbound, hopens, ?_, hheard⟩
    intro before b' w' hprefix hb' _ _
    have hall := List.all_eq_true.mp hcalm before ((List.mem_inits _ _).mpr hprefix)
    rw [← plain] at hb' ⊢
    rw [hb'] at hall
    simpa using hall
  have hended : w.isLive = false := by simp [Worker.isLive, hphase]
  obtain ⟨hcount, _, hposted, _⟩ := (run_retries hserved).1 hended
  exact ⟨b, w, hserved, hended, hcount, hposted⟩

end Engine

end Replicast
