import Replicast.Proofs.Ledger
/-!
# What reducers consume

A reducer takes the outcomes in the order in which they were posted, each of them once.  It returns
early only when it was after the first success and has got one, or when it finds the batch
interrupted; it never finds a channel that nobody will post to any more.

## Overview

* `Batch.Ledger.next_ne_disconnected` excludes the channel that was closed too early.
* `Batch.Returned` says why a reducer returned.
* `Engine.run_consumes` is the result for all runs.
-/

namespace Replicast

namespace Batch

variable {b after : Batch} {d : Doings}

/-! ## §1 The channel is never closed too early -/

/-- No more outcomes are consumed than there are targets. -/
theorem Ledger.consumed_le (h : Ledger b d) : d.consumed.length ≤ b.size := by
  -- What was consumed was posted, and no worker posts twice.
  have htaken := h.taken.length_le
  have howed := h.owed
  omega

/-- While outcomes are missing, one of them waits or a worker is live. -/
theorem Ledger.next_ne_disconnected {goal : Goal} {progress : Progress} (h : Ledger b d)
    (hstage : b.stage = .reducing goal progress) (hleft : progress.consumed.length < b.size)
    (c : Clock) (tokens : List String) : b.next c tokens ≠ .disconnected := by
  intro hdisconnected
  rcases next_cases b c tokens with
    ⟨hnext | hnext, _⟩ | ⟨_, ⟨_, _, hnext, _⟩ | ⟨hnext, _⟩ | ⟨_, hqueue, hlive⟩⟩
  all_goals first | (rw [hnext] at hdisconnected; cases hdisconnected) | skip
  -- The channel is empty and nobody is live, so that all has been posted and taken.
  obtain ⟨hopen, hconsumed⟩ := h.reducing goal progress hstage
  have hposted := h.flow hopen
  rw [hqueue, List.append_nil, hconsumed] at hposted
  have hnone : b.workers.countP Worker.isLive = 0 := by
    rw [List.countP_eq_zero]
    simpa [Batch.hasLive] using hlive
  have howed := h.owed
  rw [hposted, hnone] at howed
  omega

/-! ## §2 Turns and other reactions -/

/-- Only a turn of the reducer consumes anything or returns. -/
theorem react_unpolled (b : Batch) (e : Engine) (number : Nat) {event : Engine.Event}
    (hevent : event ≠ .poll number) :
    (b.react e number event).2.consumed = [] ∧
      ∀ r, (b.react e number event).1.stage = .reduced r → b.stage = .reduced r := by
  cases event with
  | signal n position s =>
    by_cases hn : n = number
    -- A worker posts, but it takes nothing from the channel.
    · refine ⟨?_, fun r hr => by simpa [react, hn] using hr⟩
      simp only [react, hn, if_true, Doings.consumed_here]
      refine List.filterMap_eq_nil_iff.mpr fun x hx => ?_
      rcases signal_effects hx with hown | ⟨o, posting, rfl⟩
      · exact Effect.consumed?_of_isOwn hown
      · rfl
    · simp [react, hn]
  | cancel n => by_cases hn : n = number <;> simp [react, hn, Effect.consumed?]
  | reduce n goal =>
    by_cases hn : n = number
    -- Beginning to reduce is not returning, and a batch that was reduced stays so.
    · refine ⟨by simp [react, hn], fun r hr => ?_⟩
      simp only [react, hn, if_true, begin] at hr
      split at hr
      · cases hr
      · exact hr
    · simp [react, hn]
  | poll n =>
    have hn : n ≠ number := fun h => hevent (h ▸ rfl)
    simp [react, hn]
  | drop n =>
    by_cases hn : n = number
    · refine ⟨?_, fun r hr => ?_⟩
      · simp only [react, hn, if_true, Doings.consumed_unplaced]
        exact List.filterMap_eq_nil_iff.mpr fun x hx =>
          Effect.consumed?_of_isConcluding (drop_concluding b x hx)
      -- A dropped batch is not a reduced one.
      · simp only [react, hn, if_true, drop] at hr
        split at hr
        · cases hr
        · cases hr
        · exact hr
        · exact hr
    · simp [react, hn]
  | dispatch _ _ | replicate _ _ _ _ | cancelToken _ | advance _ | tick => exact ⟨rfl, fun _ => id⟩

end Batch

/-! ## §3 Why reducers return -/

namespace Engine

/-- Whether the reducer of a batch, having consumed some outcomes, had a turn in a run at which the
    batch was cancelled or the timer for its deadline had fired. -/
def FoundInterrupted (e : Engine) (events : List Event) (number : Nat) (consumed : List Outcome) :
    Prop :=
  ∃ before after b goal progress, events = before ++ .poll number :: after ∧
    (e.run before).1.batches[number]? = some b ∧ b.stage = .reducing goal progress ∧
    progress.consumed = consumed ∧
    b.isAlarmed (e.run before).1.toClock (e.run before).1.tokens = true

theorem FoundInterrupted.concat {e : Engine} {events : List Event} {number : Nat}
    {consumed : List Outcome} (h : e.FoundInterrupted events number consumed) (event : Event) :
    e.FoundInterrupted (events ++ [event]) number consumed := by
  obtain ⟨before, after, b, goal, progress, rfl, hrest⟩ := h
  exact ⟨before, after ++ [event], b, goal, progress, by simp, hrest⟩

/-- Why the reducer of a batch returned a result after consuming some outcomes. -/
inductive Returned (e : Engine) (events : List Event) (number : Nat) (b : Batch)
    (consumed : List Outcome) (r : Reduction) : Prop where
  /-- Every outcome was consumed. -/
  | complete : consumed.length = b.size → Returned e events number b consumed r
  /-- The last outcome that was consumed is the first one that was accepted. -/
  | accepted {o : Outcome} :
      r = .first o → consumed.getLast? = some o → b.accepts o = true →
      Returned e events number b consumed r
  | interrupted :
      e.FoundInterrupted events number consumed → Returned e events number b consumed r

/-- Nothing that happens later changes why a reducer returned. -/
theorem Returned.concat {e : Engine} {events : List Event} {number : Nat} {b after : Batch}
    {consumed : List Outcome} {r : Reduction} (h : Returned e events number b consumed r)
    (hkept : b.Persists after) (event : Event) :
    Returned e (events ++ [event]) number after consumed r := by
  cases h with
  | complete hall => exact .complete (hall.trans hkept.size.symm)
  | accepted hr hlast haccept =>
    exact .accepted hr hlast ((Batch.accepts_congr hkept.handler _).trans haccept)
  | interrupted hfound => exact .interrupted (hfound.concat event)

/-- The account of a reducer: why it returned, and that a join returns what was consumed. -/
structure Account (e : Engine) (events : List Event) (number : Nat) (b : Batch) (d : Doings) :
    Prop where
  ledger : b.Ledger d
  returned : ∀ r, b.stage = .reduced r → Returned e events number b d.consumed r
  joined : ∀ outcomes, b.stage = .reduced (.joined outcomes) → outcomes = d.consumed

theorem resultOf_joined {b : Batch} {goal : Goal} {progress : Progress} {interrupted : Bool}
    {outcomes : List Outcome} (h : b.resultOf goal progress interrupted = .joined outcomes) :
    outcomes = progress.consumed := by
  -- Only a join returns outcomes; a drain passes or fails.
  cases goal with
  | drain =>
    simp only [Batch.resultOf] at h
    split at h <;> cases h
  | first | decide _ _ => cases h
  | join =>
    cases h
    rfl

variable {client : Client} {now : Instant}

/-- A reducer that returns without taking anything has consumed what it had consumed. -/
theorem Account.finish {e : Engine} {events later : List Event} {number : Nat} {b after : Batch}
    {d k : Doings} {goal : Goal} {progress : Progress} {interrupted : Bool}
    (h : Account e events number b d) (hledger : after.Ledger (d ++ k))
    (hstage : b.stage = .reducing goal progress)
    (hafter : after.stage = .reduced (b.resultOf goal progress interrupted))
    (hquiet : k.consumed = [])
    (hwhy : ∀ r, Returned e later number after progress.consumed r) :
    Account e later number after (d ++ k) := by
  -- The ledger knows what was consumed up to here, and the ending adds nothing.
  have hconsumed : (d ++ k).consumed = progress.consumed := by
    rw [Doings.consumed_append, hquiet, List.append_nil]
    exact (h.ledger.reducing goal progress hstage).2
  refine ⟨hledger, fun r _ => hconsumed ▸ hwhy r, fun outcomes hr => ?_⟩
  rw [hafter] at hr
  rw [hconsumed]
  exact resultOf_joined (Stage.reduced.inj hr)

/-- A turn of the reducer keeps its account. -/
theorem Account.turn {e : Engine} {events : List Event} {number : Nat} {b after : Batch}
    {d : Doings} {effects : List Effect} (h : Account e events number b d)
    (hb : (e.run events).1.batches[number]? = some b)
    (hturn : b.Turn (e.run events).1.toClock (e.run events).1.tokens after effects) :
    Account e (events ++ [.poll number]) number after (d ++ unplaced effects) := by
  have hledger := h.ledger.turn hturn
  cases hturn with
  | idle =>
    refine ⟨hledger, fun r hr => ?_, fun outcomes hr => ?_⟩
    · simpa [unplaced] using (h.returned r hr).concat (.refl b) _
    · simpa [unplaced] using h.joined outcomes hr
  | @complete goal progress hstage hall =>
    -- Nothing is left to take: no more than the targets' outcomes can have been consumed.
    have hconcluding := Doings.unplaced_concluding (b.finish_concluding goal progress false)
    refine h.finish hledger hstage (by rw [Batch.finish_eq_close, Batch.close_stage])
      (Doings.consumed_of_concluding hconcluding) fun r => .complete ?_
    rw [(b.finish_keeps goal progress false).size]
    have hmost := h.ledger.consumed_le
    rw [(h.ledger.reducing goal progress hstage).2] at hmost
    omega
  | @cutShort goal progress hstage hleft hwhy =>
    -- The channel is not closed too early, so that it was an interruption.
    have halarm : b.isAlarmed (e.run events).1.toClock (e.run events).1.tokens = true :=
      hwhy.resolve_right (h.ledger.next_ne_disconnected hstage hleft _ _)
    refine h.finish hledger hstage (by rw [Batch.finish_eq_close, Batch.close_stage]) ?_
      fun r => .interrupted ⟨events, [], b, goal, progress, rfl, hb, hstage, rfl, halarm⟩
    refine Doings.consumed_of_concluding (Doings.unplaced_concluding fun x hx => ?_)
    rcases List.mem_append.mp hx with hx | hx
    · obtain ⟨event, _, rfl⟩ := List.mem_map.mp hx
      rfl
    · exact b.finish_concluding goal progress true x hx
  | @take goal progress o rest hstage _ _ _ =>
    -- One outcome is taken, and the judgement on it takes no other.
    have hquiet := Doings.consumed_of_concluding (Doings.unplaced_concluding
      (Batch.consume_concluding { b with channel := rest } goal progress o))
    have hlast : (d ++ unplaced (.consumed o ::
        ({ b with channel := rest }.consume goal progress o).2)).consumed = d.consumed ++ [o] := by
      rw [unplaced_cons, Doings.consumed_append, Doings.consumed_cons, hquiet]
      rfl
    rcases Batch.consume_taken { b with channel := rest } goal progress o with
      ⟨_, hafter, _⟩ | ⟨_, haccept, hafter, _, _⟩
    -- The reducer goes on, or it has accepted the outcome and returns it.
    · exact ⟨hledger, fun r hr => by simp [hafter] at hr, fun outcomes hr => by simp [hafter] at hr⟩
    · refine ⟨hledger, fun r hr => ?_, fun outcomes hr => by simp [hafter] at hr⟩
      rw [hafter] at hr
      have hkept := Batch.consume_keeps { b with channel := rest } goal progress o
      refine .accepted (Stage.reduced.inj hr).symm (by rw [hlast, List.getLast?_concat]) ?_
      rw [Batch.accepts_congr hkept.handler]
      exact haccept

/-- Every reaction keeps the account. -/
theorem Account.react {e : Engine} {events : List Event} {number : Nat} {b : Batch} {d : Doings}
    (h : Account e events number b d) (hb : (e.run events).1.batches[number]? = some b)
    (event : Event) :
    Account e (events ++ [event]) number (b.react (e.run events).1 number event).1
      (d ++ (b.react (e.run events).1 number event).2) := by
  -- Only a poll of this batch can consume anything or return.
  by_cases hevent : event = .poll number
  · subst hevent
    have hturn := b.poll_turn (e.run events).1.toClock (e.run events).1.tokens
    simpa [Batch.react] using h.turn hb hturn
  · have hmove := b.react_move (e.run events).1 number event
    obtain ⟨hquiet, hstage⟩ := b.react_unpolled (e.run events).1 number hevent
    refine ⟨h.ledger.move hmove, fun r hr => ?_, fun outcomes hr => ?_⟩
    · rw [Doings.consumed_append, hquiet, List.append_nil]
      exact (h.returned r (hstage r hr)).concat hmove.persists event
    · rw [Doings.consumed_append, hquiet, List.append_nil]
      exact h.joined outcomes (hstage _ hr)

/-- The account of every batch is right in every run. -/
theorem run_account (events : List Event) {number : Nat} {b : Batch}
    (hb : ((start client now).run events).1.batches[number]? = some b) :
    Account (start client now) events number b (((start client now).run events).2.of number) := by
  refine run_induction
    (P := fun events _ number b d => Account (start client now) events number b d) ?_ ?_ events hb
  -- The induction is on the events; its invariant is `Account`.
  · intro events event targets b d hbirth
    obtain ⟨preparations, hnew⟩ := hbirth.newborn
    -- A new batch is not reduced.
    have hstage (r : Reduction) : b.stage ≠ .reduced r := by
      rcases hnew.stage with hkept | ⟨goal, hreducing⟩ <;> simp [*]
    exact ⟨Batch.ledger_of_newborn hnew, fun r hr => absurd hr (hstage r),
      fun _ hr => absurd hr (hstage _)⟩
  · intro events event number b d hbefore h
    exact h.react hbefore event

/-- **Reducers lose, repeat and reorder nothing.**  The outcomes that a reducer consumed are the
    first of those that were posted, in the same order.  A reducer that has not returned has
    consumed what its progress says and never finds its channel closed too early; one that returned
    has consumed all outcomes, or has got the first success that it was after, or it found the batch
    interrupted; and a join returns exactly what was consumed. -/
theorem run_consumes (client : Client) (now : Instant) (events : List Event) {number : Nat}
    {b : Batch} (hb : ((start client now).run events).1.batches[number]? = some b) :
    let e := ((start client now).run events).1
    let doings := ((start client now).run events).2.of number
    doings.consumed <+: doings.posted ∧
      (∀ goal progress, b.stage = .reducing goal progress →
        progress.consumed = doings.consumed ∧
          (doings.consumed.length < b.size → b.next e.toClock e.tokens ≠ .disconnected)) ∧
      (∀ r, b.stage = .reduced r →
        Returned (start client now) events number b doings.consumed r) ∧
      ∀ outcomes, b.stage = .reduced (.joined outcomes) → outcomes = doings.consumed := by
  intro e doings
  have h := run_account events hb
  refine ⟨h.ledger.taken, fun goal progress hstage => ?_, h.returned, h.joined⟩
  have hconsumed := (h.ledger.reducing goal progress hstage).2
  refine ⟨hconsumed.symm, fun hleft => ?_⟩
  rw [hconsumed] at hleft
  exact h.ledger.next_ne_disconnected hstage hleft _ _

/-- Two targets whose outcomes come in the other order, and a reducer that joins them. -/
def joinedEvents : List Event :=
  [.dispatch (.new .get "x") [⟨0, "http://a"⟩, ⟨1, "http://b"⟩], .reduce 0 .join,
    .signal 0 0 .turn, .signal 0 0 .turn, .signal 0 1 .turn, .signal 0 1 .turn, .poll 0,
    .signal 0 1 (.answer (.response ⟨Status.ok, .http11, Header.Map.empty⟩)), .signal 0 1 .bodyEnd,
    .poll 0, .signal 0 0 .panic, .poll 0, .poll 0]

/-- The reducer of `joinedEvents` returns both outcomes in the order of their posts. -/
theorem run_consumes_joined :
    ∃ b, (plain.run joinedEvents).1.batches[0]? = some b ∧
      ∃ outcomes, b.stage = .reduced (.joined outcomes) ∧
        outcomes.map (·.target.index) = [1, 0] ∧
        outcomes = ((plain.run joinedEvents).2.of 0).consumed ∧
        outcomes <+: ((plain.run joinedEvents).2.of 0).posted ∧
        Returned plain joinedEvents 0 b outcomes (.joined outcomes) := by
  have hindices : ((plain.run joinedEvents).1.batches[0]?.any fun b =>
      match b.stage with
      | .reduced (.joined outcomes) => outcomes.map (·.target.index) == [1, 0]
      | _ => false) = true := by decide +kernel
  obtain ⟨b, hb, hjoined⟩ := (Option.any_eq_true _ _).mp hindices
  obtain ⟨htaken, _, hreturned, hsame⟩ := run_consumes _ _ joinedEvents hb
  split at hjoined
  · rename_i outcomes hstage
    have hconsumed := hsame outcomes hstage
    refine ⟨b, hb, outcomes, hstage, by simpa using hjoined, hconsumed, ?_, ?_⟩
    · rw [hconsumed]
      exact htaken
    · have hwhy := hreturned _ hstage
      rwa [← hconsumed] at hwhy
  · cases hjoined

end Engine

end Replicast
