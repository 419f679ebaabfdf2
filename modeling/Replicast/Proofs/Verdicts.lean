import Replicast.Proofs.Delivery
import Replicast.Proofs.Promptness
import Replicast.Proofs.Replication
/-!
# Verdicts

A reducer that is after failures, or after the first success, puts each outcome that it takes to the
handler, once and in order.  What it returns is made of the verdicts alone: the failures in the
order in which the outcomes were taken, or the first outcome that is none.

## Overview

* `Outcome.verdict` is what is said about an outcome, and `Handler.failures` what it comes to for a
  list of outcomes.
* `Batch.Judging` describes the batch of such a reducer at every time: what the handler was asked,
  and how far the reducer has come.
* `Reducer` is a reducer at work in a run, and `Reducer.judging` says that its batch is of this
  kind.
* `Reducer.drain_tells` is the result for reducers that drain the channel.
-/

namespace Replicast

/-! ## §1 Verdicts -/

namespace Outcome

/-- What is said about an outcome: the verdict of the handler; without one, an outcome with an error
    is a failure. -/
def verdict (handler : Option Handler) (o : Outcome) : Except Error Unit :=
  match handler with
  | none => o.error.elim (.ok ()) .error
  | some handler => (handler o).verdict

/-- Whether an outcome counts as a success. -/
def isAccepted (handler : Option Handler) (o : Outcome) : Bool := (o.verdict handler).isOk

/-- The failure that an outcome counts as. -/
def failure? (handler : Option Handler) (o : Outcome) : Option Error :=
  match o.verdict handler with
  | .ok () => none
  | .error e => some e

theorem failure?_isSome (handler : Option Handler) (o : Outcome) :
    (o.failure? handler).isSome = !o.isAccepted handler := by
  unfold failure? isAccepted
  cases o.verdict handler <;> rfl

end Outcome

namespace Handler

variable {handler : Option Handler} {o : Outcome} {outcomes : List Outcome}

/-- The failures among some outcomes, in order. -/
def failures (handler : Option Handler) (outcomes : List Outcome) : List Error :=
  outcomes.filterMap (Outcome.failure? handler)

/-- What a handler is asked about some outcomes, if there is one, and what it answers. -/
def answers (handler : Option Handler) (outcomes : List Outcome) : List (Nat × Bool) :=
  if handler.isSome then outcomes.map fun o => (o.target.index, o.isAccepted handler) else []

theorem failures_concat (handler : Option Handler) (outcomes : List Outcome) (o : Outcome) :
    failures handler (outcomes ++ [o]) =
      failures handler outcomes ++ (o.failure? handler).toList := by
  cases h : o.failure? handler <;> simp [failures, h]

theorem answers_append (handler : Option Handler) (xs ys : List Outcome) :
    answers handler (xs ++ ys) = answers handler xs ++ answers handler ys := by
  cases handler <;> simp [answers]

/-- Each answer is about one of the outcomes. -/
theorem mem_of_mem_answers {index : Nat} {accepted : Bool}
    (h : (index, accepted) ∈ answers handler outcomes) :
    ∃ o ∈ outcomes, o.isAccepted handler = accepted := by
  unfold answers at h
  split at h
  · obtain ⟨o, ho, heq⟩ := List.mem_map.mp h
    exact ⟨o, ho, (Prod.mk.inj heq).2⟩
  · cases h

/-- There is a failure exactly when some outcome is not accepted. -/
theorem failures_ne_nil :
    failures handler outcomes ≠ [] ↔ ∃ o ∈ outcomes, o.isAccepted handler = false := by
  simp only [failures, ne_eq, List.filterMap_eq_nil_iff, not_forall, exists_prop,
    ← Option.isSome_iff_ne_none, Outcome.failure?_isSome, Bool.not_eq_true']

/-- There are as many failures as outcomes exactly when no outcome is accepted. -/
theorem length_failures :
    (failures handler outcomes).length = outcomes.length ↔
      ∀ o ∈ outcomes, o.isAccepted handler = false := by
  rw [failures, List.filterMap_length_eq_length]
  refine forall₂_congr fun o _ => ?_
  rw [Outcome.failure?_isSome, Bool.not_eq_true']

end Handler

/-- What an effect says about an answer of a handler: the target, and whether it was accepted. -/
def Effect.answer? : Effect → Option (Nat × Bool)
  | .judged index accepted _ => some (index, accepted)
  | _ => none

/-- The answers that a batch had from its handler, in order. -/
def Doings.answers (d : Doings) : List (Nat × Bool) := d.filterMap fun x => x.2.answer?

namespace Doings

@[simp] theorem answers_append (d k : Doings) : (d ++ k).answers = d.answers ++ k.answers :=
  List.filterMap_append

@[simp] theorem answers_unplaced (effects : List Effect) :
    answers (Engine.unplaced effects) = effects.filterMap Effect.answer? := by
  simp [answers, Engine.unplaced, List.filterMap_map]

@[simp] theorem answers_here (position : Nat) (effects : List Effect) :
    answers (here position effects) = effects.filterMap Effect.answer? := by
  simp [answers, here, List.filterMap_map]

end Doings

theorem Effect.answer?_of_isOwn {x : Effect} (h : x.isOwn = true) : x.answer? = none := by
  cases x <;> first | rfl | cases h

theorem Effect.answer?_of_isDispatching {x : Effect} (h : x.isDispatching = true) :
    x.answer? = none := by
  cases x <;> first | rfl | cases h

/-! ## §2 Judging -/

namespace Batch

variable {b after : Batch} {d k : Doings} {goal : Goal} {o : Outcome} {progress : Progress}

theorem judge_verdict (b : Batch) (o : Outcome) : (b.judge o).2.2 = o.verdict b.handler := by
  unfold judge Outcome.verdict
  cases b.handler <;> rfl

/-- To judge an outcome is to ask the handler once. -/
theorem judge_answers (b : Batch) (o : Outcome) :
    (b.judge o).2.1.filterMap Effect.answer? = Handler.answers b.handler [o] := by
  unfold judge Handler.answers Outcome.isAccepted Outcome.verdict
  cases b.handler with
  | none => rfl
  | some handler =>
    by_cases hcancel : (handler o).cancels = true <;>
      simp [hcancel, List.filterMap_cons, Effect.answer?]

theorem close_answers (b : Batch) (stage : Stage) :
    (b.close stage).2.filterMap Effect.answer? = [] := by
  refine List.filterMap_eq_nil_iff.mpr fun x hx => ?_
  obtain ⟨event, rfl⟩ := close_effects b stage x hx
  rfl

theorem conclude_answers (b : Batch) (r : Reduction) :
    (b.conclude r).2.filterMap Effect.answer? = [] := by
  simp [conclude, close_answers, Effect.answer?]

/-- A goal of which the handler has to say whether it is reached. -/
def asks : Goal → Bool
  | .drain | .first => true
  | .join | .decide _ _ => false

/-- To return is not to ask. -/
theorem finish_answers (hasks : asks goal = true) (b : Batch) (progress : Progress)
    (interrupted : Bool) :
    (b.finish goal progress interrupted).2.filterMap Effect.answer? = [] := by
  cases goal with
  | drain => exact (List.filterMap_cons_none rfl).trans (conclude_answers b _)
  | first => exact conclude_answers b _
  | join | decide _ _ => cases hasks

/-- A reducer that has taken an outcome asks about it.  It goes on with the failure added to the
    others, if it is one, or it was after the first success and returns it. -/
theorem consume_judged (hasks : asks goal = true) (b : Batch) (progress : Progress) (o : Outcome) :
    (b.consume goal progress o).2.filterMap Effect.answer? = Handler.answers b.handler [o] ∧
      (((b.consume goal progress o).1.stage = .reducing goal
          ⟨progress.consumed ++ [o], progress.errors ++ (o.failure? b.handler).toList⟩ ∧
        (goal = .first → o.isAccepted b.handler = false)) ∨
      (goal = .first ∧ o.isAccepted b.handler = true ∧
        (b.consume goal progress o).1.stage = .reduced (.first o))) := by
  have hverdict := judge_verdict b o
  have hanswers := judge_answers b o
  cases goal with
  | join | decide _ _ => cases hasks
  | drain =>
    -- A drain goes on whatever the verdict is.
    refine ⟨hanswers, .inl ⟨?_, by simp⟩⟩
    simp only [consume, Outcome.failure?, ← hverdict]
    cases (b.judge o).2.2 <;> simp
  | first =>
    cases hjudge : (b.judge o).2.2 with
    | error e =>
      rw [hjudge] at hverdict
      simp only [consume, hjudge, Outcome.isAccepted, Outcome.failure?, ← hverdict]
      exact ⟨hanswers, .inl ⟨rfl, fun _ => rfl⟩⟩
    | ok u =>
      rw [hjudge] at hverdict
      simp only [consume, hjudge, Outcome.isAccepted, ← hverdict, List.filterMap_append, hanswers]
      refine ⟨?_, .inr ⟨trivial, rfl, rfl⟩⟩
      rw [List.filterMap_cons_none rfl, conclude_answers, List.append_nil]

/-- How far a reducer has come that asks for verdicts. -/
inductive Course (goal : Goal) (b : Batch) (d : Doings) : Prop where
  | going {progress : Progress} :
      b.stage = .reducing goal progress →
      progress.errors = Handler.failures b.handler progress.consumed →
      (goal = .first → ∀ o ∈ progress.consumed, o.isAccepted b.handler = false) → Course goal b d
  | accepted {taken : List Outcome} {o : Outcome} :
      goal = .first → b.stage = .reduced (.first o) → d.consumed = taken ++ [o] →
      (∀ x ∈ taken, x.isAccepted b.handler = false) → o.isAccepted b.handler = true →
      Course goal b d
  | returned :
      b.stage = .reduced (b.resultOf goal ⟨d.consumed, Handler.failures b.handler d.consumed⟩
        (d.consumed.length < b.size)) →
      (goal = .first → ∀ o ∈ d.consumed, o.isAccepted b.handler = false) → Course goal b d
  | dropped : b.stage = .dropped → Course goal b d

/-- A batch whose reducer asks for verdicts: the handler was asked about what was taken. -/
structure Judging (goal : Goal) (b : Batch) (d : Doings) : Prop where
  asks : asks goal = true
  ledger : b.Ledger d
  answers : d.answers = Handler.answers b.handler d.consumed
  course : Course goal b d

theorem Judging.begun (h : Judging goal b d) : b.stage ≠ .kept := by
  cases h.course with
  | going hstage _ _ | accepted _ hstage _ _ _ | returned hstage _ | dropped hstage => simp [hstage]

/-- A move that takes nothing, asks nothing and leaves the stage as it is. -/
theorem Judging.stay {e : Engine} (h : Judging goal b d) (hmove : b.Move e after k)
    (hstage : after.stage = b.stage) (hconsumed : k.consumed = []) (hanswers : k.answers = []) :
    Judging goal after (d ++ k) := by
  have hkept := hmove.persists
  have hsame : (d ++ k).consumed = d.consumed := by
    rw [Doings.consumed_append, hconsumed, List.append_nil]
  refine ⟨h.asks, h.ledger.move hmove, ?_, ?_⟩
  · rw [Doings.answers_append, hanswers, List.append_nil, hsame, hkept.handler]
    exact h.answers
  -- The course depends on nothing but the stage, the handler, the size and what was taken.
  cases h.course with
  | going hgoing herrors hnone =>
    refine .going (hstage.trans hgoing) ?_ ?_
    · rw [hkept.handler]
      exact herrors
    · rw [hkept.handler]
      exact hnone
  | accepted hgoal hreduced htaken hnone haccept =>
    refine .accepted hgoal (hstage.trans hreduced) (hsame.trans htaken) ?_ ?_
    · rw [hkept.handler]
      exact hnone
    · rw [hkept.handler]
      exact haccept
  | returned hreduced hnone =>
    refine .returned ?_ ?_
    · rw [hstage, hreduced, hsame, hkept.handler, hkept.size, resultOf_congr hkept.size]
    · rw [hsame, hkept.handler]
      exact hnone
  | dropped hdropped => exact .dropped (hstage.trans hdropped)

/-- While a reducer is at work, its goal is the one, and its progress tells what it has taken. -/
theorem Judging.going {goal' : Goal} (h : Judging goal b d)
    (hstage : b.stage = .reducing goal' progress) :
    goal' = goal ∧ progress = ⟨d.consumed, Handler.failures b.handler d.consumed⟩ ∧
      (goal = .first → ∀ o ∈ d.consumed, o.isAccepted b.handler = false) := by
  have hconsumed := (h.ledger.reducing goal' progress hstage).2
  cases h.course with
  | going hgoing herrors hnone =>
    rw [hstage] at hgoing
    cases hgoing
    rw [hconsumed]
    exact ⟨rfl, by rw [← herrors], hnone⟩
  | accepted _ hreduced _ _ _ | returned hreduced _ => rw [hstage] at hreduced; cases hreduced
  | dropped hdropped => rw [hstage] at hdropped; cases hdropped

/-- A reducer that returns without taking anything returns what the verdicts so far come to. -/
theorem Judging.finish {e : Engine} {interrupted : Bool} (h : Judging goal b d)
    (told : List Log.Event) (hstage : b.stage = .reducing goal progress)
    (hinterrupted : interrupted = decide (d.consumed.length < b.size))
    (hmove : b.Move e (b.finish goal progress interrupted).1
      (Engine.unplaced (told.map .logged ++ (b.finish goal progress interrupted).2))) :
    Judging goal (b.finish goal progress interrupted).1
      (d ++ Engine.unplaced (told.map .logged ++ (b.finish goal progress interrupted).2)) := by
  obtain ⟨-, hprogress, hnone⟩ := h.going hstage
  have hkept := hmove.persists
  -- Neither what is told nor the return takes anything from the channel.
  have hsame : (d ++ Engine.unplaced (told.map .logged ++
      (b.finish goal progress interrupted).2)).consumed = d.consumed := by
    have hconcluding : ∀ x ∈ told.map Effect.logged ++ (b.finish goal progress interrupted).2,
        x.isConcluding = true := by
      intro x hx
      rcases List.mem_append.mp hx with hx | hx
      · obtain ⟨event, _, rfl⟩ := List.mem_map.mp hx
        rfl
      · exact finish_concluding b goal progress interrupted x hx
    rw [Doings.consumed_append,
      Doings.consumed_of_concluding (Doings.unplaced_concluding hconcluding), List.append_nil]
  refine ⟨h.asks, h.ledger.move hmove, ?_, .returned ?_ ?_⟩
  · have htold : (told.map Effect.logged).filterMap Effect.answer? = [] := by
      refine List.filterMap_eq_nil_iff.mpr fun x hx => ?_
      obtain ⟨event, _, rfl⟩ := List.mem_map.mp hx
      rfl
    rw [hsame, Doings.answers_append, Doings.answers_unplaced, List.filterMap_append, htold,
      finish_answers h.asks, hkept.handler, h.answers]
    simp
  · rw [hsame, hkept.handler, hkept.size, resultOf_congr hkept.size, finish_eq_close, close_stage,
      hprogress, hinterrupted]
  · rw [hsame, hkept.handler]
    exact hnone

/-- A turn of the reducer. -/
theorem Judging.turn {e : Engine} {effects : List Effect} (h : Judging goal b d)
    (hturn : b.Turn e.toClock e.tokens after effects)
    (hmove : b.Move e after (Engine.unplaced effects)) :
    Judging goal after (d ++ Engine.unplaced effects) := by
  have hkept := hmove.persists
  cases hturn with
  | idle => exact h.stay hmove rfl rfl rfl
  | @complete goal' progress hstage hall =>
    obtain ⟨rfl, hprogress, -⟩ := h.going hstage
    refine h.finish [] hstage ?_ hmove
    rw [hprogress] at hall
    exact (decide_eq_false (Nat.not_lt.mpr hall)).symm
  | @cutShort goal' progress hstage hleft _ =>
    obtain ⟨rfl, hprogress, -⟩ := h.going hstage
    refine h.finish _ hstage ?_ hmove
    rw [hprogress] at hleft
    exact (decide_eq_true hleft).symm
  | @take goal' progress o rest hstage _ _ _ =>
    obtain ⟨rfl, hprogress, hnone⟩ := h.going hstage
    obtain ⟨hanswers, hafter⟩ := consume_judged h.asks { b with channel := rest } progress o
    have hquiet := Doings.consumed_of_concluding (Doings.unplaced_concluding
      (consume_concluding { b with channel := rest } goal' progress o))
    have htaken : (d ++ Engine.unplaced (.consumed o ::
        ({ b with channel := rest }.consume goal' progress o).2)).consumed = d.consumed ++ [o] := by
      rw [Engine.unplaced_cons, Doings.consumed_append, Doings.consumed_cons, hquiet]
      rfl
    -- What is taken and what is asked grow by the same outcome.
    refine ⟨h.asks, h.ledger.move hmove, ?_, ?_⟩
    · rw [htaken, Doings.answers_append, Doings.answers_unplaced, List.filterMap_cons_none rfl,
        hanswers, h.answers, hkept.handler, Handler.answers_append]
    rcases hafter with ⟨hgoing, hdeclined⟩ | ⟨hgoal, haccept, hreduced⟩
    · refine .going hgoing ?_ fun hgoal x hx => ?_
      · rw [hkept.handler, hprogress, Handler.failures_concat]
      · rw [hkept.handler]
        rw [hprogress] at hx
        rcases List.mem_append.mp hx with hx | hx
        · exact hnone hgoal x hx
        · obtain rfl := List.mem_singleton.mp hx
          exact hdeclined hgoal
    · refine .accepted hgoal hreduced htaken ?_ ?_
      · rw [hkept.handler]
        exact hnone hgoal
      · rw [hkept.handler]
        exact haccept

/-- A move that is no turn of the reducer takes nothing and asks nothing; the reduction begins, or
    it is given up, or it stays as it is. -/
theorem Move.beside {e : Engine} (hmove : b.Move e after k) :
    (∃ effects, k = Engine.unplaced effects ∧ b.Turn e.toClock e.tokens after effects) ∨
      (k.consumed = [] ∧ k.answers = [] ∧
        (after.stage = b.stage ∨ after.stage = .dropped ∨
          (b.stage = .kept ∧ ∃ goal, after.stage = .reducing goal Progress.start))) := by
  cases hmove with
  | rest => exact .inr ⟨rfl, rfl, .inl rfl⟩
  | signal position s =>
    refine .inr ⟨?_, ?_, .inl (signal_stage b e position s)⟩
    · rw [Doings.consumed_here]
      refine List.filterMap_eq_nil_iff.mpr fun x hx => ?_
      rcases signal_effects hx with hown | ⟨o, posting, rfl⟩
      · exact Effect.consumed?_of_isOwn hown
      · rfl
    · rw [Doings.answers_here]
      refine List.filterMap_eq_nil_iff.mpr fun x hx => ?_
      rcases signal_effects hx with hown | ⟨o, posting, rfl⟩
      · exact Effect.answer?_of_isOwn hown
      · rfl
  | cancel => exact .inr ⟨rfl, rfl, .inl (release_stage b)⟩
  | begin goal =>
    refine .inr ⟨rfl, rfl, ?_⟩
    unfold Batch.begin
    split
    · exact .inr (.inr ⟨‹_›, goal, rfl⟩)
    · exact .inl rfl
  | poll hturn => exact .inl ⟨_, rfl, hturn⟩
  | drop =>
    refine .inr ⟨Doings.consumed_of_concluding (Doings.unplaced_concluding (drop_concluding b)),
      ?_, ?_⟩
    · rw [Doings.answers_unplaced]
      refine List.filterMap_eq_nil_iff.mpr fun x hx => ?_
      obtain ⟨event, rfl⟩ := drop_effects b x hx
      rfl
    · unfold Batch.drop
      split <;> simp [*]

/-- Every move leaves the batch of a reducer that asks for verdicts what it is. -/
theorem Judging.move {e : Engine} (h : Judging goal b d) (hmove : b.Move e after k) :
    Judging goal after (d ++ k) := by
  rcases hmove.beside with ⟨effects, rfl, hturn⟩ |
    ⟨hconsumed, hanswers, hstage | hdropped | ⟨hkept, -⟩⟩
  · exact h.turn hturn hmove
  · exact h.stay hmove hstage hconsumed hanswers
  · refine ⟨h.asks, h.ledger.move hmove, ?_, .dropped hdropped⟩
    rw [Doings.answers_append, Doings.consumed_append, hanswers, hconsumed, List.append_nil,
      List.append_nil, hmove.persists.handler]
    exact h.answers
  · exact absurd hkept h.begun

/-- Nothing is put to the handler before the reduction begins. -/
def Unasked (b : Batch) (d : Doings) : Prop := b.stage = .kept → d.answers = []

theorem Unasked.move {e : Engine} (h : Unasked b d) (hmove : b.Move e after k) :
    Unasked after (d ++ k) := by
  intro hafter
  -- A batch that is kept afterwards was kept before, and its reducer did nothing.
  have hquiet : b.stage = .kept ∧ k.answers = [] := by
    rcases hmove.beside with ⟨effects, rfl, hturn⟩ |
      ⟨-, hanswers, hstage | hdropped | ⟨-, goal, hbegun⟩⟩
    · cases hturn with
      | idle => exact ⟨hafter, rfl⟩
      | complete _ _ | cutShort _ _ _ =>
        rw [finish_eq_close, close_stage] at hafter
        cases hafter
      | @take goal progress o rest _ _ _ _ =>
        rcases consume_taken { b with channel := rest } goal progress o with
          ⟨_, hgoing, _⟩ | ⟨_, _, hreduced, _, _⟩
        · rw [hgoing] at hafter
          cases hafter
        · rw [hreduced] at hafter
          cases hafter
    · exact ⟨hstage.symm.trans hafter, hanswers⟩
    · rw [hdropped] at hafter
      cases hafter
    · rw [hbegun] at hafter
      cases hafter
  rw [Doings.answers_append, h hquiet.1, hquiet.2, List.append_nil]

end Batch

/-! ## §3 Reducers in runs -/

namespace Engine

variable {client : Client} {now : Instant}

/-- A batch that nobody reduces has asked nothing, in every run. -/
theorem run_unasked (events : List Event) {number : Nat} {b : Batch}
    (hb : ((start client now).run events).1.batches[number]? = some b) :
    b.Unasked (((start client now).run events).2.of number) :=
  run_invariant (fun _ _ _ _ _ hbirth _ =>
      let ⟨_, hnew⟩ := hbirth.newborn
      List.filterMap_eq_nil_iff.mpr fun x hx =>
        Effect.answer?_of_isDispatching (hnew.dispatching x hx))
    (fun _ _ _ _ _ h hmove => h.move hmove) events hb

/-- What holds of a batch at some time and is kept by every move holds of it from then on. -/
theorem run_onwards {P : Batch → Doings → Prop} {events : List Event} {number : Nat} {b : Batch}
    (hb : ((start client now).run events).1.batches[number]? = some b)
    (hP : P b (((start client now).run events).2.of number))
    (moved : ∀ e b d after k, P b d → b.Move e after k → P after (d ++ k)) (later : List Event) :
    ∃ after, ((start client now).run (events ++ later)).1.batches[number]? = some after ∧
      P after (((start client now).run (events ++ later)).2.of number) := by
  induction later using List.reverseRecOn with
  | nil => exact ⟨b, by rwa [List.append_nil], by rwa [List.append_nil]⟩
  | append_singleton later event ih =>
    obtain ⟨after, hafter, hP⟩ := ih
    obtain ⟨hnext, hdoings⟩ := step_share hafter event
    rw [← List.append_assoc, run_concat, History.of_append, hdoings]
    exact ⟨_, hnext, moved _ _ _ _ _ hP (after.react_move _ _ event)⟩

end Engine

open Engine

/-- A reducer at work in a run: what happens before it begins, its batch and its goal, and what
    happens after. -/
structure Reducer where
  client : Client
  now : Instant
  before : List Event
  number : Nat
  goal : Goal
  after : List Event

namespace Reducer

def events (r : Reducer) : List Event := r.before ++ .reduce r.number r.goal :: r.after

def run (r : Reducer) : Engine × History := (start r.client r.now).run r.events

/-- What the batch does, from the beginning of the run. -/
def doings (r : Reducer) : Doings := r.run.2.of r.number

/-- The reducer with more that happens at the end. -/
def more (r : Reducer) (events : List Event) : Reducer := { r with after := r.after ++ events }

/-- The reducer begins with a batch that nobody has reduced or dropped. -/
structure Begins (r : Reducer) (b : Batch) : Prop where
  there : ((start r.client r.now).run r.before).1.batches[r.number]? = some b
  kept : b.stage = .kept

/-- The reducer has returned a result. -/
def Returns (r : Reducer) (result : Reduction) : Prop :=
  ∃ b, r.run.1.batches[r.number]? = some b ∧ b.stage = .reduced result

/-- The reducer of a batch found it interrupted when outcomes were still missing. -/
def IsCutShort (r : Reducer) (b : Batch) : Prop :=
  r.doings.consumed.length < b.size ∧
    (start r.client r.now).FoundInterrupted r.events r.number r.doings.consumed

variable {r : Reducer} {b : Batch} {result : Reduction}

theorem exists_begins {size : Nat}
    (h : ((start r.client r.now).run r.before).1.batches[r.number]?.any
      (fun b => b.isKept && b.size == size) = true) : ∃ b, r.Begins b ∧ b.size = size := by
  obtain ⟨b, hb, h⟩ := (Option.any_eq_true _ _).mp h
  obtain ⟨hkept, hsize⟩ := Bool.and_eq_true_iff.mp h
  exact ⟨b, ⟨hb, Batch.isKept_iff.mp hkept⟩, beq_iff_eq.mp hsize⟩

theorem exists_returns (h : (r.run.1.batches[r.number]?.bind Batch.reduction?).isSome = true) :
    ∃ result, r.Returns result := by
  obtain ⟨result, hresult⟩ := Option.isSome_iff_exists.mp h
  obtain ⟨b, hb, hreduction⟩ := Option.bind_eq_some_iff.mp hresult
  exact ⟨result, b, hb, Batch.reduction?_eq_some.mp hreduction⟩

theorem run_more (r : Reducer) (events : List Event) :
    (r.more events).run.1 = (r.run.1.run events).1 := by
  have hevents : (r.more events).events = r.events ++ events := by
    simp [Reducer.events, more]
  rw [Reducer.run, hevents, run_append]
  rfl

/-- The batch of a reducer that asks for verdicts is of its kind, and it stays what it was. -/
theorem judging (hbegins : r.Begins b) (hasks : Batch.asks r.goal = true) :
    ∃ later, r.run.1.batches[r.number]? = some later ∧ b.Persists later ∧
      later.Judging r.goal r.doings := by
  have hbegun := (step_share hbegins.there (.reduce r.number r.goal)).1
  have hdoings := (step_share hbegins.there (.reduce r.number r.goal)).2
  have hledger := run_ledger r.before hbegins.there
  have hstage : (b.begin r.goal).stage = .reducing r.goal Progress.start := by
    simp [Batch.begin, hbegins.kept]
  simp only [Batch.react, if_true] at hbegun hdoings
  -- When it begins it has taken nothing, and nothing was asked.
  have hfirst : (b.begin r.goal).Judging r.goal
      (((start r.client r.now).run (r.before ++ [.reduce r.number r.goal])).2.of r.number) := by
    rw [run_concat, History.of_append, hdoings, List.append_nil]
    refine ⟨hasks, hledger.begin r.goal, ?_, .going hstage rfl (by simp [Progress.start])⟩
    rw [(hledger.kept hbegins.kept).2, run_unasked r.before hbegins.there hbegins.kept]
    cases (b.begin r.goal).handler <;> rfl
  have hthere : ((start r.client r.now).run
      (r.before ++ [.reduce r.number r.goal])).1.batches[r.number]? = some (b.begin r.goal) := by
    rw [run_concat]
    exact hbegun
  obtain ⟨later, hlater, hkept, hjudging⟩ := run_onwards
    (P := fun later d => b.Persists later ∧ later.Judging r.goal d) hthere
    ⟨(Batch.begin_keeps b r.goal).persists, hfirst⟩
    (fun _ _ _ _ _ h hmove => ⟨h.1.trans hmove.persists, h.2.move hmove⟩) r.after
  rw [← List.append_cons] at hlater hjudging
  exact ⟨later, hlater, hkept, hjudging⟩

/-- A reducer that has nothing to wait for comes to its end by its own turns, and every reducer does
    so when it has waited for the timer for the deadline. -/
theorem returns_more {later : Batch} {progress : Progress}
    (hlater : r.run.1.batches[r.number]? = some later)
    (hstage : later.stage = .reducing r.goal progress) :
    (later.hasLive = false ∨ later.isAlarmed r.run.1.toClock r.run.1.tokens = true →
      ∃ turns result, (r.more (List.replicate turns (.poll r.number))).Returns result) ∧
      ∃ wait turns result, (r.more
        (.advance wait :: .tick :: List.replicate turns (.poll r.number))).Returns result := by
  constructor
  · intro hready
    obtain ⟨turns, last, result, hlast, hreduced⟩ := run_returns hlater hstage hready
    exact ⟨turns, result, last, by rw [run_more]; exact hlast, hreduced⟩
  · obtain ⟨wait, turns, last, result, hlast, hreduced⟩ := run_returns_after_wait hlater hstage
    exact ⟨wait, turns, result, last, by rw [run_more]; exact hlast, hreduced⟩

/-- A reducer that has taken everything has taken an outcome of every target. -/
theorem taken_of_complete {later : Batch} (hlater : r.run.1.batches[r.number]? = some later)
    (hall : later.size ≤ r.doings.consumed.length) {i : Nat} (hi : i < later.workers.length) :
    ∃ o ∈ r.doings.consumed, r.doings.postedAt i = [o] ∧ o.target = later.workers[i].target := by
  have hledger : later.Ledger r.doings := run_ledger r.events hlater
  have hposted : r.doings.consumed = r.doings.posted :=
    hledger.taken.eq_of_length_le (Nat.le_trans hledger.posted_le hall)
  -- Nobody is live any more, so that every worker has posted what it owes.
  have hover := hledger.hasLive_eq_false (hposted ▸ hall)
  have hended : later.workers[i].isLive = false := by
    simpa using List.any_eq_false.mp hover _ (List.getElem_mem hi)
  obtain ⟨o, hone, htarget, -⟩ :=
    (run_posts r.events hlater (List.getElem?_eq_getElem hi)).paid hended
  refine ⟨o, ?_, hone, htarget⟩
  have hmem : o ∈ r.doings.postedAt i := by
    rw [show r.doings.postedAt i = [o] from hone]
    exact List.mem_singleton_self o
  rw [hposted]
  exact Doings.mem_posted_of_postedAt hmem

/-- A reducer that has returned no first success has taken everything, or it was cut short. -/
theorem isCutShort_iff (hbegins : r.Begins b) (hreturns : r.Returns result)
    (hfirst : ∀ o, result ≠ .first o) :
    r.IsCutShort b ↔ r.doings.consumed.length < b.size := by
  refine ⟨fun h => h.1, fun hless => ⟨hless, ?_⟩⟩
  obtain ⟨later, hlater, hstage⟩ := hreturns
  obtain ⟨after, hafter, hkept⟩ := run_persists (.reduce r.number r.goal :: r.after) hbegins.there
  have hrun : r.run.1 =
      (((start r.client r.now).run r.before).1.run (.reduce r.number r.goal :: r.after)).1 := by
    rw [Reducer.run, Reducer.events, run_append]
  rw [← hrun, hlater] at hafter
  obtain rfl := Option.some.inj hafter
  obtain ⟨-, -, hreturned, -⟩ := run_consumes r.client r.now r.events hlater
  cases hreturned result hstage with
  | complete hall =>
    rw [hkept.size] at hall
    exact absurd hless (Nat.not_lt.mpr (Nat.le_of_eq hall.symm))
  | accepted hresult _ _ => exact absurd hresult (hfirst _)
  | interrupted hfound => exact hfound

/-- A reducer whose batch is not interrupted while it is at work is not cut short. -/
theorem not_isCutShort
    (hcalm : (start r.client r.now).abides (spares r.number r.run.1.now) r.events = true)
    (b : Batch) : ¬ r.IsCutShort b := by
  rintro ⟨-, early, late, later, goal, progress, hevents, hlater, hstage, -, hstop⟩
  have hrun : r.run.1 = (((start r.client r.now).run early).1.run (.poll r.number :: late)).1 := by
    rw [Reducer.run, hevents, run_append]
  have htime : ((start r.client r.now).run early).1.now ≤ r.run.1.now := by
    rw [hrun]
    exact run_time _ _
  rw [hevents, abides_append, Bool.and_eq_true] at hcalm
  have hturn := (Bool.and_eq_true_iff.mp hcalm.2).1
  simp only [spares, hlater, Option.all_some, Batch.isUnreduced, hstage, hstop, Bool.and_self,
    Bool.not_true, Bool.false_or, decide_eq_true_eq] at hturn
  exact absurd htime (Nat.not_le.mpr hturn)

/-! ## §4 Draining -/

/-- What a drain has returned comes from the verdicts alone. -/
theorem drain_result (hbegins : r.Begins b) (hgoal : r.goal = .drain)
    (hreturns : r.Returns result) :
    result = b.resultOf .drain
      ⟨r.doings.consumed, Handler.failures b.handler r.doings.consumed⟩
      (r.doings.consumed.length < b.size) := by
  obtain ⟨later, hlater, hkept, hjudging⟩ := judging hbegins (by rw [hgoal]; rfl)
  obtain ⟨last, hlast, hstage⟩ := hreturns
  obtain rfl := Option.some.inj (hlater.symm.trans hlast)
  have hsize := Batch.resultOf_congr hkept.size
  cases hjudging.course with
  | going hgoing _ _ => rw [hstage] at hgoing; cases hgoing
  | accepted hfirst _ _ _ _ => rw [hgoal] at hfirst; cases hfirst
  | returned hreduced _ =>
    rw [hstage, hsize, hkept.size, hkept.handler, hgoal] at hreduced
    exact Stage.reduced.inj hreduced
  | dropped hdropped => rw [hstage] at hdropped; cases hdropped

/-- **A drain reports exactly the failures.**  The handler is asked about each outcome that is
    taken, once and in order.  What a drain returns is a failure exactly when some outcome that was
    taken is not accepted; it then holds the failures in the order in which their outcomes were
    taken, the number of targets, and whether fewer outcomes than that were taken, as happens
    exactly when the batch was found interrupted with outcomes missing.  When it passes without
    that, every target has posted an outcome that is accepted.  A drain that has nothing to wait for
    comes to its end by its own turns, and every drain does so when it has waited for the timer for
    the deadline. -/
theorem drain_tells (r : Reducer) {b : Batch} (hbegins : r.Begins b) (hgoal : r.goal = .drain) :
    r.doings.answers = Handler.answers b.handler r.doings.consumed ∧
      (∀ result, r.Returns result →
        (result = .passed ∨ ∃ e, result = .failed e) ∧
        ((∃ e, result = .failed e) ↔
          ∃ o ∈ r.doings.consumed, o.isAccepted b.handler = false) ∧
        (∀ e, result = .failed e →
          e.errors = Handler.failures b.handler r.doings.consumed ∧
          e.dispatched = b.size ∧
          (e.interrupted = true ↔ r.doings.consumed.length < b.size)) ∧
        (r.doings.consumed.length < b.size ↔ r.IsCutShort b) ∧
        (result = .passed → ¬ r.IsCutShort b → ∀ i (hi : i < b.workers.length),
          ∃ o, r.doings.postedAt i = [o] ∧ o.target = b.workers[i].target ∧
            o.isAccepted b.handler = true)) ∧
      ∀ later progress, r.run.1.batches[r.number]? = some later →
        later.stage = .reducing r.goal progress →
        (later.hasLive = false ∨ later.isAlarmed r.run.1.toClock r.run.1.tokens = true →
          ∃ turns result, (r.more (List.replicate turns (.poll r.number))).Returns result) ∧
        ∃ wait turns result, (r.more
          (.advance wait :: .tick :: List.replicate turns (.poll r.number))).Returns result := by
  obtain ⟨later, hlater, hkept, hjudging⟩ := judging hbegins (by rw [hgoal]; rfl)
  refine ⟨hkept.handler ▸ hjudging.answers, fun result hreturns => ?_,
    fun _ _ hthere hstage => returns_more hthere hstage⟩
  have hresult := drain_result hbegins hgoal hreturns
  -- The result passes exactly when the list of failures is empty.
  have hnone : Handler.failures b.handler r.doings.consumed ≠ [] ↔
      ∃ o ∈ r.doings.consumed, o.isAccepted b.handler = false :=
    Handler.failures_ne_nil
  simp only [Batch.resultOf, Batch.concludeErrors] at hresult
  have hcut : r.IsCutShort b ↔ r.doings.consumed.length < b.size :=
    isCutShort_iff hbegins hreturns fun o ho => by
      rw [ho] at hresult
      split at hresult <;> cases hresult
  by_cases hempty : Handler.failures b.handler r.doings.consumed = []
  · simp only [hempty, List.isEmpty_nil, if_true] at hresult
    have haccepted : ∀ o ∈ r.doings.consumed, o.isAccepted b.handler = true := fun o ho =>
      Bool.eq_true_of_not_eq_false fun hfalse => hnone.mpr ⟨o, ho, hfalse⟩ hempty
    subst hresult
    refine ⟨.inl rfl, ⟨by simp, fun hsome => absurd hempty (hnone.mpr hsome)⟩, by simp,
      hcut.symm, fun _ hwhole i hi => ?_⟩
    -- All outcomes were taken, and none of them is a failure.
    have hall : later.size ≤ r.doings.consumed.length := by
      rw [hkept.size]
      exact Nat.not_lt.mp fun hless => hwhole (hcut.mpr hless)
    have hlength : later.workers.length = b.workers.length := hkept.size
    obtain ⟨o, ho, hposted, htarget⟩ := taken_of_complete hlater hall (hlength ▸ hi)
    refine ⟨o, hposted, htarget.trans ?_, haccepted o ho⟩
    have htargets := congrArg (fun list => list[i]?) hkept.targets
    simpa [hi, hlength ▸ hi] using htargets
  · rw [if_neg (by simpa using hempty)] at hresult
    subst hresult
    refine ⟨.inr ⟨_, rfl⟩, ⟨fun _ => hnone.mp hempty, fun _ => ⟨_, rfl⟩⟩, fun e he => ?_,
      hcut.symm, by simp⟩
    obtain rfl := Reduction.failed.inj he
    exact ⟨rfl, rfl, by simp⟩

/-- A handler that accepts successes, and cancels the batch on the outcome of the last of two
    targets. -/
def lastCancels : Handler := Handler.successStatus.cancellingOn fun o => o.target.index == 1

/-- Two targets, of which the first has a panic and the second answers.  The handler cancels the
    batch on the last outcome that there is. -/
def drained : Reducer where
  client := (ClientBuilder.ofConfig .standard).build
  now := ⟨0⟩
  before := [.dispatch { Operation.new .get "x" with handler := some lastCancels }
    [⟨0, "http://a"⟩, ⟨1, "http://b"⟩]]
  number := 0
  goal := .drain
  after := [.signal 0 0 .turn, .signal 0 1 .turn, .signal 0 0 .turn, .signal 0 1 .turn,
    .signal 0 0 .panic, .poll 0,
    .signal 0 1 (.answer (.response ⟨Status.ok, .http11, Header.Map.empty⟩)), .signal 0 1 .bodyEnd,
    .poll 0, .poll 0]

/-- A drain whose batch is cancelled on the last outcome reports the failure, and no
    interruption. -/
theorem drain_tells_cancelled :
    ∃ b e, drained.Begins b ∧ drained.goal = .drain ∧ drained.Returns (.failed e) ∧
      drained.doings.consumed.map (·.target.index) = [0, 1] ∧
      drained.doings.answers = [(0, false), (1, true)] ∧
      Handler.answers b.handler drained.doings.consumed = [(0, false), (1, true)] ∧
      e.errors = Handler.failures b.handler drained.doings.consumed ∧ e.dispatched = 2 ∧
      e.interrupted = false ∧ ¬ drained.IsCutShort b := by
  obtain ⟨b, hbegins, hsize⟩ : ∃ b, drained.Begins b ∧ b.size = 2 :=
    exists_begins (by decide +kernel)
  obtain ⟨hanswers, htells, -⟩ := drain_tells drained hbegins rfl
  have hasked : drained.doings.answers = [(0, false), (1, true)] := by decide +kernel
  have htaken : drained.doings.consumed.map (·.target.index) = [0, 1] := by decide +kernel
  have hall : drained.doings.consumed.length = 2 := by simpa using congrArg List.length htaken
  obtain ⟨result, hreturns⟩ : ∃ result, drained.Returns result :=
    exists_returns (by decide +kernel)
  obtain ⟨-, hfailed, herrors, hcut, -⟩ := htells result hreturns
  -- The first answer was no, so that an outcome was taken that is not accepted.
  have hdeclined : (0, false) ∈ Handler.answers b.handler drained.doings.consumed := by
    rw [← hanswers, hasked]
    exact List.mem_cons_self
  obtain ⟨e, rfl⟩ := hfailed.mpr (Handler.mem_of_mem_answers hdeclined)
  obtain ⟨hlist, hdispatched, hinterrupted⟩ := herrors e rfl
  have hwhole : ¬ drained.doings.consumed.length < b.size := by omega
  exact ⟨b, e, hbegins, rfl, hreturns, htaken, hasked, hanswers ▸ hasked, hlist,
    hdispatched.trans hsize, Bool.eq_false_iff.mpr fun h => hwhole (hinterrupted.mp h),
    fun h => hwhole (hcut.mpr h)⟩

end Reducer

end Replicast
