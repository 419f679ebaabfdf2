import Mathlib.Data.List.Basic
import Replicast.Proofs.Consumption
import Replicast.Proofs.Interruption
/-!
# Outcomes that come in time

A reducer that has its turn before time passes has taken what was posted.  When it began before the
batch was cancelled and before the timer for the deadline fired, no outcome is lost that was posted
before the instant of that; a reducer that begins later looks for the cancellation and the timer first
and takes nothing.

## Overview

* `Batch.isIdle` says that a reducer has nothing to do, and `Engine.yields` that time passes only
  then.
* `History.postedBy` are the outcomes that were posted up to an instant, and `Engine.spares` says
  that nobody who waits in a batch is woken up to an instant, unless its reduction is over.
* `Batch.KeepsUp` is the invariant of a reducer, with one constructor for each of its ends, and
  `Engine.run_keeps_up` says that it holds in every run.
* `Engine.run_gathers` is the result.
-/

namespace Replicast

/-! ## §1 Reducers that have nothing to do -/

namespace Batch

variable {b after : Batch} {c : Clock} {tokens : List String} {goal : Goal}
  {progress : Progress}

/-- Whether the reducer of a batch has nothing to do: there is none, or it is after outcomes of
    which none is there yet. -/
def isIdle (b : Batch) (c : Clock) (tokens : List String) : Bool :=
  match b.stage with
  | .reducing _ progress => progress.consumed.length < b.size && b.next c tokens == .pending
  | _ => true

/-- Whether a batch was neither reduced nor dropped so far. -/
def isKept (b : Batch) : Bool :=
  match b.stage with
  | .kept => true
  | _ => false

/-- What the reducer of a batch has returned. -/
def reduction? (b : Batch) : Option Reduction :=
  match b.stage with
  | .reduced r => some r
  | .kept | .reducing _ _ | .dropped => none

theorem isKept_iff : b.isKept = true ↔ b.stage = .kept := by
  unfold isKept
  cases b.stage <;> simp

theorem reduction?_eq_some {r : Reduction} : b.reduction? = some r ↔ b.stage = .reduced r := by
  unfold reduction?
  cases b.stage <;> simp

/-- Whether a reducer may still take something. -/
def isUnreduced (b : Batch) : Bool :=
  match b.stage with
  | .kept | .reducing _ _ => true
  | _ => false

/-- A reducer that waits has taken everything, and nothing wakes it. -/
theorem empty_of_isIdle (hstage : b.stage = .reducing goal progress)
    (hidle : b.isIdle c tokens = true) :
    b.channel.queue = [] ∧ b.isAlarmed c tokens = false := by
  simp only [isIdle, hstage, Bool.and_eq_true, beq_iff_eq] at hidle
  rcases next_cases b c tokens with
    ⟨hnext | hnext, _⟩ | ⟨hcalm, ⟨_, _, hnext, _⟩ | ⟨_, hqueue, _⟩ | ⟨hnext, _⟩⟩
  case inr.inr.inl => exact ⟨hqueue, hcalm⟩
  all_goals rw [hnext] at hidle; exact absurd hidle.2 (by simp)

/-- A reducer that is after the first success goes on only when the outcome is none. -/
theorem declined_of_consume {o : Outcome} {next : Progress}
    (hafter : (b.consume .first progress o).1.stage = .reducing goal next) :
    b.accepts o = false := by
  unfold accepts
  cases hverdict : (b.judge o).2.2 with
  | error e => rfl
  | ok u => simp [consume, conclude, hverdict] at hafter

end Batch

namespace Engine

/-- Time passes only when the reducer of a batch has nothing to do. -/
def yields (number : Nat) (e : Engine) : Event → Bool
  | .advance _ => e.batches[number]?.all fun b => b.isIdle e.toClock e.tokens
  | _ => true

/-- Nobody who waits in a batch is woken up to an instant, unless its reduction is over. -/
def spares (number : Nat) (time : Instant) (e : Engine) (_ : Event) : Bool :=
  e.batches[number]?.all fun b =>
    !(b.isUnreduced && b.isAlarmed e.toClock e.tokens) || time < e.now

end Engine

/-! ## §2 Outcomes posted up to an instant -/

/-- The outcomes that a batch posted no later than at an instant, in order. -/
def History.postedBy (h : History) (batch : Nat) (time : Instant) : List Outcome :=
  h.filterMap fun r => if r.batch = batch ∧ r.time ≤ time then r.effect.posted? else none

@[simp] theorem History.postedBy_append (h k : History) (batch : Nat) (time : Instant) :
    (h ++ k).postedBy batch time = h.postedBy batch time ++ k.postedBy batch time :=
  List.filterMap_append

/-- What is recorded at one instant was posted by then, or nothing of it was. -/
theorem History.postedBy_of_times {h : History} {time : Instant} (htime : ∀ r ∈ h, r.time = time)
    (batch : Nat) (due : Instant) :
    h.postedBy batch due = if time ≤ due then (h.of batch).posted else [] := by
  unfold postedBy of Doings.posted
  rw [List.filterMap_filterMap]
  split
  · rename_i hle
    refine List.filterMap_congr fun r hr => ?_
    by_cases hbatch : r.batch = batch <;> simp [hbatch, htime r hr, hle]
  · rename_i hlt
    refine List.filterMap_eq_nil_iff.mpr fun r hr => ?_
    simp [htime r hr, hlt]

namespace Engine

variable {client : Client} {now : Instant}

/-- What was posted up to an instant was posted first, and up to the present it is everything. -/
theorem run_postedBy (client : Client) (now : Instant) (number : Nat) (time : Instant)
    (events : List Event) :
    ((start client now).run events).2.postedBy number time <+:
        (((start client now).run events).2.of number).posted ∧
      (((start client now).run events).1.now ≤ time →
        ((start client now).run events).2.postedBy number time =
          (((start client now).run events).2.of number).posted) := by
  induction events using List.reverseRecOn with
  | nil => exact ⟨List.prefix_refl _, fun _ => rfl⟩
  | append_singleton events event ih =>
    obtain ⟨hinitial, hall⟩ := ih
    have hclock := (((start client now).run events).1.step_time event).1
    have htimes := History.postedBy_of_times
      (((start client now).run events).1.step_times event) number time
    rw [run_concat, History.postedBy_append, History.of_append, Doings.posted_append, htimes]
    -- Posts at the present instant are among the earlier ones, or they come too late.
    by_cases hnow : ((start client now).run events).1.now ≤ time
    · rw [if_pos hnow, hall hnow]
      exact ⟨List.prefix_refl _, fun _ => rfl⟩
    · rw [if_neg hnow, List.append_nil]
      exact ⟨hinitial.trans (List.prefix_append _ _),
        fun hlater => absurd (Nat.le_trans hclock hlater) hnow⟩

/-- What was posted up to an instant was posted first among what was posted up to a later one. -/
theorem run_postedBy_mono (number : Nat) {time later : Instant} (hle : time ≤ later)
    (events : List Event) :
    ((start client now).run events).2.postedBy number time <+:
      ((start client now).run events).2.postedBy number later := by
  induction events using List.reverseRecOn with
  | nil => exact List.prefix_refl _
  | append_singleton events event ih =>
    have hsooner := (run_postedBy client now number time events).2
    have hlater := (run_postedBy client now number later events).2
    have htimes := ((start client now).run events).1.step_times event
    rw [run_concat, History.postedBy_append, History.postedBy_append,
      History.postedBy_of_times htimes, History.postedBy_of_times htimes]
    by_cases hnow : ((start client now).run events).1.now ≤ time
    · have hnow' : ((start client now).run events).1.now ≤ later := Nat.le_trans hnow hle
      simp only [if_pos hnow, if_pos hnow', hsooner hnow, hlater hnow', List.prefix_refl]
    · rw [if_neg hnow, List.append_nil]
      exact ih.trans (List.prefix_append _ _)

end Engine

/-! ## §3 Reducers that keep up -/

namespace Batch

variable {b after : Batch} {d k : Doings} {due : List Outcome} {goal : Goal} {passed : Prop}

/-- Whether a reducer with this goal goes on after some outcomes. -/
def goesOn (b : Batch) (goal : Goal) (consumed : List Outcome) : Prop :=
  goal = .first → ∀ o ∈ consumed, b.accepts o = false

theorem resultOf_congr (h : after.size = b.size) (goal : Goal) (progress : Progress)
    (interrupted : Bool) :
    after.resultOf goal progress interrupted = b.resultOf goal progress interrupted := by
  cases goal <;> simp [resultOf, concludeErrors, h]

/-- How a reducer with a goal stands to the outcomes that were due at an instant, once it has
    passed. -/
inductive KeepsUp (goal : Goal) (b : Batch) (d : Doings) (due : List Outcome) (passed : Prop) :
    Prop where
  | reducing {progress : Progress} :
      b.stage = .reducing goal progress → b.goesOn goal progress.consumed →
      (passed → due <+: progress.consumed) → KeepsUp goal b d due passed
  | accepted {o : Outcome} :
      goal = .first → b.stage = .reduced (.first o) → b.accepts o = true →
      KeepsUp goal b d due passed
  /-- It returned after the instant, or it has got everything. -/
  | finished (progress : Progress) (interrupted : Bool) :
      b.stage = .reduced (b.resultOf goal progress interrupted) →
      b.goesOn goal progress.consumed → due <+: progress.consumed →
      passed ∨ d.posted.length = b.size → KeepsUp goal b d due passed
  | dropped : b.stage = .dropped → KeepsUp goal b d due passed

/-- No more is posted than there are targets. -/
theorem Ledger.posted_le (h : Ledger b d) : d.posted.length ≤ b.size := by
  have howed := h.owed
  omega

/-- A move that leaves the stage as it is: what it posts comes after the instant, if it has
    passed. -/
theorem KeepsUp.stay {fresh : List Outcome} (h : KeepsUp goal b d due passed)
    (hkept : b.Persists after) (hstage : after.stage = b.stage) (hledger : after.Ledger (d ++ k))
    (hlate : passed → fresh = []) (hnone : k.posted = [] → fresh = []) :
    KeepsUp goal after (d ++ k) (due ++ fresh) passed := by
  have haccepts (o : Outcome) : after.accepts o = b.accepts o := accepts_congr hkept.handler o
  cases h with
  | @reducing progress hreducing hgoes hdue =>
    refine .reducing (hstage.trans hreducing) (fun hgoal o ho => ?_) fun hpassed => ?_
    · rw [haccepts]
      exact hgoes hgoal o ho
    · rw [hlate hpassed, List.append_nil]
      exact hdue hpassed
  | accepted hgoal hreduced haccept =>
    exact .accepted hgoal (hstage.trans hreduced) ((haccepts _).trans haccept)
  | finished progress interrupted hreduced hgoes hdue hwhen =>
    -- When everything was posted before, nothing is posted now.
    have hnothing : fresh = [] := by
      refine hwhen.elim hlate fun hall => hnone ?_
      have hle := hledger.posted_le
      rw [Doings.posted_append, List.length_append, hall, hkept.size] at hle
      exact List.eq_nil_of_length_eq_zero (by omega)
    rw [hnothing, List.append_nil]
    refine .finished progress interrupted ?_ (fun hgoal o ho => ?_)
      hdue (hwhen.imp id fun hall => ?_)
    · rw [hstage, hreduced, resultOf_congr hkept.size]
    · rw [haccepts]
      exact hgoes hgoal o ho
    · have hle := hledger.posted_le
      rw [Doings.posted_append, List.length_append, hall, hkept.size] at hle ⊢
      omega
  | dropped hdropped => exact .dropped (hstage.trans hdropped)

/-- Time may pass when the reducer has nothing to do. -/
theorem KeepsUp.advance (later : Prop) {c : Clock} {tokens : List String}
    (h : KeepsUp goal b d due passed) (hledger : b.Ledger d) (hdue : due <+: d.posted)
    (hidle : b.isIdle c tokens = true) (hlater : passed → later) :
    KeepsUp goal b d due later := by
  cases h with
  | @reducing progress hreducing hgoes _ =>
    refine .reducing hreducing hgoes fun _ => ?_
    obtain ⟨hqueue, _⟩ := empty_of_isIdle hreducing hidle
    obtain ⟨hopen, hconsumed⟩ := hledger.reducing goal progress hreducing
    -- The channel is empty: whatever was posted has been taken.
    have hposted := hledger.flow hopen
    rw [hqueue, List.append_nil, hconsumed] at hposted
    exact hposted ▸ hdue
  | accepted hgoal hreduced haccept => exact .accepted hgoal hreduced haccept
  | finished progress interrupted hreduced hgoes hdue hwhen =>
    exact .finished progress interrupted hreduced hgoes hdue (hwhen.imp hlater id)
  | dropped hdropped => exact .dropped hdropped

/-- A reducer that has got everything has got what was due. -/
theorem Ledger.posted_eq_consumed {progress : Progress} (h : Ledger b d)
    (hstage : b.stage = .reducing goal progress) (hall : b.size ≤ progress.consumed.length) :
    d.posted = progress.consumed := by
  have hconsumed := (h.reducing goal progress hstage).2
  have htaken := h.taken
  rw [hconsumed] at htaken
  exact (htaken.eq_of_length_le (Nat.le_trans h.posted_le hall)).symm

/-- A turn of the reducer. -/
theorem KeepsUp.turn {c : Clock} {tokens : List String} {effects : List Effect}
    (h : KeepsUp goal b d due passed) (hledger : b.Ledger d) (hdue : due <+: d.posted)
    (hspared : b.isUnreduced = true → b.isAlarmed c tokens = true → passed)
    (hturn : b.Turn c tokens after effects) :
    KeepsUp goal after (d ++ Engine.unplaced effects) due passed := by
  have hkept := hturn.keeps.persists
  have hafter := hledger.turn hturn
  have haccepts (o : Outcome) : after.accepts o = b.accepts o := accepts_congr hkept.handler o
  -- A reducer that is not at work any more has no turn.
  have hgoal {goal' : Goal} {progress' : Progress} (hstage : b.stage = .reducing goal' progress') :
      goal' = goal ∧ b.goesOn goal progress'.consumed ∧
        (passed → due <+: progress'.consumed) := by
    cases h with
    | reducing hreducing hgoes hdue =>
      rw [hreducing] at hstage
      cases hstage
      exact ⟨rfl, hgoes, hdue⟩
    | accepted _ hreduced _ | finished _ _ hreduced _ _ _ => rw [hreduced] at hstage; cases hstage
    | dropped hdropped => rw [hdropped] at hstage; cases hstage
  have hgoesOn {consumed : List Outcome} (hgoes : b.goesOn goal consumed) :
      after.goesOn goal consumed := by
    intro hfirst o ho
    rw [haccepts]
    exact hgoes hfirst o ho
  cases hturn with
  | idle => simpa [Engine.unplaced] using h
  | @complete goal' progress hstage hall =>
    obtain ⟨rfl, hgoes, _⟩ := hgoal hstage
    have hposted := hledger.posted_eq_consumed hstage hall
    refine .finished progress false ?_ (hgoesOn hgoes)
      (hposted ▸ hdue) (.inr ?_)
    · rw [resultOf_congr hkept.size, finish_eq_close, close_stage]
    · have hle := hafter.posted_le
      rw [Doings.posted_append, List.length_append, hposted] at hle ⊢
      rw [hkept.size] at hle ⊢
      omega
  | @cutShort goal' progress hstage hleft hwhy =>
    obtain ⟨rfl, hgoes, hinitial⟩ := hgoal hstage
    -- The channel is not closed too early, so that it was an interruption.
    have hpassed : passed := by
      refine hspared (by simp [isUnreduced, hstage]) (hwhy.resolve_right ?_)
      exact hledger.next_ne_disconnected hstage hleft c tokens
    refine .finished progress true ?_ (hgoesOn hgoes)
      (hinitial hpassed) (.inl hpassed)
    rw [resultOf_congr hkept.size, finish_eq_close, close_stage]
  | @take goal' progress o rest hstage _ _ _ =>
    obtain ⟨rfl, hgoes, hinitial⟩ := hgoal hstage
    have hmore := consume_keeps { b with channel := rest } goal' progress o
    rcases consume_taken { b with channel := rest } goal' progress o with
      ⟨hnext, hgoing, _⟩ | ⟨hfirst, haccept, hreduced, _, _⟩
    · refine .reducing hgoing (fun hfirst x hx => ?_) fun hpassed => ?_
      · rw [hnext] at hx
        rcases List.mem_append.mp hx with hx | hx
        · rw [haccepts]
          exact hgoes hfirst x hx
        · -- The reducer goes on after this outcome, so that it has declined it.
          obtain rfl := List.mem_singleton.mp hx
          subst hfirst
          rw [accepts_congr hmore.handler]
          exact declined_of_consume hgoing
      · rw [hnext]
        exact (hinitial hpassed).trans (List.prefix_append _ _)
    · refine .accepted hfirst hreduced ?_
      rw [accepts_congr hmore.handler]
      exact haccept

/-- A turn of the reducer posts nothing. -/
theorem Turn.posts_nothing {c : Clock} {tokens : List String} {effects : List Effect}
    (h : b.Turn c tokens after effects) : effects.filterMap Effect.posted? = [] := by
  have hnone {xs : List Effect} (hxs : ∀ x ∈ xs, x.isConcluding = true) :
      xs.filterMap Effect.posted? = [] :=
    List.filterMap_eq_nil_iff.mpr fun x hx => Effect.posted?_of_isConcluding (hxs x hx)
  rcases h.effects_cases with hconcluding | ⟨o, rest, rfl, hconcluding⟩
  · exact hnone hconcluding
  · rw [List.filterMap_cons_none rfl]
    exact hnone hconcluding

/-- A batch whose reduction has begun stays at its stage until its reducer has a turn, unless it is
    dropped. -/
theorem react_stage (hbegun : b.stage ≠ .kept) (e : Engine) (number : Nat) {event : Engine.Event}
    (hevent : event ≠ .poll number) :
    (b.react e number event).1.stage = b.stage ∨
      (b.react e number event).1.stage = .dropped := by
  cases event with
  | signal n position s => by_cases hn : n = number <;> simp [react, hn]
  | cancel n => by_cases hn : n = number <;> simp [react, hn]
  | reduce n goal =>
    by_cases hn : n = number
    · simp [react, hn, begin]
    · simp [react, hn]
  | poll n =>
    have hn : n ≠ number := fun h => hevent (h ▸ rfl)
    simp [react, hn]
  | drop n =>
    by_cases hn : n = number
    · simp only [react, hn, if_true, drop]
      split
      · exact .inr rfl
      · exact .inr rfl
      · exact .inl rfl
      · exact .inl rfl
    · simp [react, hn]
  | dispatch _ _ | replicate _ _ _ _ | cancelToken _ | advance _ | tick => exact .inl rfl

/-- A reduction towards a goal that has begun: it is under way, over or dropped. -/
inductive Begun (goal : Goal) (b : Batch) : Prop where
  | reducing {progress : Progress} : b.stage = .reducing goal progress → Begun goal b
  | reduced {r : Reduction} : b.stage = .reduced r → Begun goal b
  | dropped : b.stage = .dropped → Begun goal b

theorem Begun.not_kept (h : Begun goal b) : b.stage ≠ .kept := by
  cases h with
  | reducing hstage | reduced hstage | dropped hstage => simp [hstage]

theorem KeepsUp.begun (h : KeepsUp goal b d due passed) : Begun goal b := by
  cases h with
  | reducing hstage _ _ => exact .reducing hstage
  | accepted _ hstage _ | finished _ _ hstage _ _ _ => exact .reduced hstage
  | dropped hstage => exact .dropped hstage

theorem Begun.congr (h : Begun goal b) (hstage : after.stage = b.stage) : Begun goal after := by
  cases h with
  | reducing h => exact .reducing (hstage.trans h)
  | reduced h => exact .reduced (hstage.trans h)
  | dropped h => exact .dropped (hstage.trans h)

/-- What has begun stays begun. -/
theorem Begun.react (h : Begun goal b) (e : Engine) (number : Nat) (event : Engine.Event) :
    Begun goal (b.react e number event).1 := by
  by_cases hpoll : event = .poll number
  · subst hpoll
    have hturn := b.poll_turn e.toClock e.tokens
    simp only [Batch.react, if_true]
    generalize (b.poll e.toClock e.tokens).1 = after,
      (b.poll e.toClock e.tokens).2 = effects at hturn ⊢
    cases hturn with
    | idle => exact h
    | complete _ _ | cutShort _ _ _ => exact .reduced (by rw [finish_eq_close, close_stage])
    | @take goal' progress o rest hstage _ _ _ =>
      obtain rfl : goal' = goal := by
        cases h with
        | reducing h => rw [h] at hstage; cases hstage; rfl
        | reduced h | dropped h => rw [h] at hstage; cases hstage
      rcases consume_taken { b with channel := rest } goal' progress o with
        ⟨_, hafter, _⟩ | ⟨_, _, hafter, _, _⟩
      · exact .reducing hafter
      · exact .reduced hafter
  · rcases react_stage h.not_kept e number hpoll with hsame | hdropped
    · exact h.congr hsame
    · exact .dropped hdropped

end Batch

/-! ## §4 Runs -/

namespace Engine

open Batch

variable {client : Client} {now : Instant} {before : List Event} {number : Nat} {goal : Goal}
  {time : Instant} {b : Batch}

/-- An event keeps the reducer up, if it passes the checks. -/
theorem keeps_up_step {events : List Event} {event : Event}
    (hb : ((start client now).run events).1.batches[number]? = some b)
    (h : b.KeepsUp goal (((start client now).run events).2.of number)
      (((start client now).run events).2.postedBy number time)
      (time < ((start client now).run events).1.now))
    (hyields : ((start client now).run events).1.yields number event = true)
    (hspares : ((start client now).run events).1.spares number time event = true) :
    (b.react ((start client now).run events).1 number event).1.KeepsUp goal
      (((start client now).run (events ++ [event])).2.of number)
      (((start client now).run (events ++ [event])).2.postedBy number time)
      (time < ((start client now).run (events ++ [event])).1.now) := by
  have hledger := run_ledger events hb
  have hdue := (run_postedBy client now number time events).1
  have hmove := b.react_move ((start client now).run events).1 number event
  rw [run_concat, History.of_append, History.postedBy_append, (step_share hb event).2,
    History.postedBy_of_times (step_times _ event), (step_share hb event).2]
  rcases step_now_cases ((start client now).run events).1 event with ⟨d, rfl⟩ | hnow
  · have hidle : b.isIdle ((start client now).run events).1.toClock
        ((start client now).run events).1.tokens = true := by
      simpa [yields, hb] using hyields
    have hclock := (((start client now).run events).1.step_time (.advance d)).1
    have hafter := h.advance (time < (((start client now).run events).1.step
      (.advance d)).1.now) hledger hdue hidle fun hpassed => Nat.lt_of_lt_of_le hpassed hclock
    simpa [react] using hafter
  rw [hnow]
  by_cases hpoll : event = .poll number
  · subst hpoll
    have hturn := b.poll_turn ((start client now).run events).1.toClock
      ((start client now).run events).1.tokens
    have hspared : b.isUnreduced = true → b.isAlarmed ((start client now).run events).1.toClock
        ((start client now).run events).1.tokens = true →
        time < ((start client now).run events).1.now := by
      intro hopen hstop
      simpa [spares, hb, hopen, hstop] using hspares
    simpa [react, hturn.posts_nothing] using h.turn hledger hdue hspared hturn
  · rcases react_stage h.begun.not_kept ((start client now).run events).1 number hpoll with
      hstage | hdropped
    · -- What is posted now counts only before the instant has passed.
      refine h.stay hmove.persists hstage (hledger.move hmove) (fun hpassed => ?_) fun hnone => ?_
      · exact if_neg (Nat.not_le_of_lt hpassed)
      · rw [hnone, ite_self]
    · exact .dropped hdropped

/-- A reducer that keeps up goes on so in every run that passes the checks. -/
theorem run_goes_on {events : List Event}
    (hb : ((start client now).run events).1.batches[number]? = some b)
    (h : b.KeepsUp goal (((start client now).run events).2.of number)
      (((start client now).run events).2.postedBy number time)
      (time < ((start client now).run events).1.now))
    (after : List Event)
    (hyields : ((start client now).run events).1.abides (yields number) after = true)
    (hspares : ((start client now).run events).1.abides (spares number time) after = true) :
    ∃ later, ((start client now).run (events ++ after)).1.batches[number]? = some later ∧
      later.KeepsUp goal (((start client now).run (events ++ after)).2.of number)
        (((start client now).run (events ++ after)).2.postedBy number time)
        (time < ((start client now).run (events ++ after)).1.now) := by
  induction after using List.reverseRecOn with
  | nil => exact ⟨b, by rwa [List.append_nil], by rwa [List.append_nil]⟩
  | append_singleton after next ih =>
    rw [abides_concat] at hyields hspares
    obtain ⟨later, hlater, hkeeps⟩ := ih hyields.1 hspares.1
    have hrun : (((start client now).run events).1.run after).1 =
        ((start client now).run (events ++ after)).1 := by rw [run_append]
    rw [hrun] at hyields hspares
    rw [← List.append_assoc]
    refine ⟨_, ?_, keeps_up_step hlater hkeeps hyields.2 hspares.2⟩
    rw [run_concat]
    exact (step_share hlater next).1

/-- **A reducer keeps up in every run** that passes the checks and in which it begins at an instant
    or before. -/
theorem run_keeps_up (hb : ((start client now).run before).1.batches[number]? = some b)
    (hkept : b.stage = .kept) (hstart : ((start client now).run before).1.now ≤ time)
    (after : List Event)
    (hyields : ((start client now).run before).1.abides (yields number)
      (.reduce number goal :: after) = true)
    (hspares : ((start client now).run before).1.abides (spares number time)
      (.reduce number goal :: after) = true) :
    ∃ later, ((start client now).run (before ++ .reduce number goal :: after)).1.batches[number]? =
        some later ∧
      later.KeepsUp goal
        (((start client now).run (before ++ .reduce number goal :: after)).2.of number)
        (((start client now).run (before ++ .reduce number goal :: after)).2.postedBy number time)
        (time < ((start client now).run (before ++ .reduce number goal :: after)).1.now) := by
  obtain ⟨hbegun, _⟩ := step_share hb (.reduce number goal)
  have hstage : (b.react ((start client now).run before).1 number (.reduce number goal)).1.stage =
      .reducing goal Progress.start := by simp [react, Batch.begin, hkept]
  simp only [abides, Bool.and_eq_true] at hyields hspares
  rw [List.append_cons]
  refine run_goes_on (b := (b.react ((start client now).run before).1 number
    (.reduce number goal)).1) ?_ ?_ after ?_ ?_
  · rw [run_concat]
    exact hbegun
  · -- It has taken nothing, and the instant has not passed.
    refine .reducing hstage (fun _ o ho => by simp [Progress.start] at ho) fun hpassed => ?_
    rw [run_concat, step_now _ (by simp)] at hpassed
    exact absurd hpassed (Nat.not_lt_of_le hstart)
  · rw [run_concat]
    exact hyields.2
  · rw [run_concat]
    exact hspares.2

end Engine

/-! ## §5 Reducers that begin too late -/

namespace Batch

variable {b : Batch} {e : Engine} {goal : Goal} {progress : Progress}

/-- A reducer that is woken returns what it has, whatever its channel holds. -/
theorem poll_of_alarmed {c : Clock} {tokens : List String}
    (hstage : b.stage = .reducing goal progress) (hstop : b.isAlarmed c tokens = true) :
    (b.poll c tokens).1.stage =
      .reduced (b.resultOf goal progress (progress.consumed.length < b.size)) := by
  unfold poll
  simp only [hstage]
  by_cases hdone : b.size ≤ progress.consumed.length
  · simp [hdone, finish_eq_close, Nat.not_lt.mpr hdone]
  have hleft : progress.consumed.length < b.size := Nat.lt_of_not_le hdone
  simp only [hdone, if_false]
  rcases next_cases b c tokens with ⟨hnext | hnext, _⟩ | ⟨hcalm, _⟩
  · simp [hnext, finish_eq_close, hleft]
  · simp [hnext, finish_eq_close, hleft]
  · rw [hcalm] at hstop
    cases hstop

/-- A reducer that began when everybody was woken: it has nothing, and it never will. -/
inductive Late (goal : Goal) (b : Batch) : Prop where
  | waiting : b.stage = .reducing goal Progress.start → Late goal b
  | returned : b.stage = .reduced (b.resultOf goal Progress.start (0 < b.size)) → Late goal b
  | dropped : b.stage = .dropped → Late goal b

theorem Late.react (h : Late goal b) (hstop : b.isAlarmed e.toClock e.tokens = true)
    (number : Nat) (event : Engine.Event) : Late goal (b.react e number event).1 := by
  have hkept := (b.react_move e number event).persists
  by_cases hpoll : event = .poll number
  · subst hpoll
    cases h with
    | waiting hstage =>
      refine .returned ?_
      rw [resultOf_congr hkept.size, hkept.size]
      have hreturned : (b.poll e.toClock e.tokens).1.stage =
          .reduced (b.resultOf goal Progress.start (0 < b.size)) :=
        poll_of_alarmed hstage hstop
      simpa [Batch.react] using hreturned
    | returned hstage =>
      refine .returned ?_
      rw [resultOf_congr hkept.size, hkept.size]
      simp [Batch.react, poll, hstage]
    | dropped hstage => exact .dropped (by simp [Batch.react, poll, hstage])
  · have hbegun : b.stage ≠ .kept := by
      cases h with
      | waiting hstage | returned hstage | dropped hstage => simp [hstage]
    rcases react_stage hbegun e number hpoll with hsame | hdropped
    · cases h with
      | waiting hstage => exact .waiting (hsame.trans hstage)
      | returned hstage =>
        refine .returned ?_
        rw [resultOf_congr hkept.size, hkept.size, hsame, hstage]
      | dropped hstage => exact .dropped (hsame.trans hstage)
    · exact .dropped hdropped

end Batch

namespace Engine

open Batch

variable {client : Client} {now : Instant} {number : Nat} {goal : Goal} {b : Batch}

/-- A reducer that begins when everybody is woken takes nothing in any run. -/
theorem run_late {e : Engine} (hb : e.batches[number]? = some b) (hkept : b.stage = .kept)
    (hstop : b.isAlarmed e.toClock e.tokens = true) (goal : Goal) (after : List Event) :
    ∃ later, (e.run (.reduce number goal :: after)).1.batches[number]? = some later ∧
      Late goal later := by
  obtain ⟨hbegun, _⟩ := step_share hb (.reduce number goal)
  have hmove := b.react_move e number (.reduce number goal)
  obtain ⟨later, hlater, ⟨_, hlate⟩, _⟩ := run_safe
    (P := fun e b => b.isAlarmed e.toClock e.tokens = true ∧ Late goal b) (A := fun _ => True)
    (fun e event b _ h =>
      have hmove := b.react_move e number event
      ⟨⟨alarmed_step h.1 hmove.persists event, h.2.react h.1 number event⟩,
        fun _ _ => trivial⟩)
    after hbegun
    ⟨alarmed_step hstop hmove.persists _, .waiting (by simp [react, Batch.begin, hkept])⟩
  exact ⟨later, hlater, hlate⟩

/-- A reduction that begins is begun in every run. -/
theorem run_begun_goal {e : Engine} (hb : e.batches[number]? = some b) (hkept : b.stage = .kept)
    (goal : Goal) (after : List Event) :
    ∃ later, (e.run (.reduce number goal :: after)).1.batches[number]? = some later ∧
      b.Persists later ∧ Begun goal later := by
  obtain ⟨hbegun, _⟩ := step_share hb (.reduce number goal)
  have hmove := b.react_move e number (.reduce number goal)
  have hstage : (b.react e number (.reduce number goal)).1.stage =
      .reducing goal Progress.start := by simp [Batch.react, Batch.begin, hkept]
  obtain ⟨later, hlater, hkept, _⟩ := run_safe
    (P := fun _ later => b.Persists later ∧ Begun goal later) (A := fun _ => True)
    (fun e event now _ h =>
      ⟨⟨h.1.trans (now.react_move e number event).persists, h.2.react e number event⟩,
        fun _ _ => trivial⟩)
    after hbegun ⟨hmove.persists, .reducing hstage⟩
  exact ⟨later, hlater, hkept⟩

/-- **Nothing that came in time is lost, when the reducer came in time.**  Where time passes only
    when the reducer has nothing to do: a reduction that begins before the batch is cancelled and
    before the timer for its deadline fires returns, as a join, every outcome that was posted before
    that, and, as a search for the first success, a success if one of those outcomes is one.  A
    reduction that begins when the batch is cancelled or the timer has fired takes nothing, whatever
    waits in the channel.  And a reducer that is still at work then returns at its next turn. -/
theorem run_gathers (client : Client) (now : Instant) (before after : List Event) {number : Nat}
    {b : Batch} (hb : ((start client now).run before).1.batches[number]? = some b)
    (hkept : b.stage = .kept) (goal : Goal) :
    let first := ((start client now).run before).1
    let run := (start client now).run (before ++ .reduce number goal :: after)
    ∃ later, run.1.batches[number]? = some later ∧ Begun goal later ∧
      (∀ time, first.abides (yields number) (.reduce number goal :: after) = true →
        first.abides (spares number first.now) (.reduce number goal :: after) = true →
        first.abides (spares number time) (.reduce number goal :: after) = true →
        ∀ r, later.stage = .reduced r →
          (goal = .join →
            ∃ outcomes, r = .joined outcomes ∧ run.2.postedBy number time <+: outcomes) ∧
          (goal = .first → ∀ o ∈ run.2.postedBy number time, b.accepts o = true →
            ∃ o', r = .first o' ∧ b.accepts o' = true)) ∧
      (b.isAlarmed first.toClock first.tokens = true → ∀ r, later.stage = .reduced r →
        (goal = .join → r = .joined []) ∧
        (goal = .first → r = .failed ⟨[], b.size, 0 < b.size⟩)) ∧
      (later.isAlarmed run.1.toClock run.1.tokens = true → ∀ progress,
        later.stage = .reducing goal progress →
        ∃ last r, (run.1.step (.poll number)).1.batches[number]? = some last ∧
          last.stage = .reduced r) := by
  intro first run
  have hrun : (first.run (.reduce number goal :: after)).1 = run.1 := by
    simp only [run, first, run_append]
  obtain ⟨later, hlater, hpersists, hbegun⟩ := run_begun_goal hb hkept goal after
  rw [hrun] at hlater
  have haccepts (o : Outcome) : later.accepts o = b.accepts o := accepts_congr hpersists.handler o
  refine ⟨later, hlater, hbegun, fun time hyields hstart hspares r hr => ?_, fun hstop r hr => ?_,
    fun hstop progress hstage => ?_⟩
  · -- The later one of the two instants has passed before anybody is woken, too.
    obtain ⟨latest, hfirst, htime, hspared⟩ : ∃ latest, first.now ≤ latest ∧ time ≤ latest ∧
        first.abides (spares number latest) (.reduce number goal :: after) = true := by
      rcases Nat.le_total first.now.nanos time.nanos with hle | hle
      · exact ⟨time, hle, Nat.le_refl _, hspares⟩
      · exact ⟨first.now, Nat.le_refl _, hle, hstart⟩
    obtain ⟨later', hthere, hkeeps⟩ := run_keeps_up hb hkept hfirst after hyields hspared
    obtain rfl := Option.some.inj (hlater.symm.trans hthere)
    have hmono : run.2.postedBy number time <+: run.2.postedBy number latest :=
      run_postedBy_mono number htime _
    cases hkeeps with
    | reducing hstage _ _ | dropped hstage => rw [hstage] at hr; cases hr
    | @accepted o hgoal hreduced haccept =>
      rw [hreduced] at hr
      cases hr
      refine ⟨fun hjoin => ?_, fun _ _ _ _ => ⟨o, rfl, haccepts o ▸ haccept⟩⟩
      rw [hgoal] at hjoin
      cases hjoin
    | finished progress interrupted hreduced hgoes hdue _ =>
      rw [hreduced] at hr
      cases hr
      have hposted := hmono.trans hdue
      refine ⟨fun hjoin => ?_, fun hfirst o ho haccept => ?_⟩
      · subst hjoin
        exact ⟨progress.consumed, rfl, hposted⟩
      · -- Whatever was taken without being returned was declined.
        have hdeclined := hgoes hfirst o (hposted.subset ho)
        rw [haccepts, haccept] at hdeclined
        cases hdeclined
  · obtain ⟨later', hthere, hlate⟩ := run_late hb hkept hstop goal after
    rw [hrun] at hthere
    obtain rfl := Option.some.inj (hlater.symm.trans hthere)
    cases hlate with
    | waiting hstage | dropped hstage => rw [hstage] at hr; cases hr
    | returned hreduced =>
      rw [hreduced] at hr
      cases hr
      refine ⟨fun hjoin => by subst hjoin; rfl, fun hfirst => ?_⟩
      subst hfirst
      rw [resultOf_congr hpersists.size, hpersists.size]
      rfl
  · obtain ⟨hlast, _⟩ := step_share hlater (.poll number)
    have hreturned := poll_of_alarmed hstage hstop
    exact ⟨_, _, hlast, by simpa [react] using hreturned⟩

/-- The answer of one target comes at once, and the other one never answers. -/
def answeredEvents : List Event :=
  [.dispatch (.new .get "x") [⟨0, "http://a"⟩, ⟨1, "http://b"⟩], .signal 0 0 .turn,
    .signal 0 1 .turn, .signal 0 0 .turn, .signal 0 1 .turn,
    .signal 0 0 (.answer (.response ⟨Status.ok, .http11, Header.Map.empty⟩)), .signal 0 0 .bodyEnd]

/-- A join that begins in time returns the one outcome when the batch is cancelled later. -/
theorem run_gathers_answered :
    let after : List Event := [.poll 0, .advance (.ofMillis 5), .cancel 0, .poll 0]
    let first := (plain.run answeredEvents).1
    let run := plain.run (answeredEvents ++ .reduce 0 .join :: after)
    ∃ b later outcomes, first.batches[0]? = some b ∧ b.stage = .kept ∧
      first.abides (yields 0) (.reduce 0 .join :: after) = true ∧
      first.abides (spares 0 ⟨0⟩) (.reduce 0 .join :: after) = true ∧
      run.1.batches[0]? = some later ∧ later.stage = .reduced (.joined outcomes) ∧
      run.2.postedBy 0 ⟨0⟩ <+: outcomes ∧
      (run.2.postedBy 0 ⟨0⟩).map (·.target.index) = [0] := by
  intro after first run
  have hfresh : first.batches[0]?.any Batch.isKept = true := by decide +kernel
  obtain ⟨b, hb, hkept⟩ := (Option.any_eq_true _ _).mp hfresh
  have hkept : b.stage = .kept := Batch.isKept_iff.mp hkept
  have hyields : first.abides (yields 0) (.reduce 0 .join :: after) = true := by decide +kernel
  have hspares : first.abides (spares 0 ⟨0⟩) (.reduce 0 .join :: after) = true := by
    decide +kernel
  have hnow : first.now = ⟨0⟩ := by decide +kernel
  obtain ⟨later, hlater, _, hgathers, _⟩ := run_gathers _ _ answeredEvents after hb hkept .join
  have hthere : run.1.batches[0]? = some later := hlater
  have hreduced : (run.1.batches[0]?.bind Batch.reduction?).isSome = true := by decide +kernel
  rw [hthere, Option.bind_some] at hreduced
  obtain ⟨r, hr⟩ := Option.isSome_iff_exists.mp hreduced
  have hstage := Batch.reduction?_eq_some.mp hr
  obtain ⟨outcomes, rfl, hposted⟩ :=
    (hgathers ⟨0⟩ hyields (by rw [← hnow] at hspares; exact hspares) hspares r hstage).1 rfl
  exact ⟨b, later, outcomes, hb, hkept, hyields, hspares, hthere, hstage, hposted,
    by decide +kernel⟩

/-- A join that begins after the cancellation returns nothing, although an outcome was posted at an
    earlier instant, and although time has passed only when nothing was left to do. -/
theorem late_join_is_empty :
    let events := answeredEvents ++ [.advance (.ofMillis 1), .cancel 0, .reduce 0 .join, .poll 0]
    plain.abides (yields 0) events = true ∧ plain.abides (spares 0 ⟨0⟩) events = true ∧
      ((plain.run events).2.postedBy 0 ⟨0⟩).map (·.target.index) = [0] ∧
      (plain.run events).1.batches[0]?.bind Batch.reduction? = some (.joined []) := by
  intro events
  exact ⟨by decide +kernel, by decide +kernel, by decide +kernel, by decide +kernel⟩

end Engine

end Replicast
