import Replicast.Proofs.Engine.Newborn
/-!
# The clock of a client

Time passes for all batches at once, and the timers of all batches are looked after at once, each by
an event of its own.

## Overview

* `Clock.react` is what an event does to the clock, and `Engine.step_clock` says that it does no more.
* `Engine.step_time` says that the clock does not go back, `Engine.step_now` that only its own event
  moves it, and `Engine.step_times` that every event is recorded at its instant.
* `Engine.abides` checks each event of a run in the state in which it happens.
-/

namespace Replicast

/-! ## §1 One event -/

/-- What an event does to the clock. -/
def Clock.react (c : Clock) : Engine.Event → Clock
  | .advance d => c.pass d
  | .tick => c.tick
  | _ => c

namespace Engine

theorem change_time (e : Engine) (number : Nat) (f : Batch → Batch × Doings) :
    (e.change number f).1.toClock = e.toClock ∧ (e.change number f).1.tokens = e.tokens := by
  unfold change
  cases e.batches[number]? <;> exact ⟨rfl, rfl⟩

/-- As in `quiet_step`, the clock is a variable, so that it is never computed. -/
theorem quiet_clock {e : Engine} {event : Event} {c : Clock}
    (hstep : e.step event = ({ e with toClock := c }, [])) :
    (e.step event).1.toClock = c ∧ (e.step event).1.tokens = e.tokens ∧
      (e.step event).1.client = e.client := by
  rw [hstep]
  exact ⟨rfl, rfl, rfl⟩

/-- The clock is moved by its own events only. -/
theorem step_clock (e : Engine) (event : Event) :
    (e.step event).1.toClock = e.toClock.react event := by
  cases event with
  | dispatch op targets => rfl
  | replicate op targets threshold acceptance =>
    simp only [step]
    exact (change_time _ _ _).1
  | signal number position s =>
    simp only [step, signal]
    cases e.batches[number]? <;> rfl
  | cancel number | reduce number _ | poll number | drop number => exact (change_time e number _).1
  | cancelToken name => rfl
  | advance d => exact (quiet_clock (step_advance e d)).1
  | tick => exact (quiet_clock (step_tick e)).1

/-- A cancelled token stays cancelled. -/
theorem step_tokens_subset (e : Engine) (event : Event) : e.tokens ⊆ (e.step event).1.tokens := by
  have hchange (e : Engine) (number : Nat) (f : Batch → Batch × Doings) :
      e.tokens ⊆ (e.change number f).1.tokens := by
    rw [(change_time e number f).2]
    exact List.Subset.refl _
  cases event with
  | dispatch op targets => exact List.Subset.refl _
  | replicate op targets threshold acceptance =>
    simp only [step]
    exact hchange (e.dispatch { op with handler := none } targets).1 _ _
  | signal number position s =>
    simp only [step, signal]
    cases e.batches[number]? <;> exact List.Subset.refl _
  | cancel number | reduce number _ | poll number | drop number => exact hchange e number _
  | cancelToken name => exact List.subset_cons_self name e.tokens
  | advance d =>
    rw [(quiet_clock (step_advance e d)).2.1]
    exact List.Subset.refl _
  | tick =>
    rw [(quiet_clock (step_tick e)).2.1]
    exact List.Subset.refl _

/-- The clock does not go back, and a cancelled token stays cancelled. -/
theorem step_time (e : Engine) (event : Event) :
    e.now ≤ (e.step event).1.now ∧ e.tokens ⊆ (e.step event).1.tokens := by
  refine ⟨?_, step_tokens_subset e event⟩
  rw [step_clock]
  cases event with
  | advance d => exact e.now.le_after d
  | _ => exact Nat.le_refl _

/-- A timer that has fired has fired for good. -/
theorem step_ticked (e : Engine) (event : Event) : e.ticked ≤ (e.step event).1.ticked := by
  rw [step_clock]
  cases event with
  | tick => exact e.ticked_le
  | _ => exact Nat.le_refl _

/-- An event is recorded at the instant at which it happens. -/
theorem step_times (e : Engine) (event : Event) : ∀ r ∈ (e.step event).2, r.time = e.now := by
  have hrecords (number : Nat) (d : Doings) : ∀ r ∈ e.records number d, r.time = e.now := by
    intro r hr
    obtain ⟨x, _, rfl⟩ := List.mem_map.mp hr
    rfl
  have hchange (number : Nat) (f : Batch → Batch × Doings) :
      ∀ r ∈ (e.change number f).2, r.time = e.now := by
    unfold change
    cases e.batches[number]? with
    | none => simp
    | some b => exact hrecords number _
  cases event with
  | dispatch op targets => exact hrecords _ _
  | replicate op targets threshold acceptance =>
    intro r hr
    rcases List.mem_append.mp hr with hr | hr
    · exact hrecords _ _ r hr
    · exact hrecords _ _ r hr
  | signal number position s =>
    simp only [step, signal]
    cases e.batches[number]? with
    | none => simp
    | some b => exact hrecords number _
  | cancel number | reduce number _ | poll number | drop number => exact hchange number _
  | cancelToken _ | advance _ | tick => simp [step]

/-- Only one event lets time pass. -/
theorem step_now (e : Engine) {event : Event} (h : ∀ d, event ≠ .advance d) :
    (e.step event).1.now = e.now := by
  rw [step_clock]
  cases event with
  | advance d => exact absurd rfl (h d)
  | _ => rfl

/-- An event lets time pass, or the clock stays where it is. -/
theorem step_now_cases (e : Engine) (event : Event) :
    (∃ d, event = .advance d) ∨ (e.step event).1.now = e.now := by
  cases event with
  | advance d => exact .inl ⟨d, rfl⟩
  | _ => exact .inr (step_now e (by simp))

/-- The time that passes. -/
theorem step_after (e : Engine) (d : Duration) : (e.step (.advance d)).1.now = e.now.after d := by
  rw [step_clock]
  rfl

/-- While somebody waits for a timer nothing happens to a batch. -/
theorem run_wait {e : Engine} {number : Nat} {b : Batch} (hb : e.batches[number]? = some b)
    (t : Instant) :
    (e.run [.advance (t.wakeup.since e.now), .tick]).1.batches[number]? = some b ∧
      (e.run [.advance (t.wakeup.since e.now), .tick]).1.hasFired t = true := by
  have hpassed := (quiet_step (step_advance e (t.wakeup.since e.now)) hb).1
  refine ⟨(quiet_step (step_tick _) hpassed).1, ?_⟩
  have hclock : (e.run [.advance (t.wakeup.since e.now), .tick]).1.toClock =
      (e.toClock.pass (t.wakeup.since e.now)).tick := by
    simp only [run, step_clock]
    rfl
  rw [hclock]
  exact e.toClock.hasFired_of_wait t

/-- The client stays what it is. -/
theorem step_client (e : Engine) (event : Event) : (e.step event).1.client = e.client := by
  have hchange (e : Engine) (number : Nat) (f : Batch → Batch × Doings) :
      (e.change number f).1.client = e.client := by
    unfold change
    cases e.batches[number]? <;> rfl
  cases event with
  | dispatch op targets => rfl
  | replicate op targets threshold acceptance =>
    simp only [step]
    exact hchange _ _ _
  | signal number position s =>
    simp only [step, signal]
    cases e.batches[number]? <;> rfl
  | cancel number | reduce number _ | poll number | drop number => exact hchange e number _
  | cancelToken _ => rfl
  | advance d => exact (quiet_clock (step_advance e d)).2.2
  | tick => exact (quiet_clock (step_tick e)).2.2

theorem run_client (e : Engine) (events : List Event) : (e.run events).1.client = e.client := by
  induction events generalizing e with
  | nil => rfl
  | cons event rest ih => exact (ih _).trans (e.step_client event)

/-- The clock does not go back in a run. -/
theorem run_time (e : Engine) (events : List Event) : e.now ≤ (e.run events).1.now := by
  induction events generalizing e with
  | nil => exact Nat.le_refl _
  | cons event rest ih => exact Nat.le_trans (e.step_time event).1 (ih _)

/-- Whether every event of a run passes a check, in the state in which it happens. -/
def abides (check : Engine → Event → Bool) (e : Engine) : List Event → Bool
  | [] => true
  | event :: rest => check e event && (e.step event).1.abides check rest

theorem abides_append (check : Engine → Event → Bool) (e : Engine) (xs ys : List Event) :
    e.abides check (xs ++ ys) = (e.abides check xs && (e.run xs).1.abides check ys) := by
  induction xs generalizing e with
  | nil => rfl
  | cons event rest ih => simp [abides, run, ih, Bool.and_assoc]

/-- The last event of a checked run passes its check, and so did the others. -/
theorem abides_concat {check : Engine → Event → Bool} {e : Engine} {events : List Event}
    {event : Event} :
    e.abides check (events ++ [event]) = true ↔
      e.abides check events = true ∧ check (e.run events).1 event = true := by
  simp [abides_append, abides]

/-- What every event that passes a check keeps of a batch and its client holds of them after every
    checked run, and what each such event is bound to record holds of all that the run records of
    the batch. -/
theorem run_checked {check : Engine → Event → Bool} {P : Engine → Batch → Prop}
    {A : Record → Prop} {number : Nat}
    (moved : ∀ e event b, e.batches[number]? = some b → check e event = true → P e b →
      P (e.step event).1 (b.react e number event).1 ∧
        ∀ r ∈ (e.step event).2, r.batch = number → A r)
    (events : List Event) {e : Engine} {b : Batch} (hb : e.batches[number]? = some b)
    (hP : P e b) (hcheck : e.abides check events = true) :
    ∃ after, (e.run events).1.batches[number]? = some after ∧ P (e.run events).1 after ∧
      ∀ r ∈ (e.run events).2, r.batch = number → A r := by
  induction events generalizing e b with
  | nil => exact ⟨b, hb, hP, by simp [run]⟩
  | cons event rest ih =>
    simp only [abides, Bool.and_eq_true] at hcheck
    obtain ⟨hkept, hbound⟩ := moved e event b hb hcheck.1 hP
    obtain ⟨last, hlast, hPlast, hrest⟩ := ih (step_share hb event).1 hkept hcheck.2
    refine ⟨last, hlast, hPlast, fun r hr hnumber => ?_⟩
    simp only [run, List.mem_append] at hr
    exact hr.elim (fun hr => hbound r hr hnumber) fun hr => hrest r hr hnumber

end Engine

end Replicast
