import Replicast.Batch.Reducer
import Replicast.Proofs.Batch.Kinds
/-!
# The turns of a reducer

What the reducer of a batch can do in one turn, and what every turn leaves as it is.

## Overview

* `Batch.Keeps` says what no reducer and no handle changes: the plan, the workers, the room in the
  channel.  A batch that was cancelled or released stays so, and none is released without being
  cancelled.
* `Batch.Turn` lists the turns, and `Batch.poll_turn` finds the one that `Batch.poll` makes.
* `Batch.Turn.effects_cases` says that a turn takes one outcome at most, and otherwise only judges
  and returns.
-/

namespace Replicast.Batch

variable {c : Clock} {tokens : List String} {b after : Batch}

/-! ## §1 What is kept -/

/-- What reducers, handles and drops leave of a batch. -/
structure Keeps (b after : Batch) : Prop where
  plan : after.plan = b.plan
  parent : after.parent = b.parent
  handler : after.handler = b.handler
  workers : after.workers = b.workers
  capacity : after.channel.capacity = b.channel.capacity
  cancelled : b.cancelled = true → after.cancelled = true
  released : b.released = true → after.released = true
  sound : (b.released = true → b.cancelled = true) → after.released = true → after.cancelled = true

theorem Keeps.refl (b : Batch) : Keeps b b := ⟨rfl, rfl, rfl, rfl, rfl, id, id, id⟩

theorem Keeps.trans {b₁ b₂ b₃ : Batch} (h : Keeps b₁ b₂) (k : Keeps b₂ b₃) : Keeps b₁ b₃ :=
  ⟨k.plan.trans h.plan, k.parent.trans h.parent, k.handler.trans h.handler,
    k.workers.trans h.workers, k.capacity.trans h.capacity, k.cancelled ∘ h.cancelled,
    k.released ∘ h.released, k.sound ∘ h.sound⟩

theorem Keeps.size (h : Keeps b after) : after.size = b.size := by
  simp [Batch.size, h.workers]

/-- The stage is not among what is kept. -/
theorem Keeps.fromStage (h : Keeps b after) (stage : Stage) : Keeps { b with stage } after :=
  ⟨h.plan, h.parent, h.handler, h.workers, h.capacity, h.cancelled, h.released,
    h.sound⟩

/-- Only the stage changes. -/
theorem keeps_stage (b : Batch) (stage : Stage) : Keeps b { b with stage } :=
  ⟨rfl, rfl, rfl, rfl, rfl, id, id, id⟩

theorem release_keeps (b : Batch) : Keeps b b.release.1 := by
  unfold release
  split
  · exact .refl b
  · exact ⟨rfl, rfl, rfl, rfl, rfl, fun _ => rfl, fun _ => rfl, fun _ _ => rfl⟩

@[simp] theorem release_channel (b : Batch) : b.release.1.channel = b.channel := by
  unfold release; split <;> rfl

@[simp] theorem release_stage (b : Batch) : b.release.1.stage = b.stage := by
  unfold release; split <;> rfl

@[simp] theorem release_released (b : Batch) : b.release.1.released = true := by
  unfold release
  split
  · assumption
  · rfl

theorem judge_keeps (b : Batch) (o : Outcome) : Keeps b (b.judge o).1 := by
  unfold judge
  cases b.handler with
  | none => exact .refl b
  | some handler =>
    by_cases hcancel : (handler o).cancels = true
    · simpa [hcancel] using release_keeps b
    · simpa [hcancel] using Keeps.refl b

@[simp] theorem judge_channel (b : Batch) (o : Outcome) : (b.judge o).1.channel = b.channel := by
  unfold judge
  cases b.handler with
  | none => rfl
  | some handler => by_cases hcancel : (handler o).cancels = true <;> simp [hcancel]

theorem judge_concluding (b : Batch) (o : Outcome) :
    ∀ x ∈ (b.judge o).2.1, x.isConcluding = true := by
  unfold judge
  cases b.handler with
  | none => simp
  | some handler =>
    by_cases hcancel : (handler o).cancels = true <;> simp [hcancel, Effect.isConcluding]

theorem close_keeps (b : Batch) (stage : Stage) : Keeps b (b.close stage).1 :=
  have h := release_keeps b
  ⟨h.plan, h.parent, h.handler, h.workers, rfl, h.cancelled, h.released, h.sound⟩

@[simp] theorem close_channel (b : Batch) (stage : Stage) :
    (b.close stage).1.channel = b.channel.close := by
  simp [close, Channel.close]

@[simp] theorem close_stage (b : Batch) (stage : Stage) : (b.close stage).1.stage = stage := rfl

@[simp] theorem close_released (b : Batch) (stage : Stage) :
    (b.close stage).1.released = true := by
  simp [close]

theorem close_concluding (b : Batch) (stage : Stage) :
    ∀ x ∈ (b.close stage).2, x.isConcluding = true := by
  simp only [close]
  split <;> simp [Effect.isConcluding]

/-! ## §2 Returning -/

/-- What a reducer returns when no further outcome is to come. -/
def resultOf (b : Batch) (goal : Goal) (progress : Progress) (interrupted : Bool) : Reduction :=
  match goal with
  | .drain =>
    if progress.errors.isEmpty then .passed else b.concludeErrors progress.errors interrupted
  | .first => b.concludeErrors progress.errors interrupted
  | .join => .joined progress.consumed
  | .decide threshold acceptance =>
    .reported (.ofOutcomes threshold acceptance b.size progress.consumed)

/-- Every return closes the batch. -/
theorem finish_eq_close (b : Batch) (goal : Goal) (progress : Progress) (interrupted : Bool) :
    (b.finish goal progress interrupted).1 =
      (b.close (.reduced (b.resultOf goal progress interrupted))).1 := by
  cases goal <;> rfl

theorem finish_concluding (b : Batch) (goal : Goal) (progress : Progress) (interrupted : Bool) :
    ∀ x ∈ (b.finish goal progress interrupted).2, x.isConcluding = true := by
  intro x hx
  cases goal with
  | drain =>
    simp only [finish, conclude, List.mem_cons, List.mem_append, List.not_mem_nil, or_false] at hx
    rcases hx with rfl | hx | rfl
    · rfl
    · exact close_concluding _ _ x hx
    · rfl
  | first | join =>
    simp only [finish, conclude, List.mem_append, List.mem_cons, List.not_mem_nil, or_false] at hx
    rcases hx with hx | rfl
    · exact close_concluding _ _ x hx
    · rfl
  | decide threshold acceptance =>
    simp only [finish, List.mem_append, List.mem_map, List.mem_cons, List.not_mem_nil,
      or_false] at hx
    rcases hx with (hx | ⟨event, _, rfl⟩) | rfl | rfl
    · exact close_concluding _ _ x hx
    · rfl
    · rfl
    · rfl

theorem finish_keeps (b : Batch) (goal : Goal) (progress : Progress) (interrupted : Bool) :
    Keeps b (b.finish goal progress interrupted).1 := by
  rw [finish_eq_close]
  exact close_keeps b _

/-! ## §3 Taking an outcome -/

/-- Whether an outcome counts as a success: the handler's verdict, or without one that there is no
    error. -/
def accepts (b : Batch) (o : Outcome) : Bool := (b.judge o).2.2.isOk

/-- What is accepted is up to the handler alone. -/
theorem accepts_congr (h : after.handler = b.handler) (o : Outcome) :
    after.accepts o = b.accepts o := by
  unfold accepts judge
  rw [h]
  cases b.handler <;> rfl

/-- What is left of a batch that has taken an outcome: either the reducer goes on with the outcome
    added to its progress, or it was after the first success and returns it. -/
inductive Taken (b : Batch) (goal : Goal) (progress : Progress) (o : Outcome) (after : Batch) :
    Prop where
  | goOn {next : Progress} :
      next.consumed = progress.consumed ++ [o] → after.stage = .reducing goal next →
      after.channel = b.channel → Taken b goal progress o after
  | accept :
      goal = .first → b.accepts o = true → after.stage = .reduced (.first o) →
      after.channel = b.channel.close → after.released = true → Taken b goal progress o after

theorem consume_taken (b : Batch) (goal : Goal) (progress : Progress) (o : Outcome) :
    Taken b goal progress o (b.consume goal progress o).1 := by
  cases goal with
  | join | decide _ _ => exact .goOn rfl rfl rfl
  | drain => exact .goOn rfl rfl (judge_channel b o)
  | first =>
    cases hverdict : (b.judge o).2.2 with
    | error e =>
      simp only [consume, hverdict]
      exact .goOn rfl rfl (judge_channel b o)
    | ok u =>
      have haccept : b.accepts o = true := by simp [accepts, hverdict, Except.isOk, Except.toBool]
      -- The first success is returned, and the batch is closed.
      simp only [consume, conclude, hverdict]
      exact .accept rfl haccept rfl (by simp) (by simp)

theorem consume_keeps (b : Batch) (goal : Goal) (progress : Progress) (o : Outcome) :
    Keeps b (b.consume goal progress o).1 := by
  cases goal with
  | join | decide _ _ => exact keeps_stage b _
  | drain => exact (judge_keeps b o).trans (keeps_stage _ _)
  | first =>
    cases hverdict : (b.judge o).2.2 with
    | error e =>
      simp only [consume, hverdict]
      exact (judge_keeps b o).trans (keeps_stage _ _)
    | ok u =>
      simp only [consume, conclude, hverdict]
      exact (judge_keeps b o).trans (close_keeps _ _)

theorem consume_concluding (b : Batch) (goal : Goal) (progress : Progress) (o : Outcome) :
    ∀ x ∈ (b.consume goal progress o).2, x.isConcluding = true := by
  intro x hx
  cases goal with
  | join | decide _ _ => simp [consume] at hx
  | drain => exact judge_concluding b o x hx
  | first =>
    cases hverdict : (b.judge o).2.2 with
    | error e =>
      simp only [consume, hverdict] at hx
      exact judge_concluding b o x hx
    | ok u =>
      simp only [consume, conclude, hverdict, List.mem_append, List.mem_cons, List.not_mem_nil,
        or_false] at hx
      rcases hx with hx | rfl | hx | rfl
      · exact judge_concluding b o x hx
      · rfl
      · exact close_concluding _ _ x hx
      · rfl

/-! ## §4 Turns -/

/-- What a reducer finds, and what it means. -/
theorem next_cases (b : Batch) (c : Clock) (tokens : List String) :
    ((b.next c tokens = .cancelled ∨ b.next c tokens = .expired) ∧
      b.isAlarmed c tokens = true) ∨
    (b.isAlarmed c tokens = false ∧
      ((∃ o rest, b.next c tokens = .outcome o rest ∧ b.channel.receive? = some (o, rest)) ∨
        (b.next c tokens = .pending ∧ b.channel.queue = [] ∧ b.hasLive = true) ∨
        (b.next c tokens = .disconnected ∧ b.channel.queue = [] ∧ b.hasLive = false))) := by
  unfold next isAlarmed
  -- The order of the tests: cancellation, deadline, channel, workers.
  by_cases hcancel : b.isCancelled tokens = true
  · simp [hcancel]
  by_cases hdeadline : c.hasFired b.plan.deadline = true
  · simp [hcancel, hdeadline]
  simp only [hcancel, hdeadline, Channel.receive?]
  cases hqueue : b.channel.queue with
  | nil => by_cases hlive : b.hasLive = true <;> simp [hlive]
  | cons o rest => simp

/-- The turns of a reducer. -/
inductive Turn (c : Clock) (tokens : List String) (b : Batch) :
    Batch → List Effect → Prop where
  /-- There is no reducer, or nothing to take yet. -/
  | idle : Turn c tokens b b []
  /-- Nothing is left to take. -/
  | complete {goal : Goal} {progress : Progress} :
      b.stage = .reducing goal progress → b.size ≤ progress.consumed.length →
      Turn c tokens b (b.finish goal progress false).1 (b.finish goal progress false).2
  /-- Some outcomes will not be taken. -/
  | cutShort {goal : Goal} {progress : Progress} :
      b.stage = .reducing goal progress → progress.consumed.length < b.size →
      b.isAlarmed c tokens = true ∨ b.next c tokens = .disconnected →
      Turn c tokens b (b.finish goal progress true).1
        ((b.nextEvents (b.next c tokens)).map .logged ++ (b.finish goal progress true).2)
  | take {goal : Goal} {progress : Progress} {o : Outcome} {rest : Channel} :
      b.stage = .reducing goal progress → progress.consumed.length < b.size →
      b.isAlarmed c tokens = false → b.channel.receive? = some (o, rest) →
      Turn c tokens b ({ b with channel := rest }.consume goal progress o).1
        (.consumed o :: ({ b with channel := rest }.consume goal progress o).2)

/-- Every poll is a turn. -/
theorem poll_turn (c : Clock) (tokens : List String) (b : Batch) :
    Turn c tokens b (b.poll c tokens).1 (b.poll c tokens).2 := by
  unfold poll
  cases hstage : b.stage with
  | kept | reduced _ | dropped => exact .idle
  | reducing goal progress =>
    -- A reducer that has everything does not look at the channel any more.
    by_cases hdone : b.size ≤ progress.consumed.length
    · simp only [hdone, if_true]
      exact .complete hstage hdone
    have hleft : progress.consumed.length < b.size := Nat.lt_of_not_le hdone
    simp only [hdone, if_false]
    rcases next_cases b c tokens with ⟨hnext | hnext, hstop⟩ | ⟨hcalm, hfound⟩
    · simpa [hnext] using Turn.cutShort hstage hleft (.inl hstop)
    · simpa [hnext] using Turn.cutShort hstage hleft (.inl hstop)
    rcases hfound with ⟨o, rest, hnext, hreceive⟩ | ⟨hnext, _⟩ | ⟨hnext, _⟩
    · simpa [hnext, hstage] using Turn.take hstage hleft hcalm hreceive
    · simpa [hnext] using Turn.idle
    · have h : Turn c tokens b _ _ := .cutShort hstage hleft (.inr hnext)
      simpa [hnext] using h

theorem Turn.keeps {effects : List Effect} (h : Turn c tokens b after effects) :
    Keeps b after := by
  cases h with
  | idle => exact .refl b
  | complete _ _ => exact finish_keeps b _ _ _
  | cutShort _ _ _ => exact finish_keeps b _ _ _
  | @take _ _ o rest _ _ _ hreceive =>
    -- Receiving only shortens the queue.
    have hrest : Keeps b { b with channel := rest } := by
      unfold Channel.receive? at hreceive
      split at hreceive
      · cases hreceive
      · cases hreceive
        exact ⟨rfl, rfl, rfl, rfl, rfl, id, id, id⟩
    exact hrest.trans (consume_keeps _ _ _ _)

theorem poll_keeps (c : Clock) (tokens : List String) (b : Batch) :
    Keeps b (b.poll c tokens).1 :=
  (poll_turn c tokens b).keeps

/-- A turn takes an outcome or it does not; everything else that it does is concluding. -/
theorem Turn.effects_cases {effects : List Effect} (h : Turn c tokens b after effects) :
    (∀ x ∈ effects, x.isConcluding = true) ∨
      ∃ o rest, effects = .consumed o :: rest ∧ ∀ x ∈ rest, x.isConcluding = true := by
  cases h with
  | idle => exact .inl (by simp)
  | complete _ _ => exact .inl (finish_concluding b _ _ _)
  | cutShort _ _ _ =>
    refine .inl fun x hx => ?_
    -- What is told about the interruption is an event like the rest.
    rcases List.mem_append.mp hx with hx | hx
    · obtain ⟨event, _, rfl⟩ := List.mem_map.mp hx
      rfl
    · exact finish_concluding b _ _ _ x hx
  | take _ _ _ _ => exact .inr ⟨_, _, rfl, consume_concluding _ _ _ _⟩

/-! ## §5 Beginning and dropping -/

theorem begin_keeps (b : Batch) (goal : Goal) : Keeps b (b.begin goal) := by
  unfold begin
  split
  · exact keeps_stage b _
  · exact .refl b

theorem drop_keeps (b : Batch) : Keeps b b.drop.1 := by
  unfold drop
  split
  · exact close_keeps b _
  · exact close_keeps b _
  · exact .refl b
  · exact .refl b

theorem drop_concluding (b : Batch) : ∀ x ∈ b.drop.2, x.isConcluding = true := by
  unfold drop
  split
  · exact close_concluding b _
  · exact close_concluding b _
  · simp
  · simp

end Replicast.Batch
