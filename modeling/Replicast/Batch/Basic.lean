import Replicast.Batch.Worker
/-!
# Batches

All targets of one operation, on their way together.

## Overview

* `Batch` holds one worker per target, the channel, and how far the batch has been reduced.
* `Batch.release` is the one thing that every clone of a batch's handle shares: only the first
  call takes effect.
* `Batch.signal` lets a signal reach one worker and posts the outcome it may leave behind.
-/

namespace Replicast

/-! ## §1 State -/

/-- What a reducer is after. -/
inductive Goal where
  /-- Every outcome through the handler, for the failures. -/
  | drain
  /-- The first outcome that the handler accepts. -/
  | first
  /-- Every outcome as it is. -/
  | join
  /-- The verdict of a replicated operation. -/
  | decide (threshold : Threshold) (acceptance : Acceptance)

/-- How far a reducer has come. -/
structure Progress where
  /-- The outcomes taken from the channel, in order. -/
  consumed : List Outcome
  /-- The failures among them, in order. -/
  errors : List Error
deriving DecidableEq, Repr

def Progress.start : Progress := ⟨[], []⟩

/-- The life of a batch. -/
inductive Stage where
  /-- Dispatched, and not yet reduced. -/
  | kept
  | reducing (goal : Goal) (progress : Progress)
  | reduced (r : Reduction)
  | dropped

/-- All targets of one operation. -/
structure Batch where
  plan : Plan
  /-- The token whose cancellation cancels the batch. -/
  parent : Option String
  handler : Option Handler
  /-- Whether the batch's own token was cancelled. -/
  cancelled : Bool
  /-- Whether a handle, a reducer or a drop has released the batch. -/
  released : Bool
  /-- One worker per target, in target order. -/
  workers : List Worker
  channel : Channel
  stage : Stage

namespace Batch

def size (b : Batch) : Nat := b.workers.length

def sizeField (b : Batch) : String × Log.Value := ("dispatched", .nat b.size)

/-! ## §2 Cancellation -/

/-- Whether the batch was cancelled, by itself or through its parent token. -/
def isCancelled (b : Batch) (tokens : List String) : Bool :=
  b.cancelled || b.parent.any tokens.contains

/-- Release the batch; whether this call did. -/
def release (b : Batch) : Batch × Bool :=
  if b.released then (b, false) else ({ b with released := true, cancelled := true }, true)

/-- Whether the batch was cancelled or its deadline has come. -/
def isInterrupted (b : Batch) (now : Instant) (tokens : List String) : Bool :=
  b.isCancelled tokens || b.plan.deadline ≤ now

/-- Whether everybody who waits in the batch is woken: it was cancelled, or the timer for its
    deadline has fired. -/
def isAlarmed (b : Batch) (c : Clock) (tokens : List String) : Bool :=
  b.isCancelled tokens || c.hasFired b.plan.deadline

/-! ## §3 Workers -/

def post (b : Batch) (o : Outcome) : Batch × List Effect :=
  ({ b with channel := b.channel.post o }, [.posted o b.channel.posting])

def postAny (b : Batch) : Option Outcome → Batch × List Effect
  | none => (b, [])
  | some o => b.post o

/-- Let a signal reach the worker at a position. -/
def signal (b : Batch) (c : Clock) (tokens : List String) (openings position : Nat)
    (s : Signal) : Batch × List Effect :=
  match b.workers[position]? with
  | none => (b, [])
  | some w =>
    let stop := w.interruption b.plan c (b.isCancelled tokens)
    let m := w.step b.plan stop openings s
    let (b, posted) := { b with workers := b.workers.set position m.worker }.postAny m.outcome
    (b, m.effects ++ posted)

/-- Whether any worker has yet to post. -/
def hasLive (b : Batch) : Bool :=
  b.workers.any Worker.isLive

end Batch

end Replicast
