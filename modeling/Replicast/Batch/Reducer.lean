import Replicast.Batch.Basic
/-!
# Reducing a batch

A reducer takes outcomes from the channel until it has what it is after, or the batch is
interrupted.

## Overview

* `Batch.next` is what a reducer finds: an interruption before an outcome, and a cancellation before
  the deadline, for which it waits by a timer.
* `Batch.judge` puts an outcome to the handler; without one, an outcome with an error is a failure.
* `Batch.poll` is one turn of a reducer.
* `Batch.close` ends a batch: whoever reduces or drops it releases it.
-/

namespace Replicast

/-- What a reducer finds. -/
inductive Next where
  | outcome (o : Outcome) (rest : Channel)
  | cancelled
  | expired
  /-- Nobody is left who could post. -/
  | disconnected
  | pending
deriving DecidableEq, Repr

namespace Batch

/-! ## §1 Finding an outcome -/

def next (b : Batch) (c : Clock) (tokens : List String) : Next :=
  if b.isCancelled tokens then .cancelled
  else if c.hasFired b.plan.deadline then .expired
  else
    match b.channel.receive? with
    | some (o, rest) => .outcome o rest
    | none => if b.hasLive then .pending else .disconnected

/-- What is told about an interruption. -/
def nextEvents (b : Batch) : Next → List Log.Event
  | .expired => [Log.debug "batch deadline reached" [b.sizeField]]
  | .disconnected =>
    [Log.warn "result channel closed before every outcome arrived" [b.sizeField]]
  | _ => []

/-! ## §2 Judging an outcome -/

/-- Put an outcome to the handler, which may cancel the batch. -/
def judge (b : Batch) (o : Outcome) : Batch × List Effect × Except Error Unit :=
  match b.handler with
  | none => (b, [], o.error.elim (.ok ()) .error)
  | some handler =>
    let judgement := handler o
    let (after, effective) := if judgement.cancels then b.release else (b, false)
    let told : List Effect := if judgement.cancels then [.cancelled effective] else []
    let cancel := if judgement.cancels then some effective else none
    (after, told ++ [.judged o.target.index judgement.verdict.isOk cancel], judgement.verdict)

/-! ## §3 Ends -/

/-- Release the batch if it was not yet, and stop reading its channel. -/
def close (b : Batch) (stage : Stage) : Batch × List Effect :=
  let (after, effective) := b.release
  ({ after with stage, channel := b.channel.close },
    if effective then [.logged (Log.debug "batch released" [b.sizeField])] else [])

def conclude (b : Batch) (r : Reduction) : Batch × List Effect :=
  let (b, effects) := b.close (.reduced r)
  (b, effects ++ [.returned r])

/-- Return the failures, or nothing if there are none and none are needed. -/
def concludeErrors (b : Batch) (errors : List Error) (interrupted : Bool) : Reduction :=
  .failed ⟨errors, b.size, interrupted⟩

/-- Return what a reducer has when no further outcome is to come. -/
def finish (b : Batch) (goal : Goal) (progress : Progress) (interrupted : Bool) :
    Batch × List Effect :=
  match goal with
  | .drain =>
    let event := Log.debug "batch drained"
      [("received", .nat progress.consumed.length), b.sizeField,
        ("failed", .nat progress.errors.length), ("interrupted", .bool interrupted)]
    let result :=
      if progress.errors.isEmpty then Reduction.passed
      else b.concludeErrors progress.errors interrupted
    let (b, effects) := b.conclude result
    (b, .logged event :: effects)
  | .first => b.conclude (b.concludeErrors progress.errors interrupted)
  | .join => b.conclude (.joined progress.consumed)
  | .decide threshold acceptance =>
    let report := QuorumReport.ofOutcomes threshold acceptance b.size progress.consumed
    let (b, effects) := b.close (.reduced (.reported report))
    (b, effects ++ (report.events acceptance).map .logged
      ++ [.decided report.isMet, .returned (.reported report)])

/-! ## §4 Turns -/

/-- Take an outcome towards a goal. -/
def consume (b : Batch) (goal : Goal) (progress : Progress) (o : Outcome) :
    Batch × List Effect :=
  let consumed := progress.consumed ++ [o]
  match goal with
  | .join | .decide _ _ => ({ b with stage := .reducing goal { progress with consumed } }, [])
  | .drain =>
    let (b, effects, verdict) := b.judge o
    let errors := match verdict with
      | .ok () => progress.errors
      | .error e => progress.errors ++ [e]
    ({ b with stage := .reducing goal ⟨consumed, errors⟩ }, effects)
  | .first =>
    let (b, effects, verdict) := b.judge o
    match verdict with
    | .error e => ({ b with stage := .reducing goal ⟨consumed, progress.errors ++ [e]⟩ }, effects)
    | .ok () =>
      let event := Log.debug "first accepted outcome"
        [("index", .nat o.target.index), ("received", .nat consumed.length), b.sizeField]
      let (b, ending) := b.conclude (.first o)
      (b, effects ++ .logged event :: ending)

/-- One turn of a reducer: return if nothing is left to consume, and consume an outcome otherwise,
    unless the batch is interrupted or there is nothing to consume yet. -/
def poll (b : Batch) (c : Clock) (tokens : List String) : Batch × List Effect :=
  match b.stage with
  | .reducing goal progress =>
    if b.size ≤ progress.consumed.length then b.finish goal progress false
    else
      let next := b.next c tokens
      match next with
      | .pending => (b, [])
      | .outcome o rest =>
        let (b, effects) := { b with channel := rest }.consume goal progress o
        (b, .consumed o :: effects)
      | .cancelled | .expired | .disconnected =>
        let (after, effects) := b.finish goal progress true
        (after, (b.nextEvents next).map .logged ++ effects)
  | _ => (b, [])

def begin (b : Batch) (goal : Goal) : Batch :=
  match b.stage with
  | .kept => { b with stage := .reducing goal Progress.start }
  | _ => b

def drop (b : Batch) : Batch × List Effect :=
  match b.stage with
  | .kept | .reducing _ _ => b.close .dropped
  | .reduced _ | .dropped => (b, [])

end Batch

end Replicast
