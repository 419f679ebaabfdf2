import Replicast.Batch.Channel
import Replicast.Body.Request
import Replicast.Metrics
import Replicast.Quorum.Report
import Replicast.Time.Instant
import Replicast.Transport.Failure
/-!
# What a batch does

The steps of a batch are described by what they do to the world around it: requests handed to the
transport, pauses, events, outcomes posted.  A history of such records is all that can be seen of a
client at work, its counters included.

## Overview

* `Effect` is one thing done; `Record` says by which batch, for which target and when.
* `Reduction` is what a reducer returns.
* `Metrics.ofHistory` counts a history.
-/

namespace Replicast

/-- What the transport says about a request. -/
inductive Answer where
  | response (head : ResponseHead)
  | failure (f : TransportFailure)
deriving DecidableEq, Repr

/-- What a reducer returns. -/
inductive Reduction where
  /-- Every consumed outcome was a success. -/
  | passed
  | failed (e : AggregateError)
  | first (o : Outcome)
  | joined (outcomes : List Outcome)
  | reported (r : QuorumReport)
deriving DecidableEq, Repr

/-- Things that are counted as they happen. -/
inductive Counter where
  | attempt
  | retry
  | backoff
  | transportError
deriving DecidableEq, Repr

/-- One thing that a batch does. -/
inductive Effect where
  /-- The batch began, for a number of targets. -/
  | dispatched (targets : Nat)
  /-- The interceptor was shown a request. -/
  | consulted (head : RequestHead)
  /-- The body was asked for a copy. -/
  | opened
  /-- The request of a target could not be built. -/
  | buildFailed (e : Error)
  /-- A worker was started; its events stand under these fields. -/
  | spawned (fields : Log.Fields)
  | entered
  | left
  | counted (c : Counter)
  /-- A request was handed to the transport. -/
  | sent (head : RequestHead) (body : Stream)
  /-- The transport's answer reached the worker. -/
  | answered (a : Answer)
  /-- The worker asked the clock for a pause. -/
  | paused (d : Duration)
  /-- A worker has its outcome. -/
  | recorded (o : Outcome)
  /-- An outcome was posted to the channel. -/
  | posted (o : Outcome) (p : Channel.Posting)
  /-- The reducer took an outcome from the channel. -/
  | consumed (o : Outcome)
  /-- The response handler was asked about the outcome of a target; what it said, and what its
      request to cancel came to if it made one. -/
  | judged (index : Nat) (accepted : Bool) (cancel : Option Bool)
  /-- A handle was told to cancel; whether this released the batch. -/
  | cancelled (effective : Bool)
  /-- A replicated operation was decided. -/
  | decided (met : Bool)
  | returned (r : Reduction)
  | logged (e : Log.Event)
deriving DecidableEq, Repr

/-- An effect with its circumstances. -/
structure Record where
  batch : Nat
  /-- The position of the target in the batch, when the effect belongs to one. -/
  position : Option Nat
  time : Instant
  effect : Effect
deriving DecidableEq, Repr

/-- Records in the order in which they came about. -/
abbrev History := List Record

namespace Metrics

/-- Count one effect. -/
def count (m : Metrics) : Effect → Metrics
  | .dispatched targets => m.recordBatch targets
  | .buildFailed e => m.recordBuildFailure e
  | .entered => m.enter
  | .left => m.leave
  | .counted .attempt => m.recordAttempt
  | .counted .retry => m.recordRetry
  | .counted .backoff => m.recordBackoff
  | .counted .transportError => m.recordTransportError
  | .recorded o => m.recordOutcome o
  | .decided met => m.recordQuorum met
  | _ => m

def ofHistory (h : History) : Metrics :=
  h.foldl (fun m r => m.count r.effect) zero

end Metrics

end Replicast
