import Replicast.Outcome.Basic
/-!
# Counters

What a client counts while it works.

## Overview

* `Metrics` holds the counters; each `record…` is one thing counted.
* `Metrics.bump` adds one under a key of a sorted table.
* `Metrics.shown` is what a client reports: nothing at all when it was told not to count.
-/

namespace Replicast

/-- The counters of a client. -/
structure Metrics where
  batchesDispatched : Nat
  targetsDispatched : Nat
  buildFailures : Nat
  attempts : Nat
  retries : Nat
  rateLimitBackoffs : Nat
  transportErrors : Nat
  outcomesDelivered : Nat
  outcomesSucceeded : Nat
  /-- Workers that have begun and not yet ended. -/
  inFlight : Int
  quorumsMet : Nat
  quorumsMissed : Nat
  latencySamples : Nat
  /-- Outcomes by status, in the order of the statuses. -/
  statusCounts : List (Nat × Nat)
  /-- Errors by the word of their code, in the order of the words. -/
  errorCounts : List (String × Nat)
deriving DecidableEq, Repr

namespace Metrics

def zero : Metrics := ⟨0, 0, 0, 0, 0, 0, 0, 0, 0, 0, 0, 0, 0, [], []⟩

/-! ## §1 Tables -/

/-- Add one under a key of a table sorted by key. -/
def bump {α : Type} [LT α] [DecidableLT α] [DecidableEq α] (key : α) :
    List (α × Nat) → List (α × Nat)
  | [] => [(key, 1)]
  | (k, n) :: rest =>
    if key = k then (k, n + 1) :: rest
    else if key < k then (key, 1) :: (k, n) :: rest
    else (k, n) :: bump key rest

/-- The sum of the counts of a table. -/
def total {α : Type} (table : List (α × Nat)) : Nat :=
  table.foldl (fun sum entry => sum + entry.2) 0

/-! ## §2 Counting -/

def recordBatch (m : Metrics) (targets : Nat) : Metrics :=
  { m with
    batchesDispatched := m.batchesDispatched + 1
    targetsDispatched := m.targetsDispatched + targets }

def recordError (m : Metrics) (e : Error) : Metrics :=
  { m with errorCounts := bump e.code.word m.errorCounts }

def recordBuildFailure (m : Metrics) (e : Error) : Metrics :=
  { m.recordError e with buildFailures := m.buildFailures + 1 }

def enter (m : Metrics) : Metrics := { m with inFlight := m.inFlight + 1 }

def leave (m : Metrics) : Metrics := { m with inFlight := m.inFlight - 1 }

/-- A request is about to be sent. -/
def recordAttempt (m : Metrics) : Metrics := { m with attempts := m.attempts + 1 }

/-- An attempt failed and another one will follow. -/
def recordRetry (m : Metrics) : Metrics := { m with retries := m.retries + 1 }

def recordBackoff (m : Metrics) : Metrics :=
  { m with rateLimitBackoffs := m.rateLimitBackoffs + 1 }

def recordTransportError (m : Metrics) : Metrics :=
  { m with transportErrors := m.transportErrors + 1 }

def recordStatus (m : Metrics) (s : Status) : Metrics :=
  { m with statusCounts := bump s.code m.statusCounts }

def recordOutcome (m : Metrics) (o : Outcome) : Metrics :=
  let m := { m with
    outcomesDelivered := m.outcomesDelivered + 1
    latencySamples := m.latencySamples + 1
    outcomesSucceeded := m.outcomesSucceeded + o.isSuccess.toNat }
  let m := o.status?.elim m m.recordStatus
  o.error.elim m m.recordError

def recordQuorum (m : Metrics) (met : Bool) : Metrics :=
  if met then { m with quorumsMet := m.quorumsMet + 1 }
  else { m with quorumsMissed := m.quorumsMissed + 1 }

/-! ## §3 Reports -/

/-- What a client reports of its counters. -/
def shown (m : Metrics) (enabled : Bool) : Metrics :=
  if enabled then m else zero

end Metrics

end Replicast
