import Replicast.Log
import Replicast.Outcome.Basic
import Replicast.Quorum.Threshold
/-!
# Quorum reports

The verdict over the outcomes of a replicated operation.

## Overview

* `Acceptance` decides whether one replica accepted; `Acceptance.ofStatuses` accepts by status.
* `QuorumReport.ofOutcomes` reads the verdict off the outcomes that were joined, in the order of
  their target indices.
* `QuorumReport.events` is what is told about it.
-/

namespace Replicast

/-- Decides whether one replica accepted the operation. -/
abbrev Acceptance := Outcome → Bool

namespace Acceptance

/-- Accept outcomes without an error whose status is one of a list. -/
def ofStatuses (statuses : List Status) : Acceptance := fun o =>
  o.error.isNone && o.status?.any statuses.contains

def ok : Acceptance := ofStatuses [Status.ok]

end Acceptance

/-- The verdict of a replicated operation and the outcomes behind it. -/
structure QuorumReport where
  tally : Tally
  replicas : Nat
  /-- The target indices of the replicas that accepted. -/
  accepted : List Nat
  outcomes : List Outcome
deriving DecidableEq, Repr

namespace QuorumReport

/-! ## §1 The verdict -/

/-- The outcomes in the order of their target indices; those of one index keep their order. -/
def inOrder (outcomes : List Outcome) : List Outcome :=
  outcomes.mergeSort fun a b => a.target.index ≤ b.target.index

/-- Read the verdict off the outcomes that were joined. -/
def ofOutcomes (threshold : Threshold) (acceptance : Acceptance) (replicas : Nat)
    (joined : List Outcome) : QuorumReport :=
  let outcomes := inOrder joined
  { tally := (Tally.start (threshold.requiredFor replicas)).recordAll (outcomes.map acceptance)
    replicas
    accepted := (outcomes.filter acceptance).map (·.target.index)
    outcomes }

def isMet (r : QuorumReport) : Bool := r.tally.isMet

/-! ## §2 What is told about it -/

def statusField (o : Outcome) : Log.Fields :=
  Log.optional "status" (o.statusCode?.map .nat)

def replicaEvent (acceptance : Acceptance) (o : Outcome) : Log.Event :=
  if acceptance o then
    Log.debug "replica accepted" (("index", .nat o.target.index) :: statusField o)
  else
    Log.warn "replica did not accept"
      ([("index", .nat o.target.index), ("base_url", .text o.target.baseUrl)] ++ statusField o
        ++ Log.optional "error" (o.error.map fun e => .text e.message))

/-- The event of a join that was cut short. -/
def interruptionEvent (r : QuorumReport) : List Log.Event :=
  if r.outcomes.length < r.replicas then
    [Log.warn "replicated operation interrupted before every replica reported"
      [("received", .nat r.outcomes.length), ("replicas", .nat r.replicas)]]
  else []

def verdictEvent (r : QuorumReport) : Log.Event :=
  let fields : Log.Fields :=
    [("achieved", .nat r.tally.achieved), ("required", .nat r.tally.required),
      ("replicas", .nat r.replicas)]
  if r.isMet then Log.info "quorum met" fields else Log.warn "quorum not met" fields

/-- Everything that is told about a report, in order. -/
def events (r : QuorumReport) (acceptance : Acceptance) : List Log.Event :=
  r.outcomes.map (replicaEvent acceptance) ++ r.interruptionEvent ++ [r.verdictEvent]

end QuorumReport

end Replicast
