/-!
# Quorum thresholds

How many replicas must accept an operation, and the tally that counts them.

## Overview

* `Threshold.requiredFor` turns a threshold into a number of acceptances for a replica count.
* `Tally` counts acceptances; it is met once the count reaches the number required.
-/

namespace Replicast

/-- How many acceptances a replicated operation needs. -/
inductive Threshold where
  /-- A fixed number of replicas, however many there are. -/
  | atLeast (replicas : Nat)
  /-- More than half of the replicas. -/
  | majority
  | all
deriving DecidableEq, Repr

namespace Threshold

/-- The acceptances needed among a number of replicas. -/
def requiredFor : Threshold → Nat → Nat
  | atLeast n, _ => n
  | majority, replicas => replicas / 2 + 1
  | all, replicas => replicas

def describe : Threshold → String
  | atLeast n => "AtLeast(" ++ toString n ++ ")"
  | majority => "Majority"
  | all => "All"

end Threshold

/-- A running count of acceptances. -/
structure Tally where
  achieved : Nat
  required : Nat
deriving DecidableEq, Repr

namespace Tally

def start (required : Nat) : Tally := ⟨0, required⟩

/-- Count one replica's answer. -/
def record (t : Tally) (accepted : Bool) : Tally :=
  if accepted then { t with achieved := t.achieved + 1 } else t

def isMet (t : Tally) : Bool :=
  t.required ≤ t.achieved

/-- The tally after a list of answers. -/
def recordAll (t : Tally) (votes : List Bool) : Tally :=
  votes.foldl record t

/-- The tallies after each of a list of answers, the first one before any. -/
def history (t : Tally) : List Bool → List Tally
  | [] => [t]
  | vote :: votes => t :: history (t.record vote) votes

@[simp] theorem record_required (t : Tally) (accepted : Bool) :
    (t.record accepted).required = t.required := by
  cases accepted <;> rfl

@[simp] theorem record_achieved (t : Tally) (accepted : Bool) :
    (t.record accepted).achieved = t.achieved + accepted.toNat := by
  cases accepted <;> rfl

end Tally

end Replicast
