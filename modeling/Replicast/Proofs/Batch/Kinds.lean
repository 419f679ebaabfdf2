import Replicast.Batch.Effect
/-!
# Kinds of effects

Which effects post an outcome, which take one from the channel, and which effects workers and
reducers leave to others.

## Overview

* `Effect.posted?` and `Effect.consumed?` are the outcomes that enter and leave the channel.
* `Effect.isOwn` are the effects of a worker before its outcome is posted.
* `Effect.isConcluding` are the effects of judging outcomes and of returning, and
  `Effect.isDispatching` those of the dispatch.
* `Effect.isStart` are the effects that begin further work: requests and copies of their bodies,
  and pauses.
-/

namespace Replicast.Effect

variable {x : Effect}

/-- The outcome that an effect posts. -/
def posted? : Effect → Option Outcome
  | .posted o _ => some o
  | _ => none

/-- The outcome that an effect takes from the channel. -/
def consumed? : Effect → Option Outcome
  | .consumed o => some o
  | _ => none

/-- Whether an effect is a post that found no room. -/
def isOverflow : Effect → Bool
  | .posted _ .full => true
  | _ => false

/-- The effects of a worker before its outcome is posted. -/
def isOwn : Effect → Bool
  | .opened | .entered | .left | .counted _ | .sent _ _ | .answered _ | .paused _ | .recorded _
  | .logged _ => true
  | _ => false

/-- The effects of judging an outcome and of returning. -/
def isConcluding : Effect → Bool
  | .judged _ _ _ | .cancelled _ | .decided _ | .returned _ | .logged _ => true
  | _ => false

/-- The effects of dispatching a batch: the only outcomes are those of targets whose request could
    not be built, and the channel has room for them. -/
def isDispatching : Effect → Bool
  | .dispatched _ | .consulted _ | .opened | .buildFailed _ | .spawned _ | .posted _ .delivered
  | .logged _ => true
  | _ => false

/-- Whether a request was handed to the transport. -/
def isRequest : Effect → Bool
  | .sent _ _ => true
  | _ => false

/-- Whether the clock was asked for a pause. -/
def isPause : Effect → Bool
  | .paused _ => true
  | _ => false

/-- What an attempt consists of: a copy of the body, and a request. -/
def isAttempt : Effect → Bool
  | .opened | .sent _ _ => true
  | _ => false

/-- The effects that begin further work. -/
def isStart : Effect → Bool
  | .opened | .sent _ _ | .paused _ => true
  | _ => false

/-- Whether an effect is a call of a handle. -/
def isCancellation : Effect → Bool
  | .cancelled _ => true
  | _ => false

theorem posted?_eq_some {o : Outcome} : x.posted? = some o ↔ ∃ p, x = .posted o p := by
  cases x <;> simp [posted?]

theorem posted?_of_isOwn (h : x.isOwn = true) : x.posted? = none := by
  cases x <;> first | rfl | cases h

theorem consumed?_of_isOwn (h : x.isOwn = true) : x.consumed? = none := by
  cases x <;> first | rfl | cases h

theorem isOverflow_of_isOwn (h : x.isOwn = true) : x.isOverflow = false := by
  cases x <;> first | rfl | cases h

theorem posted?_of_isConcluding (h : x.isConcluding = true) : x.posted? = none := by
  cases x <;> first | rfl | cases h

theorem consumed?_of_isConcluding (h : x.isConcluding = true) : x.consumed? = none := by
  cases x <;> first | rfl | cases h

theorem isOverflow_of_isConcluding (h : x.isConcluding = true) : x.isOverflow = false := by
  cases x <;> first | rfl | cases h

theorem isStart_eq_false : x.isStart = false ↔ x.isAttempt = false ∧ x.isPause = false := by
  cases x <;> simp [isStart, isAttempt, isPause]

theorem isStart_of_isConcluding (h : x.isConcluding = true) : x.isStart = false := by
  cases x <;> first | rfl | cases h

theorem isCancellation_of_isOwn (h : x.isOwn = true) : x.isCancellation = false := by
  cases x <;> first | rfl | cases h

theorem isCancellation_of_isDispatching (h : x.isDispatching = true) :
    x.isCancellation = false := by
  cases x <;> first | rfl | cases h

theorem isOverflow_of_isDispatching (h : x.isDispatching = true) : x.isOverflow = false := by
  cases x with
  | posted o p => cases p <;> first | rfl | cases h
  | _ => rfl

end Replicast.Effect
