import Replicast.Batch.Effect
/-!
# Looking at a history

## Overview

* `History.loose` are the events outside any target, and `History.spans` those of each worker under
  the fields that describe it.
* `History.verdicts` are the answers of handlers, and `History.pauses` the pauses asked for.
-/

namespace Replicast.History

/-- The events outside any target, in order. -/
def loose (h : History) : List Log.Event :=
  h.filterMap fun r =>
    match r.position, r.effect with
    | none, .logged e => some e
    | _, _ => none

/-- The events of one worker, in order. -/
def eventsAt (h : History) (batch position : Nat) : List Log.Event :=
  h.filterMap fun r =>
    match r.effect with
    | .logged e => if r.batch == batch && r.position == some position then some e else none
    | _ => none

/-- The workers in the order in which they were started: what describes each of them, and its
    events. -/
def spans (h : History) : List (Log.Fields × List Log.Event) :=
  h.filterMap fun r =>
    match r.position, r.effect with
    | some position, .spawned fields => some (fields, eventsAt h r.batch position)
    | _, _ => none

/-- An answer of a handler. -/
structure Verdict where
  batch : Nat
  index : Nat
  accepted : Bool
  /-- What a request to cancel came to, if there was one. -/
  cancel : Option Bool
deriving DecidableEq, Repr

/-- What handlers answered, in order. -/
def verdicts (h : History) : List Verdict :=
  h.filterMap fun r =>
    match r.effect with
    | .judged index accepted cancel => some ⟨r.batch, index, accepted, cancel⟩
    | _ => none

/-- The pauses that workers asked for, in order. -/
def pauses (h : History) : List Duration :=
  h.filterMap fun r =>
    match r.effect with
    | .paused d => some d
    | _ => none

end Replicast.History
