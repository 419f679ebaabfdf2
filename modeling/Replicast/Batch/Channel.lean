import Replicast.Outcome.Basic
/-!
# The channel of a batch

Outcomes wait in a channel until the batch is reduced.  The channel has room for one outcome per
target, and for one at least.

## Overview

* `Channel.post` puts an outcome at the end, unless the channel is full or nobody reads it any more.
* `Channel.receive?` takes the first outcome.
-/

namespace Replicast

/-- Outcomes on their way to the reducer. -/
structure Channel where
  capacity : Nat
  queue : List Outcome
  /-- Whether there is still a reader. -/
  isOpen : Bool
deriving DecidableEq, Repr

namespace Channel

/-- What became of a post. -/
inductive Posting where
  | delivered
  | full
  /-- There was no reader. -/
  | unread
deriving DecidableEq, Repr

def forTargets (targets : Nat) : Channel := ⟨Nat.max targets 1, [], true⟩

def posting (c : Channel) : Posting :=
  if !c.isOpen then .unread
  else if c.queue.length < c.capacity then .delivered
  else .full

def post (c : Channel) (o : Outcome) : Channel :=
  match c.posting with
  | .delivered => { c with queue := c.queue ++ [o] }
  | _ => c

def receive? (c : Channel) : Option (Outcome × Channel) :=
  match c.queue with
  | [] => none
  | o :: rest => some (o, { c with queue := rest })

/-- Stop reading: what is still there is lost. -/
def close (c : Channel) : Channel := { c with queue := [], isOpen := false }

end Channel

end Replicast
