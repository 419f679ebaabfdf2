import Replicast.Batch.Effect
/-!
# Scripted servers

A server that answers the requests to one authority from a list of steps.

## Overview

* `Script.Step` is the answer to one request, after a delay.
* `Script.step` is the step that a request takes, by the number of requests before it: the last step
  repeats, and without steps every request is answered with 200.
-/

namespace Replicast

/-- What a server does with a request. -/
inductive Script.Act where
  /-- It never answers. -/
  | hang
  /-- It brings the worker down. -/
  | panic
  | fail (f : TransportFailure)
  | respond (head : ResponseHead) (body : Stream)
deriving DecidableEq, Repr

/-- The answer to one request. -/
structure Script.Step where
  /-- Milliseconds before the server does anything. -/
  delay : Nat
  act : Script.Act
deriving DecidableEq, Repr

/-- The answers to the requests to one authority, in order. -/
abbrev Script := List Script.Step

namespace Script

/-- The body of a response that says nothing else. -/
def plainBody (s : Status) : Stream :=
  [.data (Utf8.ofString ("status " ++ toString s.code))]

/-- A 200 at once. -/
def Step.ok : Step :=
  ⟨0, .respond ⟨Status.ok, .http11, Header.Map.empty⟩ (plainBody Status.ok)⟩

/-- The step that a request takes, by the number of requests before it. -/
def step (s : Script) (before : Nat) : Step :=
  (s[before]?.orElse fun _ => s.getLast?).getD Step.ok

end Script

end Replicast
