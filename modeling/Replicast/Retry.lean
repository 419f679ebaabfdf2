import Replicast.Http.Status
import Replicast.Time.Duration
/-!
# Retry policies

How often a target is tried, and how long it is left alone after a rate-limited response.

## Overview

* `RetryPolicy` bounds the attempts per target, the first one included.
* `RetryPolicy.backoffAfter` is the pause a status asks for: only 429 asks for one, and the pause
  never grows.
-/

namespace Replicast

/-- Bounded attempts with a fixed pause after a rate-limited response. -/
structure RetryPolicy where
  /-- Attempts per target, the first one included. -/
  maxAttempts : Nat
  /-- The pause after a 429. -/
  rateLimitBackoff : Duration
deriving DecidableEq, Repr

namespace RetryPolicy

/-- One attempt only. -/
def disabled : RetryPolicy := ⟨1, Duration.ofSeconds 1⟩

/-- Three attempts, and a pause of one second. -/
def standard : RetryPolicy := ⟨3, Duration.ofSeconds 1⟩

/-- Set the bound on attempts; at least one attempt is always made. -/
def withMaxAttempts (p : RetryPolicy) (n : Nat) : RetryPolicy :=
  { p with maxAttempts := Nat.max n 1 }

def withBackoff (p : RetryPolicy) (d : Duration) : RetryPolicy :=
  { p with rateLimitBackoff := d }

/-- The pause that a status asks for before the next attempt. -/
def backoffAfter (p : RetryPolicy) (status : Status) : Option Duration :=
  if status == Status.tooManyRequests then some p.rateLimitBackoff else none

def describe (p : RetryPolicy) : String :=
  "RetryPolicy \x7b max_attempts: " ++ toString p.maxAttempts ++ ", rate_limit_backoff: "
    ++ p.rateLimitBackoff.text ++ " \x7d"

end RetryPolicy

end Replicast
