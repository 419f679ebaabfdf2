import Replicast.Batch.Effect
import Replicast.Body.Bounded
import Replicast.Operation
import Replicast.Time.Clock
/-!
# Workers

A worker carries one target of a batch from its first attempt to its outcome.

## Overview

* `Plan` is what all workers of a batch share.
* `Phase` is where a worker stands, and `Signal` is what can reach it there.
* `Worker.interruption` is why a worker must stop, if it must.  Before an attempt it reads the clock;
  wherever it waits, it waits for the timer of the deadline as well.
* `Worker.step` is the worker's move on a signal.  Wherever a worker may have been waiting, it first
  looks whether the batch was interrupted, and ends if so.
-/

namespace Replicast

/-! ## §1 Plans -/

/-- What all workers of a batch share. -/
structure Plan where
  body : RequestBody
  retryPolicy : RetryPolicy
  maxResponseBodyBytes : Nat
  timeout : Duration
  deadline : Instant

/-- Whether later attempts with a head send the body again. -/
def Plan.replays (p : Plan) (head : RequestHead) : Bool :=
  head.method.replaysBody && !p.body.isEmpty

/-- What a worker that is interrupted reports at an instant: the deadline, if it has come by then, and
    a cancellation otherwise. -/
def Plan.interruptionError (p : Plan) (now : Instant) (head : RequestHead) : Error :=
  if p.deadline ≤ now then
    .deadlineExceeded p.timeout.millis head.method head.redactedUri
  else .cancelled head.method head.redactedUri

/-! ## §2 Workers -/

/-- Where a worker stands. -/
inductive Phase where
  /-- The target's request could not be built: there is no worker. -/
  | unbuilt
  /-- Started, but it did not have its turn yet. -/
  | queued
  | ready
  /-- The transport has the request. -/
  | sending
  /-- Between attempts, after a rate-limited response. -/
  | pausing
  /-- Reading the body of the final response. -/
  | reading (head : ResponseHead) (reader : BoundedReader)
  | finished
  /-- Torn down by a panic. -/
  | aborted
deriving DecidableEq, Repr

/-- What can reach a worker. -/
inductive Signal where
  /-- Its turn, with nothing new. -/
  | turn
  | answer (a : Answer)
  | pauseOver
  | frame (f : Frame)
  | bodyEnd
  /-- Whatever it was waiting for panicked. -/
  | panic
deriving DecidableEq, Repr

/-- The worker of one target. -/
structure Worker where
  target : Target
  request : RequestHead
  /-- The copy of the body that was opened when the request was built, until it is sent. -/
  initial : Option Stream
  /-- Attempts begun. -/
  attempts : Nat
  phase : Phase
deriving DecidableEq, Repr

/-- A worker after a step, what it did, and the outcome it leaves behind if it ended. -/
structure Worker.Move where
  worker : Worker
  effects : List Effect
  outcome : Option Outcome
deriving DecidableEq, Repr

namespace Worker

/-- Whether the worker has yet to post its outcome. -/
def isLive (w : Worker) : Bool :=
  match w.phase with
  | .unbuilt | .finished | .aborted => false
  | _ => true

def stay (w : Worker) : Move := ⟨w, [], none⟩

/-- Whether a worker finds that the deadline has passed.  Before an attempt the clock says so, and
    elsewhere the timer. -/
def isLate (w : Worker) (p : Plan) (c : Clock) : Bool :=
  match w.phase with
  | .ready => p.deadline ≤ c.now
  | _ => c.hasFired p.deadline

/-- Nobody finds the deadline passed before it has come. -/
theorem deadline_le_of_isLate {w : Worker} {p : Plan} {c : Clock} (h : w.isLate p c = true) :
    p.deadline ≤ c.now := by
  unfold isLate at h
  split at h
  · simpa using h
  · exact Clock.le_now_of_hasFired h

/-- When the timer has fired, everybody finds the deadline passed. -/
theorem isLate_of_hasFired {p : Plan} {c : Clock} (h : c.hasFired p.deadline = true) (w : Worker) :
    w.isLate p c = true := by
  unfold isLate
  split
  · simpa using Clock.le_now_of_hasFired h
  · exact h

/-- Why a worker must stop, if it must. -/
def interruption (w : Worker) (p : Plan) (c : Clock) (cancelled : Bool) : Option Error :=
  if cancelled || w.isLate p c then some (p.interruptionError c.now w.request) else none

/-! ## §3 Ends -/

def finish (w : Worker) (event : List Log.Event) (o : Outcome) : Move :=
  ⟨{ w with phase := .finished }, event.map .logged ++ [.recorded o, .left], some o⟩

def fail (w : Worker) (e : Error) : Move :=
  w.finish
    [Log.debug "request failed" [("attempts", .nat w.attempts), ("error", .text e.message)]]
    ⟨w.target, w.request, none, [], some e, w.attempts⟩

/-- End after the head of a response, without its body. -/
def failReading (w : Worker) (head : ResponseHead) (e : Error) : Move :=
  w.finish [Log.warn "failed to read response body" [("error", .text e.message)]]
    ⟨w.target, w.request, some head, [], some e, w.attempts⟩

def succeed (w : Worker) (head : ResponseHead) (body : Bytes) : Move :=
  w.finish [] ⟨w.target, w.request, some head, body, none, w.attempts⟩

/-- Torn down: the outcome says only that. -/
def abort (w : Worker) : Move :=
  ⟨{ w with phase := .aborted }, [.left],
    some (Outcome.failed w.target w.request
      (.workerAborted w.request.method w.request.redactedUri))⟩

/-! ## §4 Attempts -/

/-- Hand a request to the transport. -/
def send (w : Worker) (p : Plan) (opened : List Effect) (copy : Stream) : Move :=
  ⟨{ w with initial := none, phase := .sending },
    opened ++
      [.logged (Log.debug "sending request"
          [("attempt", .nat w.attempts), ("max_attempts", .nat p.retryPolicy.maxAttempts)]),
        .counted .attempt, .sent w.request.rebuilt copy],
    none⟩

/-- The worker with one more attempt begun. -/
def nextAttempt (w : Worker) : Worker := { w with attempts := w.attempts + 1 }

/-- Begin an attempt.  The first one sends the copy that was opened when the request was built; a
    later one sends a fresh copy if the method replays its body, and nothing otherwise. -/
def attempt (w : Worker) (p : Plan) (openings : Nat) : Move :=
  match w.initial with
  | some copy => w.nextAttempt.send p [] copy
  | none =>
    if p.replays w.request then
      match p.body.openCopy openings with
      | .ok copy => w.nextAttempt.send p [.opened] copy
      | .error cause =>
        let m := w.nextAttempt.fail (.bodyReplay w.request.method w.request.redactedUri cause)
        { m with effects := .opened :: m.effects }
    else w.nextAttempt.send p [] []

/-- Take up a final response. -/
def readFrom (w : Worker) (head : ResponseHead) : Move :=
  ⟨{ w with phase := .reading head BoundedReader.start },
    [.logged (Log.debug "request finished"
      [("attempts", .nat w.attempts), ("status", .nat head.status.code)])],
    none⟩

/-- Go on after an unsuccessful response, with a pause if the status asks for one. -/
def retryAfter (w : Worker) (p : Plan) (status : Status) : Move :=
  let backoff := p.retryPolicy.backoffAfter status
  let delay := (backoff.elim 0 Duration.millis) % Nat.pow 2 64
  let told : List Effect :=
    [.logged (Log.warn "retrying request after unsuccessful status"
        [("attempt", .nat w.attempts), ("status", .nat status.code), ("delay_ms", .nat delay)]),
      .counted .retry]
  match backoff with
  | none => ⟨{ w with phase := .ready }, told, none⟩
  | some d => ⟨{ w with phase := .pausing }, told ++ [.counted .backoff, .paused d], none⟩

def transportError (w : Worker) (f : TransportFailure) : Error :=
  .transport f.kind w.request.method w.request.redactedUri f.text

/-- Take the transport's answer: a success or the last answer allowed is final. -/
def receive (w : Worker) (p : Plan) (a : Answer) : Move :=
  let isLast := p.retryPolicy.maxAttempts ≤ w.attempts
  let m : Move :=
    match a with
    | .response head =>
      if head.status.isTerminalSuccess || isLast then w.readFrom head
      else w.retryAfter p head.status
    | .failure f =>
      let e := w.transportError f
      let m : Move :=
        if isLast then w.fail e
        else
          ⟨{ w with phase := .ready },
            [.logged (Log.warn "retrying request after transport error"
                [("attempt", .nat w.attempts), ("error", .text e.message)]),
              .counted .retry],
            none⟩
      { m with effects := .counted .transportError :: m.effects }
  { m with effects := .answered a :: m.effects }

def bodyError (w : Worker) (p : Plan) : BodyFault → Error
  | .broken cause => .readBody cause
  | .tooLarge actual =>
    .responseBodyTooLarge p.maxResponseBodyBytes actual w.request.method w.request.redactedUri

/-- Read one frame of the final response. -/
def readFrame (w : Worker) (p : Plan) (head : ResponseHead) (reader : BoundedReader) (f : Frame) :
    Move :=
  match reader.step p.maxResponseBodyBytes f with
  | .ok next => ⟨{ w with phase := .reading head next }, [], none⟩
  | .error fault => w.failReading head (w.bodyError p fault)

/-! ## §5 Steps -/

/-- The worker's move on a signal, given why it must stop, if it must, and the number of openings of
    body factories so far.  A signal that does not fit the phase does nothing. -/
def step (w : Worker) (p : Plan) (interruption : Option Error) (openings : Nat) (s : Signal) :
    Move :=
  match w.phase with
  | .unbuilt | .finished | .aborted => w.stay
  | .queued =>
    match s with
    | .turn => ⟨{ w with phase := .ready }, [.entered], none⟩
    | _ => w.stay
  | .ready =>
    match s with
    | .turn =>
      match interruption with
      | some e => w.fail e
      | none => w.attempt p openings
    | _ => w.stay
  | .sending =>
    match interruption, s with
    | some e, _ => w.fail e
    | none, .answer a => w.receive p a
    | none, .panic => w.abort
    | none, _ => w.stay
  | .pausing =>
    match interruption, s with
    | some e, _ => w.fail e
    | none, .pauseOver => ⟨{ w with phase := .ready }, [], none⟩
    | none, .panic => w.abort
    | none, _ => w.stay
  | .reading head reader =>
    match interruption, s with
    | some e, _ => w.failReading head e
    | none, .frame f => w.readFrame p head reader f
    | none, .bodyEnd => w.succeed head reader.taken
    | none, .panic => w.abort
    | none, _ => w.stay

end Worker

end Replicast
