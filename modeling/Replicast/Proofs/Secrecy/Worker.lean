import Replicast.Batch.Worker
/-!
# Workers and what they read of a request

A worker carries its target and its request about and reads no more of them than the method and the
redacted URI.  On another target and another request that are shown alike it makes the same moves.

## Overview

* `RequestHead.face` is what is shown of a request.
* `Worker.swap` puts a worker on another target and another request, and `Worker.Move.swap` does so
  for whatever the worker does and leaves behind.
* `Worker.step_swap` is the result; each part of a step has a lemma of its own.
-/

namespace Replicast

/-! ## §1 What is shown of a request -/

/-- A request as it is shown. -/
structure RequestHead.Face where
  method : Method
  /-- The redacted URI. -/
  uri : String
  headers : Header.Map

namespace RequestHead

def face (r : RequestHead) : Face := ⟨r.method, r.redactedUri, r.headers⟩

theorem face_eq_iff {r r' : RequestHead} :
    r.face = r'.face ↔
      r.method = r'.method ∧ r.redactedUri = r'.redactedUri ∧ r.headers = r'.headers := by
  simp [face]

end RequestHead

/-- An interruption is told in the words that the request is shown in. -/
theorem Plan.interruptionError_eq_of_face {r r' : RequestHead} (h : r.face = r'.face) (p : Plan)
    (now : Instant) : p.interruptionError now r = p.interruptionError now r' := by
  obtain ⟨hmethod, huri, -⟩ := RequestHead.face_eq_iff.mp h
  unfold interruptionError
  rw [hmethod, huri]

/-! ## §2 Other targets and requests -/

def Outcome.swap (o : Outcome) (t : Target) (r : RequestHead) : Outcome :=
  { o with target := t, request := r }

/-- What a worker does, on another target and another request. -/
def Effect.swap (t : Target) (r : RequestHead) : Effect → Effect
  | .sent _ body => .sent r.rebuilt body
  | .recorded o => .recorded (o.swap t r)
  | e => e

namespace Worker

def swap (w : Worker) (t : Target) (r : RequestHead) : Worker :=
  { w with target := t, request := r }

def Move.swap (m : Move) (t : Target) (r : RequestHead) : Move :=
  ⟨m.worker.swap t r, m.effects.map (Effect.swap t r), m.outcome.map (·.swap t r)⟩

/-- An effect that is told before a move. -/
theorem Move.swap_first {m m' : Move} {t : Target} {r : RequestHead} {e : Effect}
    (he : e.swap t r = e) (h : m' = m.swap t r) :
    ({ m' with effects := e :: m'.effects } : Move) =
      Move.swap { m with effects := e :: m.effects } t r := by
  subst h
  simp [Move.swap, he]

/-! ## §3 Ends -/

section Swap

variable {w : Worker} {t : Target} {r : RequestHead}

theorem method_of_face (h : r.face = w.request.face) : r.method = w.request.method :=
  (RequestHead.face_eq_iff.mp h).1

theorem uri_of_face (h : r.face = w.request.face) : r.redactedUri = w.request.redactedUri :=
  (RequestHead.face_eq_iff.mp h).2.1

theorem finish_swap (events : List Log.Event) (o : Outcome) :
    (w.swap t r).finish events (o.swap t r) = (w.finish events o).swap t r := by
  simp [finish, Move.swap, swap, Effect.swap]

theorem fail_swap (e : Error) : (w.swap t r).fail e = (w.fail e).swap t r :=
  finish_swap _ ⟨w.target, w.request, none, [], some e, w.attempts⟩

theorem failReading_swap (head : ResponseHead) (e : Error) :
    (w.swap t r).failReading head e = (w.failReading head e).swap t r :=
  finish_swap _ ⟨w.target, w.request, some head, [], some e, w.attempts⟩

theorem succeed_swap (head : ResponseHead) (body : Bytes) :
    (w.swap t r).succeed head body = (w.succeed head body).swap t r :=
  finish_swap _ ⟨w.target, w.request, some head, body, none, w.attempts⟩

theorem abort_swap (h : r.face = w.request.face) : (w.swap t r).abort = w.abort.swap t r := by
  simp [abort, Move.swap, swap, Effect.swap, Outcome.failed, Outcome.swap, method_of_face h,
    uri_of_face h]

/-! ## §4 Attempts -/

theorem send_swap (p : Plan) (copy : Stream) {opened : List Effect}
    (hopened : opened.map (Effect.swap t r) = opened) :
    (w.swap t r).send p opened copy = (w.send p opened copy).swap t r := by
  simp [send, Move.swap, swap, Effect.swap, hopened]

/-- Whether a body is replayed goes by the method. -/
theorem replays_of_face (h : r.face = w.request.face) (p : Plan) :
    p.replays r = p.replays w.request := by
  simp [Plan.replays, method_of_face h]

theorem attempt_swap (h : r.face = w.request.face) (p : Plan) (openings : Nat) :
    (w.swap t r).attempt p openings = (w.attempt p openings).swap t r := by
  have hinitial : (w.swap t r).initial = w.initial := rfl
  have hrequest : (w.swap t r).request = r := rfl
  -- The attempt is made by the worker that has counted it.
  have hnext : (w.swap t r).nextAttempt = w.nextAttempt.swap t r := rfl
  unfold attempt
  rw [hinitial, hrequest, replays_of_face h, hnext, method_of_face h, uri_of_face h]
  cases w.initial with
  | some copy => exact send_swap p copy rfl
  | none =>
    dsimp only
    split
    · cases p.body.openCopy openings with
      | ok copy => exact send_swap p copy rfl
      | error cause => exact Move.swap_first rfl (fail_swap _)
    · exact send_swap p [] rfl

theorem readFrom_swap (head : ResponseHead) :
    (w.swap t r).readFrom head = (w.readFrom head).swap t r := rfl

theorem retryAfter_swap (p : Plan) (status : Status) :
    (w.swap t r).retryAfter p status = (w.retryAfter p status).swap t r := by
  unfold retryAfter
  cases p.retryPolicy.backoffAfter status <;> rfl

theorem transportError_swap (h : r.face = w.request.face) (f : TransportFailure) :
    (w.swap t r).transportError f = w.transportError f := by
  simp [transportError, swap, method_of_face h, uri_of_face h]

theorem receive_swap (h : r.face = w.request.face) (p : Plan) (a : Answer) :
    (w.swap t r).receive p a = (w.receive p a).swap t r := by
  cases a with
  | response head =>
    simp only [receive, show (w.swap t r).attempts = w.attempts from rfl]
    refine Move.swap_first rfl ?_
    split
    · exact readFrom_swap head
    · exact retryAfter_swap p head.status
  | failure f =>
    simp only [receive, show (w.swap t r).attempts = w.attempts from rfl, transportError_swap h]
    refine Move.swap_first rfl (Move.swap_first rfl ?_)
    split
    · exact fail_swap _
    · rfl

theorem bodyError_swap (h : r.face = w.request.face) (p : Plan) (fault : BodyFault) :
    (w.swap t r).bodyError p fault = w.bodyError p fault := by
  cases fault <;> simp [bodyError, swap, method_of_face h, uri_of_face h]

theorem readFrame_swap (h : r.face = w.request.face) (p : Plan) (head : ResponseHead)
    (reader : BoundedReader) (f : Frame) :
    (w.swap t r).readFrame p head reader f = (w.readFrame p head reader f).swap t r := by
  unfold readFrame
  cases reader.step p.maxResponseBodyBytes f with
  | ok next => rfl
  | error fault => simp only [bodyError_swap h, failReading_swap]

/-! ## §5 Steps -/

/-- **A worker reads no more of its request than what is shown of it.** -/
theorem step_swap (h : r.face = w.request.face) (p : Plan) (interruption : Option Error)
    (openings : Nat) (s : Signal) :
    (w.swap t r).step p interruption openings s = (w.step p interruption openings s).swap t r := by
  have hphase : (w.swap t r).phase = w.phase := rfl
  unfold step
  rw [hphase]
  cases w.phase with
  | unbuilt => rfl
  | finished => rfl
  | aborted => rfl
  | queued => cases s <;> rfl
  | ready =>
    cases s with
    | turn =>
      cases interruption with
      | none => exact attempt_swap h p openings
      | some e => exact fail_swap e
    | _ => rfl
  | sending =>
    cases interruption with
    | some e => exact fail_swap e
    | none =>
      cases s with
      | answer a => exact receive_swap h p a
      | panic => exact abort_swap h
      | _ => rfl
  | pausing =>
    cases interruption with
    | some e => exact fail_swap e
    | none =>
      cases s with
      | pauseOver => rfl
      | panic => exact abort_swap h
      | _ => rfl
  | reading head reader =>
    cases interruption with
    | some e => exact failReading_swap head e
    | none =>
      cases s with
      | frame f => exact readFrame_swap h p head reader f
      | bodyEnd => exact succeed_swap head reader.taken
      | panic => exact abort_swap h
      | _ => rfl

end Swap

end Worker

end Replicast
