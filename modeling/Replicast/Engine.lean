import Replicast.Batch.Reducer
/-!
# A client at work

The batches of a client, the clock, and the tokens that callers cancel.  Whatever happens is an
event, and events come in any order: a worker's turn, an answer of the transport, the passing of
time, a look after the timers, a cancellation, a turn of a reducer.

## Overview

* `Engine` is the state, and `Engine.step` the effect of one event.  An event that cannot happen
  in a state does nothing.
* `Engine.dispatch` begins a batch: requests are built in target order, and the targets whose
  request could not be built are posted at once.
* `Engine.run` is the effect of a list of events, with the history of what was done.
-/

namespace Replicast

/-- A client at work. -/
structure Engine extends Clock where
  client : Client
  tokens : List String
  /-- All batches that were dispatched, by number. -/
  batches : List Batch
  /-- Openings of body factories so far. -/
  openings : Nat

namespace Engine

/-! ## §1 Beginning a batch -/

/-- An effect for one target. -/
abbrev Placed := Option Nat × Effect

/-- The worker that a preparation leads to. -/
def workerOf (p : Operation.Preparation) : Worker :=
  match p.copy with
  | .ok copy => ⟨p.target, p.head, some copy, 0, .queued⟩
  | .error _ => ⟨p.target, p.head, none, 0, .unbuilt⟩

/-- The fields that a worker's events stand under. -/
def spanFields (client : Client) (policy : RetryPolicy) (p : Operation.Preparation) : Log.Fields :=
  [("client", .text client.name), ("index", .nat p.target.index),
    ("method", .text p.head.method.name), ("uri", .text p.head.redactedUri),
    ("max_attempts", .nat policy.maxAttempts)]

/-- What is told about a request that could not be built. -/
def buildEvent (client : Client) (t : Target) (e : Error) : Log.Event :=
  Log.warn "failed to build request for target"
    [("client", .text client.name), ("index", .nat t.index), ("base_url", .text t.baseUrl),
      ("error", .text e.message)]

/-- Start the worker of a preparation, or post its failure. -/
def place (client : Client) (policy : RetryPolicy) (position : Nat) (b : Batch)
    (p : Operation.Preparation) : Batch × List Placed :=
  let asked : List Effect :=
    (p.intercepted.map Effect.consulted).toList ++ (if p.opened then [.opened] else [])
  let here (effects : List Effect) : List Placed := effects.map (some position, ·)
  match p.copy with
  | .ok _ => (b, here (asked ++ [.spawned (spanFields client policy p)]))
  | .error e =>
    let (b, posted) := b.post (Outcome.failed p.target p.head e)
    (b, here asked ++ (none, .logged (buildEvent client p.target e))
      :: here (.buildFailed e :: posted))

/-- Start the workers of all preparations in order. -/
def placeAll (client : Client) (policy : RetryPolicy) :
    Nat → Batch → List Operation.Preparation → Batch × List Placed
  | _, b, [] => (b, [])
  | position, b, p :: rest =>
    let (b, first) := place client policy position b p
    let (b, others) := placeAll client policy (position + 1) b rest
    (b, first ++ others)

/-- A batch in which nothing has happened yet. -/
def fresh (e : Engine) (op : Operation) (preparations : List Operation.Preparation) : Batch :=
  let timeout := op.timeoutFor e.client
  { plan :=
      { body := op.body
        retryPolicy := op.retryPolicyFor e.client
        maxResponseBodyBytes := e.client.maxResponseBodyBytes
        timeout
        deadline := Instant.deadlineAfter e.now timeout }
    parent := op.parent
    handler := op.handler
    cancelled := false
    released := false
    workers := preparations.map workerOf
    channel := Channel.forTargets preparations.length
    stage := .kept }

/-- Effects as records of a batch at this instant. -/
def records (e : Engine) (batch : Nat) (effects : List Placed) : History :=
  effects.map fun (position, effect) => ⟨batch, position, e.now, effect⟩

/-- Begin a batch. -/
def dispatch (e : Engine) (op : Operation) (targets : List Target) : Engine × History :=
  let preparations := op.prepareAll e.client e.openings targets
  let (b, placed) :=
    placeAll e.client (op.retryPolicyFor e.client) 0 (e.fresh op preparations) preparations
  let openings := preparations.foldl (fun sum p => sum + p.openings op.body) 0
  ({ e with batches := e.batches ++ [b], openings := e.openings + openings },
    e.records e.batches.length ((none, .dispatched targets.length) :: placed))

/-! ## §2 Events -/

/-- Something that happens to a client at work. -/
inductive Event where
  | dispatch (op : Operation) (targets : List Target)
  /-- Begin a batch and decide it by a threshold. -/
  | replicate (op : Operation) (targets : List Target) (threshold : Threshold)
      (acceptance : Acceptance)
  /-- A signal reaches the worker at a position of a batch. -/
  | signal (batch position : Nat) (s : Signal)
  /-- A clone of a batch's handle is told to cancel. -/
  | cancel (batch : Nat)
  | cancelToken (name : String)
  | reduce (batch : Nat) (goal : Goal)
  /-- A turn of the reducer of a batch. -/
  | poll (batch : Nat)
  | drop (batch : Nat)
  /-- Time passes. -/
  | advance (d : Duration)
  /-- The timers are looked after. -/
  | tick

def change (e : Engine) (number : Nat) (f : Batch → Batch × List Placed) : Engine × History :=
  match e.batches[number]? with
  | none => (e, [])
  | some b =>
    let (after, effects) := f b
    ({ e with batches := e.batches.set number after }, e.records number effects)

/-- Effects of a batch as a whole. -/
def unplaced (effects : List Effect) : List Placed := effects.map (none, ·)

/-- How many openings of a body factory there are among some effects. -/
def countOpenings (body : RequestBody) (effects : List Effect) : Nat :=
  if body.isFactory then effects.count .opened else 0

/-- Let a signal reach a worker. -/
def signal (e : Engine) (number position : Nat) (s : Signal) : Engine × History :=
  match e.batches[number]? with
  | none => (e, [])
  | some b =>
    let (after, effects) := b.signal e.toClock e.tokens e.openings position s
    ({ e with
        batches := e.batches.set number after
        openings := e.openings + countOpenings b.plan.body effects },
      e.records number (effects.map (some position, ·)))

def step (e : Engine) : Event → Engine × History
  | .dispatch op targets => e.dispatch op targets
  | .replicate op targets threshold acceptance =>
    let number := e.batches.length
    let ignored : List Placed :=
      if op.handler.isSome then
        [(none, .logged (Log.debug "response handler dropped for replicated write" []))]
      else []
    let (after, h) := e.dispatch { op with handler := none } targets
    let (after, _) := after.change number fun b => (b.begin (.decide threshold acceptance), [])
    (after, e.records number ignored ++ h)
  | .signal number position s => e.signal number position s
  | .cancel number =>
    e.change number fun b =>
      let (after, effective) := b.release
      (after, [(none, .cancelled effective)])
  | .cancelToken name => ({ e with tokens := name :: e.tokens }, [])
  | .reduce number goal => e.change number fun b => (b.begin goal, [])
  | .poll number =>
    e.change number fun b =>
      let (after, effects) := b.poll e.toClock e.tokens
      (after, unplaced effects)
  | .drop number =>
    e.change number fun b =>
      let (after, effects) := b.drop
      (after, unplaced effects)
  | .advance d => ({ e with toClock := e.toClock.pass d }, [])
  | .tick => ({ e with toClock := e.toClock.tick }, [])

def run (e : Engine) : List Event → Engine × History
  | [] => (e, [])
  | event :: rest =>
    let (middle, h) := e.step event
    let (after, k) := middle.run rest
    (after, h ++ k)

/-- A client that has done nothing yet. -/
def start (client : Client) (now : Instant) : Engine := ⟨.startingAt now, client, [], [], 0⟩

end Engine

end Replicast
