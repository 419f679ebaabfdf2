import Replicast.Simulation.Basic
/-!
# Sessions

A caller that uses a simulated client step by step.  Batches are kept under names until they are
reduced or dropped; their handles stay.

## Overview

* `Session.Step` is what the caller does, and `Session.Result` what it gets.
* `Session.perform` is the effect of one step.  Workers move only while a step waits.
-/

namespace Replicast

/-- A caller and a simulated client. -/
structure Session where
  simulation : Simulation
  /-- The batches that are kept, by name. -/
  kept : List (String × Nat)
  /-- The batches whose handles are held, by name. -/
  handles : List (String × Nat)

namespace Session

/-! ## §1 Steps and results -/

/-- What the caller does. -/
inductive Step where
  /-- Begin a batch and reduce it at once. -/
  | run (op : Operation) (targets : List Target) (goal : Goal)
  /-- Begin a batch and give it up at once. -/
  | abandon (op : Operation) (targets : List Target)
  /-- Begin a batch and keep it. -/
  | dispatch (name : String) (op : Operation) (targets : List Target)
  | reduce (name : String) (goal : Goal)
  | drop (name : String)
  | cancel (name : String)
  /-- Cancel some milliseconds later. -/
  | cancelLater (name : String) (ms : Nat)
  | cancelToken (token : String)
  | cancelTokenLater (token : String) (ms : Nat)
  | status (name : String)
  | advance (ms : Nat)
  /-- Let everything move that can. -/
  | yield
  | metrics

/-- What can be seen of a kept batch. -/
structure BatchStatus where
  size : Nat
  /-- Whole milliseconds until the deadline. -/
  remaining : Nat
  hasHandler : Bool
deriving DecidableEq, Repr

/-- What the caller gets. -/
inductive Result where
  | reduction (r : Reduction)
  | dispatched (size : Nat)
  | dropped
  | cancelled (effective : Bool)
  | scheduled
  | status (cancelled released : Bool) (batch : Option BatchStatus)
  | metrics (m : Metrics)
  | done
  | noBatch
  | noHandle
deriving DecidableEq, Repr

/-! ## §2 Names -/

def find? (name : String) (table : List (String × Nat)) : Option Nat :=
  (table.find? (·.1 == name)).map (·.2)

def setName (name : String) (number : Nat) (table : List (String × Nat)) : List (String × Nat) :=
  (name, number) :: table.filter (·.1 != name)

/-! ## §3 Effects -/

/-- The longest time that the caller waits, in milliseconds: thirty years. -/
def longestWait : Nat := Instant.farFuture.millis

def start (s : Simulation) : Session := ⟨s, [], []⟩

/-- The counters as the client reports them. -/
def metrics (s : Session) : Metrics :=
  (Metrics.ofHistory s.simulation.history).shown s.simulation.engine.client.metricsEnabled

def happen (s : Session) (event : Engine.Event) : Session :=
  { s with simulation := (s.simulation.happen event).1 }

/-- Set an event for a later instant. -/
def schedule (s : Session) (ms : Nat) (event : Engine.Event) : Session :=
  let alarm : Alarm := ⟨s.simulation.later ms, event⟩
  { s with simulation := { s.simulation with alarms := s.simulation.alarms ++ [alarm] } }

def nextNumber (s : Session) : Nat := s.simulation.engine.batches.length

/-- Begin a batch by an event. -/
def begin (s : Session) (event : Engine.Event) (targets : List Target) : Session :=
  { s with simulation := s.simulation.begin event targets }

/-- Bring the reducer of a batch to its end, and let everything else move. -/
def await (s : Session) (number : Nat) : Session × Result :=
  let sim := s.simulation.reduce number Simulation.patience
  let result := (sim.reduction? number).elim Result.noBatch Result.reduction
  ({ s with simulation := sim.settle }, result)

/-- Give up the batch that is kept under a name, if there is one. -/
def discard (s : Session) (name : String) : Session :=
  match find? name s.kept with
  | none => s
  | some number => { s with kept := s.kept.filter (·.1 != name) }.happen (.drop number)

/-- What can be seen of a batch through its handle. -/
def statusOf (s : Session) (name : String) (number : Nat) : Result :=
  let engine := s.simulation.engine
  match engine.batches[number]? with
  | none => .noHandle
  | some b =>
    let batch := (find? name s.kept).map fun _ =>
      { size := b.size
        remaining := (b.plan.deadline.since engine.now).millis
        hasHandler := b.handler.isSome : BatchStatus }
    .status (b.isCancelled engine.tokens) b.released batch

/-- What the handle of a name is for. -/
def withHandle (s : Session) (name : String) (f : Nat → Session × Result) : Session × Result :=
  (find? name s.handles).elim (s, .noHandle) f

def perform (s : Session) : Step → Session × Result
  | .run op targets goal =>
    let number := s.nextNumber
    match goal with
    | .decide threshold acceptance =>
      (s.begin (.replicate op targets threshold acceptance) targets).await number
    | goal => ((s.begin (.dispatch op targets) targets).happen (.reduce number goal)).await number
  | .abandon op targets =>
    ((s.begin (.dispatch op targets) targets).happen (.drop s.nextNumber), .dropped)
  | .dispatch name op targets =>
    let number := s.nextNumber
    let s := (s.begin (.dispatch op targets) targets).discard name
    ({ s with kept := setName name number s.kept, handles := setName name number s.handles },
      .dispatched targets.length)
  | .reduce name goal =>
    match find? name s.kept with
    | none => (s, .noBatch)
    | some number =>
      let s := { s with kept := s.kept.filter (·.1 != name) }
      (s.happen (.reduce number goal)).await number
  | .drop name =>
    if (find? name s.kept).isSome then (s.discard name, .dropped) else (s, .noBatch)
  | .cancel name =>
    s.withHandle name fun number =>
      let (simulation, h) := s.simulation.happen (.cancel number)
      ({ s with simulation }, .cancelled (h.any (·.effect == .cancelled true)))
  | .cancelLater name ms =>
    s.withHandle name fun number => (s.schedule ms (.cancel number), .scheduled)
  | .cancelToken token => (s.happen (.cancelToken token), .done)
  | .cancelTokenLater token ms => (s.schedule ms (.cancelToken token), .done)
  | .status name => s.withHandle name fun number => (s, s.statusOf name number)
  | .advance ms =>
    let target := s.simulation.later (min ms longestWait)
    ({ s with simulation := s.simulation.sleep target Simulation.patience }, .done)
  | .yield => ({ s with simulation := s.simulation.settle }, .done)
  | .metrics => (s, .metrics s.metrics)

/-! ## §4 Reports -/

/-- The answers of handlers since an earlier state of the session. -/
def verdictsSince (s earlier : Session) : List History.Verdict :=
  History.verdicts (s.simulation.past.toList.drop earlier.simulation.past.size)

/-- The requests that servers received, by authority. -/
def callsByAuthority (s : Session) : List (String × List Call) :=
  (s.simulation.calls.map (·.authority)).eraseDups.map fun authority =>
    (authority, s.simulation.calls.filter fun c => c.authority == authority)

end Session

end Replicast
