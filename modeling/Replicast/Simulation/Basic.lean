import Replicast.Batch.View
import Replicast.Engine
import Replicast.Simulation.Script
/-!
# Simulation

A client at work against scripted servers, in virtual time.  Time stands still while anything can
move, and then jumps to the next instant at which something can.  Where there are no servers the
clock is a real one, which goes on while the client begins a batch.

## Overview

* `Task` is a worker together with what its server is doing; `Simulation.move` is its next move.
* `Simulation.settle` lets every task move as far as it can at this instant, in the order in which
  they were started.
* `Simulation.reduce` brings a reducer to its end, and `Simulation.sleep` waits.
* `Simulation.begin` begins a batch, and `Simulation.toil` is what a real clock shows of that.
-/

namespace Replicast

/-! ## §1 State -/

/-- A request that a server has received. -/
structure Call where
  authority : String
  time : Instant
  head : RequestHead
  body : Bytes
deriving DecidableEq, Repr

/-- What goes on between a worker and its server. -/
inductive Activity where
  /-- The worker has the next move. -/
  | turn
  /-- The server reads a request: what it has so far, and what is to come. -/
  | uploading (head : RequestHead) (taken : Bytes) (rest : Stream)
  /-- The server is about to do something. -/
  | acting (act : Script.Act)
  | pausing
  /-- The worker reads a response. -/
  | streaming (rest : Stream)
deriving DecidableEq, Repr

/-- A worker and its server. -/
structure Task where
  batch : Nat
  position : Nat
  activity : Activity
  /-- Nothing happens before this instant. -/
  wake : Option Instant
deriving DecidableEq, Repr

/-- An event that was set for an instant. -/
structure Alarm where
  time : Instant
  event : Engine.Event

/-- A client at work against scripted servers. -/
structure Simulation where
  engine : Engine
  past : Array Record
  /-- The scripts by authority. -/
  scripts : List (String × Script)
  /-- Whether there are servers at all; without them no connection is made. -/
  isOnline : Bool
  /-- Whether pauses take time. -/
  pausesTakeTime : Bool
  calls : List Call
  tasks : List Task
  alarms : List Alarm

namespace Simulation

/-- The instant at which a simulation starts: an hour after the clock's zero. -/
def origin : Instant := ⟨Instant.zero.nanos + 3600 * Duration.nanosPerSecond⟩

def start (client : Client) (scripts : List (String × Script)) (isOnline pausesTakeTime : Bool) :
    Simulation :=
  ⟨Engine.start client origin, #[], scripts, isOnline, pausesTakeTime, [], [], []⟩

def elapsed (s : Simulation) : Nat := (s.engine.now.since origin).millis

def history (s : Simulation) : History := s.past.toList

/-! ## §2 Events -/

/-- The tasks that a history started. -/
def started (h : History) : List Task :=
  h.filterMap fun r =>
    match r.position, r.effect with
    | some position, .spawned _ => some ⟨r.batch, position, .turn, none⟩
    | _, _ => none

def happen (s : Simulation) (event : Engine.Event) : Simulation × History :=
  let (engine, h) := s.engine.step event
  ({ s with engine, past := s.past ++ h.toArray, tasks := s.tasks ++ started h }, h)

def happenAll (s : Simulation) (events : List Engine.Event) : Simulation :=
  events.foldl (fun s event => (s.happen event).1) s

/-- Let a signal reach the worker of a task. -/
def tell (s : Simulation) (t : Task) (signal : Signal) : Simulation × List Effect :=
  let (s, h) := s.happen (.signal t.batch t.position signal)
  (s, h.map (·.effect))

/-! ## §3 Moves -/

def phase? (s : Simulation) (t : Task) : Option Phase := do
  let b ← s.engine.batches[t.batch]?
  let w ← b.workers[t.position]?
  if w.isLive then some w.phase else none

def deadline? (s : Simulation) (t : Task) : Option Instant :=
  s.engine.batches[t.batch]?.map (·.plan.deadline)

/-- Why the worker of a task must stop, if it must. -/
def interruption? (s : Simulation) (t : Task) : Option Error := do
  let b ← s.engine.batches[t.batch]?
  let w ← b.workers[t.position]?
  w.interruption b.plan s.engine.toClock (b.isCancelled s.engine.tokens)

/-- The instant some milliseconds from now. -/
def later (s : Simulation) (ms : Nat) : Instant := s.engine.now.after (.ofMillis ms)

/-- The instant some milliseconds from now, unless it is now. -/
def after (s : Simulation) (ms : Nat) : Option Instant :=
  if ms == 0 then none else some (s.later ms)

/-- The instant at which a pause is over. -/
def pauseEnd (s : Simulation) (d : Duration) : Option Instant :=
  if s.pausesTakeTime then some (Instant.deadlineAfter s.engine.now d).wakeup else none

/-- What a task does next after its worker has done something; the last argument is what it does
    if the worker has asked for nothing. -/
def follow (s : Simulation) (t : Task) (effects : List Effect) (otherwise : Activity) : Task :=
  effects.foldl
    (fun t effect =>
      match effect with
      | .sent head copy => { t with activity := .uploading head [] copy, wake := none }
      | .paused d => { t with activity := .pausing, wake := s.pauseEnd d }
      | _ => t)
    { t with activity := otherwise, wake := none }

/-- Tell a worker the transport's answer. -/
def reply (s : Simulation) (t : Task) (a : Answer) (body : Stream) : Simulation × Task :=
  let (s, effects) := s.tell t (.answer a)
  let otherwise := match s.phase? t with
    | some (.reading _ _) => Activity.streaming body
    | _ => .turn
  (s, s.follow t effects otherwise)

/-- Tell a worker something after which it has the next move. -/
def hand (s : Simulation) (t : Task) (signal : Signal) : Simulation × Task :=
  let (s, effects) := s.tell t signal
  (s, s.follow t effects .turn)

/-- The failure of a connection that no server takes. -/
def unreachable : TransportFailure := .client .connect []

/-- Take up a request that has been read. -/
def takeCall (s : Simulation) (t : Task) (head : RequestHead) (body : Bytes) : Simulation × Task :=
  let authority := String.ofList head.uri.authority
  let before := s.calls.countP fun c => c.authority == authority
  let script : Script := ((s.scripts.find? (·.1 == authority)).map (·.2)).getD []
  let step := Script.step script before
  ({ s with calls := s.calls ++ [⟨authority, s.engine.now, head, body⟩] },
    { t with activity := .acting step.act, wake := s.after step.delay })

/-- The next move of a task. -/
def move (s : Simulation) (t : Task) : Simulation × Task :=
  match t.activity with
  | .turn => s.hand t .turn
  | .pausing => s.hand t .pauseOver
  | .uploading head taken rest =>
    if !s.isOnline then s.reply t (.failure unreachable) []
    else
      match rest with
      | [] => s.takeCall t head taken
      | .data bytes :: rest =>
        (s, { t with activity := .uploading head (taken ++ bytes) rest, wake := none })
      | .trailers :: rest => (s, { t with activity := .uploading head taken rest, wake := none })
      | .failure cause :: _ => s.reply t (.failure (.plain cause [])) []
      | .wait ms :: rest =>
        (s, { t with activity := .uploading head taken rest, wake := s.after ms })
  | .acting .hang => (s, t)
  | .acting .panic => s.hand t .panic
  | .acting (.fail f) => s.reply t (.failure f) []
  | .acting (.respond head body) => s.reply t (.response head) body
  | .streaming [] => s.hand t .bodyEnd
  | .streaming (.data bytes :: rest) =>
    let (s, effects) := s.tell t (.frame (.data bytes))
    (s, s.follow t effects (.streaming rest))
  | .streaming (.trailers :: rest) =>
    let (s, effects) := s.tell t (.frame .trailers)
    (s, s.follow t effects (.streaming rest))
  | .streaming (.failure cause :: rest) =>
    let (s, effects) := s.tell t (.frame (.failure cause))
    (s, s.follow t effects (.streaming rest))
  | .streaming (.wait ms :: rest) =>
    (s, { t with activity := .streaming rest, wake := s.after ms })

/-- Whether a task cannot move at this instant unless its worker must stop. -/
def isBlocked (s : Simulation) (t : Task) : Bool :=
  t.activity == .acting .hang || t.wake.any fun instant => s.engine.now < instant

/-- The longest chain of moves. -/
def patience : Nat := Nat.pow 2 60

/-- Let a task move as far as it can at this instant.  An ended task is gone. -/
def exhaust (s : Simulation) (t : Task) : Nat → Simulation × Option Task
  | 0 => (s, some t)
  | fuel + 1 =>
    if (s.phase? t).isNone then (s, none)
    else if (s.interruption? t).isSome then
      let (s, t) := s.hand t .turn
      exhaust s t fuel
    else if s.isBlocked t then (s, some t)
    else
      let (s, t) := s.move t
      exhaust s t fuel

/-! ## §4 Instants -/

/-- Let the alarms that are due go off. -/
def ring (s : Simulation) : Simulation :=
  let due := s.alarms.filter fun a => a.time ≤ s.engine.now
  let left := s.alarms.filter fun a => s.engine.now < a.time
  { s with alarms := left }.happenAll (due.map Alarm.event)

/-- Let everything move as far as it can at this instant: alarms first, and then the tasks in
    order. -/
def settle (s : Simulation) : Simulation :=
  let (s, left) := s.ring.tasks.foldl
    (fun (s, left) t =>
      let (s, t) := exhaust s t patience
      (s, left ++ t.toList))
    (s.ring, [])
  { s with tasks := left }

/-- The later instants at which something can move. -/
def timers (s : Simulation) : List Instant :=
  let ofTasks := s.tasks.flatMap fun t =>
    t.wake.toList ++ ((s.deadline? t).map Instant.wakeup).toList
  (ofTasks ++ s.alarms.map (·.time)).filter fun instant => s.engine.now < instant

/-- The earliest of some instants. -/
def earliest : List Instant → Option Instant
  | [] => none
  | instant :: rest =>
    match earliest rest with
    | none => some instant
    | some other => some (if other < instant then other else instant)

/-- Let time pass up to an instant, and look after the timers. -/
def jump (s : Simulation) (instant : Instant) : Simulation :=
  s.happenAll [.advance (instant.since s.engine.now), .tick]

/-- How long a client is busy before the workers of a new batch have their first turns: not at all in
    virtual time, and on a real clock a microsecond for each target. -/
def toil (s : Simulation) (targets : List Target) : Duration :=
  if s.isOnline then ⟨0⟩ else ⟨1000 * targets.length⟩

/-- Begin a batch by an event. -/
def begin (s : Simulation) (event : Engine.Event) (targets : List Target) : Simulation :=
  let s := (s.happen event).1
  s.jump (s.engine.now.after (s.toil targets))

/-! ## §5 Waiting -/

/-- The result of the reduction of a batch, once it has one. -/
def reduction? (s : Simulation) (number : Nat) : Option Reduction :=
  s.engine.batches[number]?.bind fun b =>
    match b.stage with
    | .reduced r => some r
    | _ => none

/-- The number of outcomes that a reducer has consumed. -/
def consumed (s : Simulation) (number : Nat) : Nat :=
  s.engine.batches[number]?.elim 0 fun b =>
    match b.stage with
    | .reducing _ progress => progress.consumed.length
    | _ => 0

/-- Give a reducer turns until it returns or has nothing to consume. -/
def pollAll (s : Simulation) (number : Nat) : Nat → Simulation
  | 0 => s
  | fuel + 1 =>
    let before := s.consumed number
    let (s, _) := s.happen (.poll number)
    if (s.reduction? number).isSome || s.consumed number == before then s
    else pollAll s number fuel

/-- Bring a reducer to its end. -/
def reduce (s : Simulation) (number : Nat) : Nat → Simulation
  | 0 => s
  | fuel + 1 =>
    let s := s.pollAll number patience
    if (s.reduction? number).isSome then s
    else
      let s := s.settle.pollAll number patience
      if (s.reduction? number).isSome then s
      else
        let deadline := (s.engine.batches[number]?.map (·.plan.deadline.wakeup)).toList
        match earliest (s.timers ++ deadline.filter fun instant => s.engine.now < instant) with
        | none => s
        | some instant => reduce (s.jump instant) number fuel

/-- Wait until an instant.  Whoever waits is the first to move at its end. -/
def sleep (s : Simulation) (target : Instant) : Nat → Simulation
  | 0 => s
  | fuel + 1 =>
    let s := s.settle
    match earliest (s.timers ++ [target]) with
    | none => s
    | some instant =>
      if target ≤ instant then s.jump target
      else sleep (s.jump instant) target fuel

end Simulation

end Replicast
