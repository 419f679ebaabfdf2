import Mathlib.Data.List.Basic
import Replicast.Proofs.Engine.Position
/-!
# What a worker waits for

A worker lives in a world of its own: the transport that answers its requests and the clock that
ends its pauses.  When such a world is given, what reaches the worker next is settled, and so is the
instant.  Where a timer and something else are due at one instant, the timer comes first.

## Overview

* `Sending` is a request as it was handed to the transport, and `History.sendingsAt` and
  `History.sendingsTo` are those for one target and those to one authority.
* `Surroundings` is a transport, whose answers depend on the requests to the same authority, and a
  clock.
* `Agenda` is what a worker waits for, and `Agenda.upcoming` the next of it.
* `Engine.attend` follows a worker through a run, as long as the run keeps to the agenda.
-/

namespace Replicast

/-! ## §1 Requests handed to the transport -/

/-- A request as it was handed to the transport. -/
structure Sending where
  time : Instant
  head : RequestHead
  body : Stream
deriving DecidableEq, Repr

/-- The authority that a request was sent to. -/
def Sending.authority (s : Sending) : Chars := s.head.uri.authority

/-- The request that an effect hands to the transport at an instant. -/
def Effect.sending? (time : Instant) : Effect → Option Sending
  | .sent head body => some ⟨time, head, body⟩
  | _ => none

/-- The request that a record hands to the transport. -/
def Record.sending? (r : Record) : Option Sending := r.effect.sending? r.time

theorem Record.sending?_eq_some {r : Record} {s : Sending} (h : r.sending? = some s) :
    ∃ head body, r.effect = .sent head body ∧ s = ⟨r.time, head, body⟩ := by
  unfold Record.sending? Effect.sending? at h
  split at h
  · rename_i head body heffect
    exact ⟨head, body, heffect, (Option.some.inj h).symm⟩
  · cases h

namespace History

/-- The requests for the target at a position of a batch, in order. -/
def sendingsAt (h : History) (batch position : Nat) : List Sending :=
  h.filterMap fun r =>
    if r.batch = batch ∧ r.position = some position then r.sending? else none

/-- The requests to one authority, in order, of whichever batch. -/
def sendingsTo (h : History) (authority : Chars) : List Sending :=
  h.filterMap fun r => r.sending?.filter fun s => s.authority = authority

@[simp] theorem sendingsAt_append (h k : History) (batch position : Nat) :
    sendingsAt (h ++ k) batch position =
      sendingsAt h batch position ++ sendingsAt k batch position :=
  List.filterMap_append

@[simp] theorem sendingsTo_append (h k : History) (authority : Chars) :
    sendingsTo (h ++ k) authority = sendingsTo h authority ++ sendingsTo k authority :=
  List.filterMap_append

/-- What is recorded at one instant hands over requests at this instant. -/
theorem sendingsAt_of_times {h : History} {time : Instant} (htime : ∀ r ∈ h, r.time = time)
    (batch position : Nat) :
    h.sendingsAt batch position =
      ((h.of batch).effectsAt position).filterMap (Effect.sending? time) := by
  simp only [sendingsAt, of, Doings.effectsAt, List.filterMap_filterMap]
  refine List.filterMap_congr fun r hr => ?_
  rw [Record.sending?, htime r hr]
  -- The record belongs to the position, to the batch only, or to another batch.
  by_cases hbatch : r.batch = batch
  · by_cases hposition : r.position = some position <;> simp [hbatch, hposition]
  · simp [hbatch]

end History

/-! ## §2 Surroundings -/

/-- What reaches a waiting worker from outside: signals, each some time after the one before it.
    After the last one nothing more comes. -/
abbrev Course := List (Duration × Signal)

/-- The world that workers live in. -/
structure Surroundings where
  /-- What comes of a request to an authority, given all requests to it so far, this one last. -/
  serve : Chars → List Sending → Course
  /-- The time that a pause takes which begins at an instant. -/
  pause : Instant → Duration → Duration

/-- What a worker waits for, and since when. -/
structure Agenda where
  since : Instant
  coming : Course
deriving DecidableEq, Repr

namespace Agenda

/-- What reaches a worker next, and when.  A worker that has its turn has it at once. -/
def upcoming (a : Agenda) (w : Worker) : Option (Instant × Signal) :=
  if w.awaits .turn then some (a.since, .turn)
  else
    match a.coming with
    | (d, s) :: _ => if w.awaits s then some (a.since.after d, s) else none
    | [] => none

/-- What reaches a worker next is its turn, or else the first thing that it waits for. -/
theorem upcoming_cases {a : Agenda} {w : Worker} {time : Instant} {s : Signal}
    (h : a.upcoming w = some (time, s)) :
    (w.awaits .turn = true ∧ time = a.since ∧ s = .turn) ∨
      (w.awaits .turn = false ∧ w.awaits s = true ∧
        ∃ d rest, a.coming = (d, s) :: rest ∧ time = a.since.after d) := by
  unfold upcoming at h
  split at h
  · rename_i hturn
    cases h
    exact .inl ⟨hturn, rfl, rfl⟩
  · rename_i hturn
    split at h
    · rename_i d signal rest hcoming
      split at h
      · rename_i hawaits
        obtain ⟨rfl, rfl⟩ := Prod.mk.inj (Option.some.inj h)
        exact .inr ⟨by simpa using hturn, hawaits, d, rest, hcoming, rfl⟩
      · cases h
    · cases h

/-- Only what a worker waits for reaches it. -/
theorem awaits_of_upcoming {a : Agenda} {w : Worker} {time : Instant} {s : Signal}
    (h : a.upcoming w = some (time, s)) : w.awaits s = true := by
  rcases upcoming_cases h with ⟨hturn, _, rfl⟩ | ⟨_, hawaits, _⟩
  · exact hturn
  · exact hawaits

/-- Whether nothing that reaches the worker comes before an instant. -/
def allows (a : Agenda) (w : Worker) (time : Instant) : Bool :=
  (a.upcoming w).all fun next => time ≤ next.1

theorem allows_iff {a : Agenda} {w : Worker} {time : Instant} :
    a.allows w time = true ↔ ∀ due s, a.upcoming w = some (due, s) → time ≤ due := by
  unfold allows
  rw [Option.all_eq_true]
  exact ⟨fun h due s hnext => by simpa using h (due, s) hnext,
    fun h next hnext => by simpa using h next.1 next.2 hnext⟩

/-- The agenda when a worker has been reached at an instant. -/
def reached (a : Agenda) (w : Worker) (time : Instant) : Agenda :=
  ⟨time, if w.awaits .turn then a.coming else a.coming.tail⟩

/-- The agenda after the effects of a worker at an instant, given the requests to each authority so
    far: a request and a pause make the worker wait for what comes of them. -/
def follow (env : Surroundings) (received : Chars → List Sending) (time : Instant) (a : Agenda)
    (effects : List Effect) : Agenda :=
  effects.foldl
    (fun a effect =>
      match effect with
      | .sent head _ => ⟨time, env.serve head.uri.authority (received head.uri.authority)⟩
      | .paused d => ⟨time, [(env.pause time d, .pauseOver)]⟩
      | _ => a)
    a

/-- Only the requests to the authorities that are sent to matter. -/
theorem follow_congr (env : Surroundings) {received others : Chars → List Sending} (time : Instant)
    (a : Agenda) {effects : List Effect}
    (h : ∀ head body, Effect.sent head body ∈ effects →
      received head.uri.authority = others head.uri.authority) :
    a.follow env received time effects = a.follow env others time effects := by
  induction effects generalizing a with
  | nil => rfl
  | cons x rest ih =>
    have hrest (a : Agenda) := ih a fun head body hmem => h head body (List.mem_cons_of_mem x hmem)
    cases x with
    | sent head body =>
      have hhead := h head body List.mem_cons_self
      simp only [follow, List.foldl_cons, hhead] at hrest ⊢
      exact hrest _
    | _ => exact hrest _

/-- A worker that was reached waits from this instant on. -/
theorem follow_since (env : Surroundings) (received : Chars → List Sending) {time : Instant}
    {a : Agenda} (effects : List Effect) (h : a.since = time) :
    (a.follow env received time effects).since = time := by
  induction effects generalizing a with
  | nil => exact h
  | cons x rest ih => cases x <;> first | exact ih h | exact ih rfl

/-- A post starts nothing. -/
theorem follow_doings (env : Surroundings) (received : Chars → List Sending) (time : Instant)
    (a : Agenda) (m : Worker.Move) (posting : Channel.Posting) :
    a.follow env received time (m.doings posting) = a.follow env received time m.effects := by
  unfold Worker.Move.doings
  cases m.outcome with
  | none => simp
  | some o => simp [follow, List.foldl_append]

end Agenda

/-! ## §3 Following a worker -/

namespace Engine

/-- The worker at a position, unless it must stop. -/
def attentive? (e : Engine) (number position : Nat) : Option Worker := do
  let b ← e.batches[number]?
  let w ← b.workers[position]?
  if (b.stopFor e w).isSome then none else some w

/-- Whether the timer for the deadline of a batch has fired if it is due. -/
def isPrompt (e : Engine) (number : Nat) : Bool :=
  e.batches[number]?.all fun b =>
    decide (e.now < b.plan.deadline.wakeup) || e.hasFired b.plan.deadline

/-- The agenda of the worker at a position after one more event, if the event keeps to it: nothing
    that the worker waits for comes before it is due, or before the timer for the deadline if both
    are due, and no time passes beyond that.  A worker that must stop waits for nothing. -/
def heed (env : Surroundings) (number position : Nat) (e : Engine) (past : History) (a : Agenda)
    (event : Event) : Option Agenda :=
  match e.attentive? number position with
  | none => some a
  | some w =>
    match event with
    | .signal n i s =>
      if n = number ∧ i = position ∧ w.awaits s = true then
        if a.upcoming w = some (e.now, s) ∧ e.isPrompt number = true then
          let h := (e.step event).2
          some ((a.reached w e.now).follow env (past ++ h).sendingsTo e.now
            ((h.of number).effectsAt position))
        else none
      else some a
    | .advance d => if a.allows w (e.now.after d) then some a else none
    | _ => some a

/-- The agenda of the worker at a position after a list of events, if all of them keep to it. -/
def attend (env : Surroundings) (number position : Nat) (e : Engine) (past : History) (a : Agenda) :
    List Event → Option Agenda
  | [] => some a
  | event :: rest => do
    let next ← e.heed env number position past a event
    (e.step event).1.attend env number position (past ++ (e.step event).2) next rest

theorem attend_append (env : Surroundings) (number position : Nat) (e : Engine) (past : History)
    (a : Agenda) (xs ys : List Event) :
    e.attend env number position past a (xs ++ ys) =
      (e.attend env number position past a xs).bind fun next =>
        (e.run xs).1.attend env number position (past ++ (e.run xs).2) next ys := by
  induction xs generalizing e past a with
  | nil => simp [attend, run]
  | cons event rest ih =>
    simp only [List.cons_append, attend, run]
    cases e.heed env number position past a event with
    | none => rfl
    | some next => simp [ih]

theorem attend_concat (env : Surroundings) (number position : Nat) (e : Engine) (past : History)
    (a : Agenda) (events : List Event) (event : Event) :
    e.attend env number position past a (events ++ [event]) =
      (e.attend env number position past a events).bind fun next =>
        (e.run events).1.heed env number position (past ++ (e.run events).2) next event := by
  rw [attend_append]
  simp [attend]

section

variable {env : Surroundings} {number position : Nat} {e : Engine} {past : History} {a : Agenda}
  {w : Worker} {s : Signal}

/-- A worker that must stop heeds nothing. -/
theorem heed_of_inattentive (h : e.attentive? number position = none) (event : Event) :
    e.heed env number position past a event = some a := by
  simp [heed, h]

/-- A signal that the worker does not wait for makes no difference. -/
theorem heed_of_deaf (hw : e.attentive? number position = some w) (h : w.awaits s = false) :
    e.heed env number position past a (.signal number position s) = some a := by
  simp [heed, hw, h]

/-- A signal that the worker waits for is the next one, at its instant, and no timer is late. -/
theorem heed_of_awaits (env : Surroundings) (past : History) (a : Agenda)
    (hw : e.attentive? number position = some w) (h : w.awaits s = true) :
    e.heed env number position past a (.signal number position s) =
      if a.upcoming w = some (e.now, s) ∧ e.isPrompt number = true then
        some ((a.reached w e.now).follow env
          (past ++ (e.step (.signal number position s)).2).sendingsTo e.now
          (((e.step (.signal number position s)).2.of number).effectsAt position))
      else none := by
  simp [heed, hw, h]

/-- Other events leave the agenda as it is, and time does not pass beyond what comes next. -/
theorem heed_other {event : Event} {next : Agenda}
    (hevent : ∀ s, event ≠ .signal number position s)
    (h : e.heed env number position past a event = some next) :
    next = a ∧ ∀ d, event = .advance d → e.attentive? number position = some w →
      ∀ time s, a.upcoming w = some (time, s) → e.now.after d ≤ time := by
  unfold heed at h
  split at h
  · rename_i hnone
    obtain rfl := Option.some.inj h
    exact ⟨rfl, fun d _ hw => by rw [hnone] at hw; cases hw⟩
  · rename_i v hv
    split at h
    · rename_i n i s
      have hother : ¬ (n = number ∧ i = position ∧ v.awaits s = true) := by
        rintro ⟨rfl, rfl, _⟩
        exact hevent s rfl
      rw [if_neg hother] at h
      obtain rfl := Option.some.inj h
      exact ⟨rfl, by simp⟩
    · rename_i d
      split at h
      · rename_i hdue
        obtain rfl := Option.some.inj h
        refine ⟨rfl, fun d' hd hw time s hupcoming => ?_⟩
        obtain rfl : d = d' := by simpa using hd
        obtain rfl : v = w := Option.some.inj (hv.symm.trans hw)
        exact Agenda.allows_iff.mp hdue time s hupcoming
      · cases h
    · rename_i hrest
      obtain rfl := Option.some.inj h
      exact ⟨rfl, fun d hd => absurd hd (hrest d)⟩

/-- The timers may be looked after at any instant. -/
theorem heed_tick (e : Engine) (past : History) (a : Agenda) :
    e.heed env number position past a .tick = some a := by
  unfold heed
  cases e.attentive? number position <;> rfl

/-- Time may pass up to what comes next. -/
theorem heed_advance (hw : e.attentive? number position = some w) {d : Duration}
    (h : ∀ time s, a.upcoming w = some (time, s) → e.now.after d ≤ time) :
    e.heed env number position past a (.advance d) = some a := by
  have hallows := Agenda.allows_iff.mpr h
  simp only [heed, hw]
  rw [if_pos hallows]

end

end Engine

end Replicast
