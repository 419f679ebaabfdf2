import Replicast.Proofs.Delivery
import Replicast.Proofs.Independence.Stand
import Replicast.Proofs.RetryLoop
/-!
# What a target gets

A worker that need not stop does nothing but what it is made to do from outside: by the copies of the
body that are opened for it, and by the signals that it waits for.  When it has its turns makes no
difference.  And one that must stop either ends, with an outcome that says so, or does not notice.

## Overview

* `Supply` is one thing that a target gets, and `Engine.supplied` are the supplies of a run.
* `Worker.poised` is a worker brought on by its turns, and `Worker.bring` what a supply does to it.
* `Worker.bring_step` says that a move does what its supplies do, and `Worker.step_of_stop` that a
  move of a worker that must stop does so, too, or ends it.
* `Operation.prepare_agrees` says that requests are built alike when their copies open alike.
-/

namespace Replicast

/-! ## §1 Supplies -/

/-- One thing that a target gets from outside. -/
inductive Supply where
  /-- A copy of the body was asked for: why there is none, if there is none. -/
  | copy (failure : Option Error)
  /-- A signal that its worker was waiting for. -/
  | signal (s : Signal)
deriving DecidableEq, Repr

namespace Supply

/-- What a copy of the body has come to. -/
def copy? : Supply → Option (Option Error)
  | .copy failure => some failure
  | .signal _ => none

/-- What was answered. -/
def signal? : Supply → Option Signal
  | .copy _ => none
  | .signal s => some s

end Supply

/-- Whether an outcome says that its batch was interrupted. -/
def Outcome.isInterrupted (o : Outcome) : Bool :=
  o.error.any fun error => error.code == .deadlineExceeded || error.code == .cancelled

namespace Worker

/-- Why an opening of the body gives no copy for a worker, if it gives none. -/
def openingError? (w : Worker) (p : Plan) (openings : Nat) : Option Error :=
  match p.body.openCopy openings with
  | .ok _ => none
  | .error cause => some (.bodyReplay w.request.method w.request.redactedUri cause)

/-- Whether the next attempt of a worker asks for a copy of the body. -/
def asks (w : Worker) (p : Plan) : Bool := w.initial.isNone && p.replays w.request

/-- What a worker gets by a signal. -/
def supplies (w : Worker) (p : Plan) (openings : Nat) (s : Signal) : List Supply :=
  if s = .turn then
    if w.phase = .ready ∧ w.asks p = true then [.copy (w.openingError? p openings)] else []
  else if w.awaits s = true then [.signal s]
  else []

/-! ## §2 What supplies do -/

variable {p : Plan} {openings : Nat} {w : Worker} {s : Signal} {m : Move}

/-- A worker brought on by its turns, up to where it waits for something from outside. -/
def poised (w : Worker) (p : Plan) : Worker :=
  match w.phase with
  | .queued | .ready =>
    if w.asks p then { w with phase := .ready }
    else { w with attempts := w.attempts + 1, initial := none, phase := .sending }
  | _ => w

/-- The move of a poised worker on a supply. -/
def take (w : Worker) (p : Plan) : Supply → Move
  | .copy none => ⟨{ w.nextAttempt with phase := .sending }, [], none⟩
  | .copy (some e) => w.nextAttempt.fail e
  | .signal s => w.step p none 0 s

/-- A poised worker and the outcomes that were posted for it, brought on by a supply. -/
def bring (p : Plan) (c : Worker × List Outcome) (x : Supply) : Worker × List Outcome :=
  ((c.1.take p x).worker.poised p, c.2 ++ (c.1.take p x).outcome.toList)

theorem poised_isLive (w : Worker) (p : Plan) : (w.poised p).isLive = w.isLive := by
  unfold poised
  cases hp : w.phase <;> simp only <;> try rfl
  all_goals split <;> simp [isLive, hp]

theorem poised_of_isWaiting (h : w.isWaiting = true) : w.poised p = w := by
  unfold isWaiting at h
  unfold poised
  cases hp : w.phase <;> simp_all

/-- A signal that is awaited is a turn, or the worker waits for something from outside. -/
theorem isWaiting_of_awaits (hturn : s ≠ .turn) (h : w.awaits s = true) : w.isWaiting = true := by
  unfold isWaiting
  cases hp : w.phase <;> cases s <;> simp_all [awaits, isWaiting]

/-- Whether a supply is what a poised worker is waiting for. -/
def Fits (w : Worker) (p : Plan) : Supply → Prop
  | .copy failure => w.phase = .ready ∧ ∃ openings, failure = w.openingError? p openings
  | .signal _ => w.isWaiting = true

/-- A worker gets what it is waiting for. -/
theorem fits_of_supplies {x : Supply} (h : x ∈ w.supplies p openings s) :
    (w.poised p).Fits p x := by
  unfold supplies at h
  split at h
  · split at h
    · rename_i hready
      obtain rfl := List.mem_singleton.mp h
      simp only [poised, hready.1, hready.2, if_true]
      exact ⟨rfl, openings, rfl⟩
    · cases h
  · split at h
    · rename_i hturn hawaits
      obtain rfl := List.mem_singleton.mp h
      have hwaiting := isWaiting_of_awaits hturn hawaits
      rw [poised_of_isWaiting hwaiting]
      exact hwaiting
    · cases h

/-- A worker that has ended is not waiting for anything. -/
theorem Fits.isLive {x : Supply} (h : w.Fits p x) : w.isLive = true := by
  cases x with
  | copy failure => exact isLive_of_phase h.1 (by simp)
  | signal s => exact isLive_of_isWaiting h

/-- A signal that the worker does not wait for gives it nothing. -/
theorem supplies_of_deaf (h : w.awaits s = false) : w.supplies p openings s = [] := by
  unfold supplies
  by_cases hturn : s = .turn
  · subst hturn
    have hphase : w.phase ≠ .ready := fun hphase => by simp [awaits, hphase] at h
    simp [hphase]
  · simp [hturn, h]

/-- A signal from outside that the worker waits for is what it gets. -/
theorem supplies_of_awaits (hturn : s ≠ .turn) (h : w.awaits s = true) :
    w.supplies p openings s = [.signal s] := by
  simp [supplies, hturn, h]

/-- Where a worker waits, the number of openings makes no difference. -/
theorem step_of_isWaiting (h : w.isWaiting = true) (openings : Nat) (s : Signal) :
    w.step p none openings s = w.step p none 0 s := by
  unfold isWaiting at h
  unfold step
  cases hp : w.phase <;> simp_all

/-- **A move of a worker that need not stop does what its supplies do**, and without any it leaves
    the worker as poised as it was. -/
theorem bring_step (w : Worker) (p : Plan) (openings : Nat) (s : Signal) (posted : List Outcome) :
    ((w.step p none openings s).worker.poised p,
        posted ++ (w.step p none openings s).outcome.toList) =
      (w.supplies p openings s).foldl (bring p) (w.poised p, posted) := by
  cases hawaits : w.awaits s with
  | false => simp [supplies_of_deaf hawaits, step_of_deaf hawaits, stay]
  | true =>
    by_cases hturn : s = .turn
    · subst hturn
      rcases awaits_turn.mp hawaits with hqueued | hready
      · -- The first turn only makes the worker ready.
        have henter : w.step p none openings .turn =
            ⟨{ w with phase := .ready }, [.entered], none⟩ := by
          unfold step
          rw [hqueued]
        simp [henter, supplies, poised, asks, hqueued]
      · have hattempt : w.step p none openings .turn = w.attempt p openings := by
          unfold step
          rw [hready]
        have hmove := attempt_attempt p openings w
        rw [hattempt]
        generalize w.attempt p openings = m at hmove ⊢
        cases hmove with
        | initial hinit => simp [supplies, poised, asks, hready, hinit, send, nextAttempt]
        | empty hinit hreplay =>
          simp [supplies, poised, asks, hready, hinit, hreplay, send, nextAttempt]
        | fresh hinit hreplay hopen =>
          simp [supplies, poised, asks, hready, hinit, hreplay, send, nextAttempt, openingError?,
            hopen, bring, take]
        | unopened hinit hreplay hopen hm =>
          simp [supplies, poised, asks, hready, hinit, hreplay, nextAttempt, openingError?,
            hopen, bring, take, hm, fail, finish]
    · have hwaiting := isWaiting_of_awaits hturn hawaits
      rw [supplies_of_awaits hturn hawaits, List.foldl_cons, List.foldl_nil, bring,
        poised_of_isWaiting hwaiting, take, step_of_isWaiting hwaiting]

/-- A worker that must stop does what it would do otherwise, and it gets nothing; or it ends, with
    the reason to stop. -/
theorem step_of_stop (w : Worker) (p : Plan) (error : Error) (openings : Nat) (s : Signal) :
    (w.step p (some error) openings s = w.step p none openings s ∧
        w.supplies p openings s = []) ∨
      ∃ o, (w.step p (some error) openings s).outcome = some o ∧ o.error = some error := by
  unfold step
  cases hp : w.phase with
  | unbuilt | finished | aborted | queued =>
    exact .inl ⟨rfl, by cases s <;> simp [supplies, awaits, isWaiting, hp]⟩
  | ready =>
    -- A worker that is ready notices at its turn only.
    by_cases hturn : s = .turn
    · subst hturn
      exact .inr ⟨_, rfl, rfl⟩
    · refine .inl ⟨?_, supplies_of_deaf (by cases s <;> simp_all [awaits, isWaiting])⟩
      cases s <;> first | rfl | exact absurd rfl hturn
  | sending | pausing | reading _ _ => exact .inr ⟨_, rfl, rfl⟩

/-- The deadline makes no difference to a worker that need not stop. -/
theorem bring_deadline (p : Plan) (deadline : Instant) :
    bring { p with deadline } = bring p := by
  funext c x
  cases x with
  | copy failure => cases failure <;> rfl
  | signal s => rfl

end Worker

/-! ## §3 Requests that are built -/

namespace Operation

/-- What a target gets when its request is built. -/
def Preparation.supplies (p : Preparation) : List Supply :=
  if p.opened then
    match p.copy with
    | .ok _ => [.copy none]
    | .error e => [.copy (some e)]
  else []

/-- Nothing was answered yet. -/
@[simp] theorem Preparation.supplies_signals (p : Preparation) :
    p.supplies.filterMap Supply.signal? = [] := by
  unfold supplies
  split
  · split <;> rfl
  · rfl

theorem Preparation.supplies_copies (p : Preparation) :
    (p.supplies.filterMap Supply.copy?).map Supply.copy = p.supplies := by
  unfold supplies
  split
  · split <;> rfl
  · rfl

theorem Preparation.supplies_copies_length (p : Preparation) :
    (p.supplies.filterMap Supply.copy?).length = p.supplies.length := by
  rw [← List.length_map, p.supplies_copies]

variable (op : Operation) (client : Client) (t : Target)

/-- Whether the body is opened does not depend on the openings so far. -/
theorem prepare_supplies_length (first second : Nat) :
    (op.prepare client t first).supplies.length = (op.prepare client t second).supplies.length := by
  unfold prepare
  cases op.uriFor t with
  | error text => rfl
  | ok uri =>
    simp only
    cases (intercept client t ⟨op.method, uri, op.headersFor client⟩).bind (·.refusal) with
    | some e => rfl
    | none =>
      cases op.body.openCopy first <;> cases op.body.openCopy second <;> rfl

/-- **Requests are built alike when their copies open alike**, whatever is in the copies. -/
theorem prepare_agrees {first second : Nat} (p : Plan)
    (h : (op.prepare client t first).supplies = (op.prepare client t second).supplies) :
    (Engine.workerOf (op.prepare client t first)).poised p =
        (Engine.workerOf (op.prepare client t second)).poised p ∧
      (op.prepare client t first).failure? = (op.prepare client t second).failure? := by
  revert h
  unfold prepare
  cases op.uriFor t with
  | error text => exact fun _ => ⟨rfl, rfl⟩
  | ok uri =>
    simp only
    cases (intercept client t ⟨op.method, uri, op.headersFor client⟩).bind (·.refusal) with
    | some e => exact fun _ => ⟨rfl, rfl⟩
    | none =>
      cases op.body.openCopy first <;> cases op.body.openCopy second <;> intro h
      · simp_all [Preparation.supplies, Engine.workerOf, Preparation.failure?]
      · cases h
      · cases h
      · exact ⟨rfl, rfl⟩

end Operation

/-! ## §4 Supplies in a run -/

namespace Engine

open Operation

/-- What the target at a position of a batch gets by an event; nothing, when its worker must stop. -/
def suppliedAt (e : Engine) (number position : Nat) : Event → List Supply
  | .dispatch op targets =>
    if number = e.batches.length then
      ((op.prepareAll e.client e.openings targets)[position]?).elim [] Preparation.supplies
    else []
  | .replicate op targets _ _ =>
    if number = e.batches.length then
      (({ op with handler := none }.prepareAll e.client e.openings targets)[position]?).elim []
        Preparation.supplies
    else []
  | .signal n i s =>
    if n = number ∧ i = position then
      (e.batches[number]?).elim [] fun b => (b.workers[position]?).elim [] fun w =>
        if (b.stopFor e w).isSome then [] else w.supplies b.plan e.openings s
    else []
  | _ => []

/-- What the target at a position of a batch gets in a run. -/
def supplied (e : Engine) (number position : Nat) : List Event → List Supply
  | [] => []
  | event :: rest =>
    e.suppliedAt number position event ++ (e.step event).1.supplied number position rest

variable {e : Engine} {number position : Nat}

theorem supplied_append (e : Engine) (xs ys : List Event) :
    e.supplied number position (xs ++ ys) =
      e.supplied number position xs ++ (e.run xs).1.supplied number position ys := by
  induction xs generalizing e with
  | nil => rfl
  | cons x xs ih => simp [supplied, run, ih]

theorem supplied_concat (e : Engine) (events : List Event) (event : Event) :
    e.supplied number position (events ++ [event]) =
      e.supplied number position events ++ (e.run events).1.suppliedAt number position event := by
  simp [supplied_append, supplied]

/-- The signals to the target's own worker are what it gets by an event of a batch that is there. -/
theorem suppliedAt_other {b : Batch} (hb : e.batches[number]? = some b) {event : Event}
    (hother : ∀ s, event ≠ .signal number position s) :
    e.suppliedAt number position event = [] := by
  have hlt : number < e.batches.length := (List.getElem?_eq_some_iff.mp hb).1
  cases event with
  | dispatch op targets | replicate op targets _ _ => simp [suppliedAt, Nat.ne_of_lt hlt]
  | signal n i s =>
    have hne : ¬ (n = number ∧ i = position) := by
      rintro ⟨rfl, rfl⟩
      exact hother s rfl
    rw [suppliedAt, if_neg hne]
  | _ => rfl

/-- A signal to a worker does what the target gets by it, or it ends the worker because the batch is
    interrupted. -/
theorem suppliedAt_signal {b : Batch} {w : Worker} (hb : e.batches[number]? = some b)
    (hw : b.workers[position]? = some w) (s : Signal) :
    (w.step b.plan (b.stopFor e w) e.openings s = w.step b.plan none e.openings s ∧
        e.suppliedAt number position (.signal number position s) =
          w.supplies b.plan e.openings s) ∨
      ∃ o, (w.step b.plan (b.stopFor e w) e.openings s).outcome = some o ∧
        o.isInterrupted = true := by
  have hsupplied : e.suppliedAt number position (.signal number position s) =
      if (b.stopFor e w).isSome then [] else w.supplies b.plan e.openings s := by
    simp [suppliedAt, hb, hw]
  rw [hsupplied]
  cases hstop : b.stopFor e w with
  | none => exact .inl ⟨rfl, rfl⟩
  | some error =>
    rcases w.step_of_stop b.plan error e.openings s with ⟨hsame, hnothing⟩ | ⟨o, hout, herror⟩
    · exact .inl ⟨hsame, hnothing.symm⟩
    · refine .inr ⟨o, hout, ?_⟩
      rcases stopFor_reason hstop with hcode | hcode <;> simp [Outcome.isInterrupted, herror, hcode]

end Engine

end Replicast
