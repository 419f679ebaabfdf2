import Replicast.Proofs.Worker.Transition
/-!
# The retry loop of a worker

A transport that answers in a given order determines what a worker does.  The reference below says
it without any state: the loop ends at the first success or at the last attempt allowed, pauses
after every rate-limited answer before that, and makes its outcome from the answer it ended with.

## Overview

* `Reply` is an answer together with the frames of its body.
* `lastAttempt` is the attempt that the loop ends with, `exchangesFor` what passes between worker,
  transport and clock, and `outcomeFor` the outcome.
* `Cursor` tells how far a transport has come with its replies.
* `Worker.Follows` is the invariant of a worker that is served by them, and
  `Worker.Follows.transition` its step.
-/

namespace Replicast

/-! ## §1 The reference -/

/-- What a transport has in store for one request. -/
inductive Reply where
  | response (head : ResponseHead) (frames : List Frame)
  | failure (f : TransportFailure)
deriving DecidableEq, Repr

namespace Reply

/-- The answer, without its body. -/
def answer : Reply → Answer
  | response head _ => .response head
  | failure f => .failure f

/-- The frames of the body. -/
def frames : Reply → List Frame
  | response _ frames => frames
  | failure _ => []

/-- Whether no further attempt is made after this reply. -/
def succeeds : Reply → Bool
  | response head _ => head.status.isTerminalSuccess
  | failure _ => false

/-- Whether the reply asks for a pause. -/
def isRateLimited : Reply → Bool
  | response head _ => head.status == Status.tooManyRequests
  | failure _ => false

/-- The reply with an answer. -/
def ofAnswer : Answer → List Frame → Reply
  | .response head, frames => .response head frames
  | .failure f, _ => .failure f

theorem eq_of_answer {r : Reply} {a : Answer} (h : r.answer = a) : r = ofAnswer a r.frames := by
  subst h
  cases r <;> rfl

end Reply

/-- What passes between a worker, the transport and the clock. -/
inductive Exchange where
  | request
  | answer (a : Answer)
  | pause (d : Duration)
deriving DecidableEq, Repr

/-- The part of an effect in the exchanges of its worker. -/
def Effect.exchange? : Effect → Option Exchange
  | .sent _ _ => some .request
  | .answered a => some (.answer a)
  | .paused d => some (.pause d)
  | _ => none

/-- The number of attempts: up to the first success, and no more than the bound. -/
def lastAttempt (bound : Nat) (replies : Nat → Reply) : Nat :=
  ((List.range bound).find? fun i => (replies i).succeeds).elim bound (· + 1)

/-- The exchanges of an attempt after which there is another one. -/
def Reply.exchanges (policy : RetryPolicy) (r : Reply) : List Exchange :=
  [.request, .answer r.answer] ++ if r.isRateLimited then [.pause policy.rateLimitBackoff] else []

/-- The exchanges of the first attempts, when there is another one after them. -/
def exchangesBefore (policy : RetryPolicy) (replies : Nat → Reply) (attempts : Nat) :
    List Exchange :=
  (List.range attempts).flatMap fun i => (replies i).exchanges policy

/-- All exchanges. -/
def exchangesFor (policy : RetryPolicy) (replies : Nat → Reply) : List Exchange :=
  let last := lastAttempt policy.maxAttempts replies - 1
  exchangesBefore policy replies last ++ [.request, .answer (replies last).answer]

/-- The outcome of a target whose last attempt got a reply: the head and the body of a response, or
    why there is none. -/
def Reply.outcome (r : Reply) (p : Plan) (target : Target) (request : RequestHead)
    (attempts : Nat) : Outcome :=
  match r with
  | response head frames =>
    match BoundedReader.readAll p.maxResponseBodyBytes frames with
    | .ok body => ⟨target, request, some head, body, none, attempts⟩
    | .error (.broken cause) => ⟨target, request, some head, [], some (.readBody cause), attempts⟩
    | .error (.tooLarge actual) =>
      ⟨target, request, some head, [],
        some (.responseBodyTooLarge p.maxResponseBodyBytes actual request.method
          request.redactedUri),
        attempts⟩
  | failure f =>
    ⟨target, request, none, [],
      some (.transport f.kind request.method request.redactedUri f.text), attempts⟩

/-- The outcome of all attempts. -/
def outcomeFor (p : Plan) (target : Target) (request : RequestHead) (replies : Nat → Reply) :
    Outcome :=
  let attempts := lastAttempt p.retryPolicy.maxAttempts replies
  (replies (attempts - 1)).outcome p target request attempts

variable {bound : Nat} {policy : RetryPolicy} {replies : Nat → Reply}

/-- What the last attempt is: none before it succeeds, and it does so itself or is the last one
    allowed. -/
structure IsLast (bound : Nat) (replies : Nat → Reply) (last : Nat) : Prop where
  pos : 0 < last
  le : last ≤ bound
  before : ∀ i, i + 1 < last → (replies i).succeeds = false
  ends : last = bound ∨ (replies (last - 1)).succeeds = true

theorem lastAttempt_isLast (hbound : 0 < bound) :
    IsLast bound replies (lastAttempt bound replies) := by
  unfold lastAttempt
  cases hfind : (List.range bound).find? fun i => (replies i).succeeds with
  | none =>
    have hnone := List.find?_range_eq_none.mp hfind
    -- No reply succeeds, so that the bound ends the loop.
    refine ⟨hbound, Nat.le_refl _, fun i hi => ?_, .inl rfl⟩
    simpa using hnone i (Nat.lt_of_succ_lt hi)
  | some i =>
    obtain ⟨hsuccess, hmem, hbefore⟩ := List.find?_range_eq_some.mp hfind
    -- The first success ends it.
    refine ⟨Nat.succ_pos i, List.mem_range.mp hmem, fun j hj => ?_, .inr hsuccess⟩
    simpa using hbefore j (Nat.lt_of_succ_lt_succ hj)

/-- An attempt that fails with attempts to spare is not the last. -/
theorem IsLast.lt_of_going {last i : Nat} (h : IsLast bound replies last) (hi : i < last)
    (hbound : i + 1 < bound) (hfails : (replies i).succeeds = false) : i + 1 < last := by
  rcases Nat.lt_or_ge (i + 1) last with hlt | hge
  · exact hlt
  obtain rfl : last = i + 1 := by omega
  -- Were this attempt the last one, it would have succeeded or spent the bound.
  rcases h.ends with heq | hsuccess
  · omega
  · rw [Nat.add_sub_cancel, hfails] at hsuccess
    cases hsuccess

/-- An attempt that ends the loop is the last. -/
theorem IsLast.eq_of_final {last i : Nat} (h : IsLast bound replies last) (hi : i < last)
    (hfinal : (replies i).succeeds = true ∨ bound ≤ i + 1) : i + 1 = last := by
  rcases Nat.lt_or_ge (i + 1) last with hlt | hge
  · have hfails := h.before i hlt
    have hle := h.le
    -- Were there a later attempt, this one would have failed with attempts to spare.
    rcases hfinal with hsuccess | hbound
    · rw [hfails] at hsuccess
      cases hsuccess
    · omega
  · omega

theorem exchangesBefore_succ (attempts : Nat) :
    exchangesBefore policy replies (attempts + 1) =
      exchangesBefore policy replies attempts ++ (replies attempts).exchanges policy := by
  simp [exchangesBefore, List.range_succ]

theorem exchanges_count (r : Reply) : (r.exchanges policy).count .request = 1 := by
  unfold Reply.exchanges
  split <;> simp

theorem exchangesBefore_count (attempts : Nat) :
    (exchangesBefore policy replies attempts).count .request = attempts := by
  induction attempts with
  | zero => rfl
  | succ attempts ih => rw [exchangesBefore_succ, List.count_append, ih, exchanges_count]

/-- There are as many requests as attempts. -/
theorem exchangesFor_count (hbound : 0 < policy.maxAttempts) :
    (exchangesFor policy replies).count .request = lastAttempt policy.maxAttempts replies := by
  have hpos : 0 < lastAttempt policy.maxAttempts replies := (lastAttempt_isLast hbound).pos
  have hone (a : Answer) : [Exchange.request, .answer a].count .request = 1 := by simp
  simp only [exchangesFor, List.count_append, exchangesBefore_count, hone]
  omega

theorem Reply.outcome_attempts (r : Reply) (p : Plan) (target : Target) (request : RequestHead)
    (attempts : Nat) : (r.outcome p target request attempts).attempts = attempts := by
  cases r with
  | failure f => rfl
  | response head frames =>
    cases hread : BoundedReader.readAll p.maxResponseBodyBytes frames with
    | ok body => simp only [Reply.outcome, hread]
    | error fault => cases fault <;> simp only [Reply.outcome, hread]

/-- The outcome tells the number of attempts. -/
theorem outcomeFor_attempts (p : Plan) (target : Target) (request : RequestHead)
    (replies : Nat → Reply) : (outcomeFor p target request replies).attempts =
      lastAttempt p.retryPolicy.maxAttempts replies :=
  Reply.outcome_attempts _ _ _ _ _

/-! ## §2 Transports -/

/-- How far a transport has come: how many requests it has answered, and which frames of the last
    answer are still to come. -/
structure Cursor where
  answered : Nat
  left : List Frame
deriving DecidableEq, Repr

namespace Cursor

/-- Nothing answered yet. -/
def start : Cursor := ⟨0, []⟩

/-- The next signal, if it is one that a transport with these replies sends.  Turns and the ends of
    pauses are not the transport's. -/
def next (replies : Nat → Reply) (c : Cursor) : Signal → Option Cursor
  | .turn | .pauseOver => some c
  | .answer a =>
    if a = (replies c.answered).answer then some ⟨c.answered + 1, (replies c.answered).frames⟩
    else none
  | .frame f =>
    match c.left with
    | [] => none
    | g :: rest => if f = g then some { c with left := rest } else none
  | .bodyEnd => if c.left = [] then some c else none
  | .panic => none

end Cursor

/-- The cursor of a transport with these replies after it has sent some signals, if they are the
    ones that it sends. -/
def serve (replies : Nat → Reply) (signals : List Signal) : Option Cursor :=
  signals.foldlM (Cursor.next replies) Cursor.start

theorem serve_append (replies : Nat → Reply) (signals more : List Signal) :
    serve replies (signals ++ more) =
      (serve replies signals).bind fun c => more.foldlM (Cursor.next replies) c := by
  simp [serve, List.foldlM_append]

/-! ## §3 Bodies -/

theorem BoundedReader.readAll_of_error {limit : Nat} {before rest : List Frame} {f : Frame}
    {reader : BoundedReader} {fault : BodyFault}
    (hbefore : before.foldlM (BoundedReader.step limit) BoundedReader.start = .ok reader)
    (hfault : reader.step limit f = .error fault) :
    BoundedReader.readAll limit (before ++ f :: rest) = .error fault := by
  simp only [BoundedReader.readAll, List.foldlM_append, hbefore, List.foldlM_cons]
  simp only [bind, Except.bind, hfault]
  rfl

theorem BoundedReader.readAll_of_ok {limit : Nat} {frames : List Frame} {reader : BoundedReader}
    (hframes : frames.foldlM (BoundedReader.step limit) BoundedReader.start = .ok reader) :
    BoundedReader.readAll limit frames = .ok reader.taken := by
  rw [BoundedReader.readAll, hframes]
  rfl

/-! ## §4 Workers that are served -/

namespace Worker

/-- Where a worker stands that is served by these replies, with its exchanges and its posts. -/
inductive Follows (p : Plan) (replies : Nat → Reply) (w : Worker) (c : Cursor) :
    List Exchange → List Outcome → Prop where
  /-- Before an attempt. -/
  | between :
      w.phase = .queued ∨ w.phase = .ready ∨ w.phase = .pausing → w.attempts = c.answered →
      c.answered < lastAttempt p.retryPolicy.maxAttempts replies →
      Follows p replies w c (exchangesBefore p.retryPolicy replies c.answered) []
  | sending :
      w.phase = .sending → w.attempts = c.answered + 1 →
      c.answered < lastAttempt p.retryPolicy.maxAttempts replies →
      Follows p replies w c (exchangesBefore p.retryPolicy replies c.answered ++ [.request]) []
  /-- Reading the last reply, of which some frames were read. -/
  | reading {head : ResponseHead} {reader : BoundedReader} {before : List Frame} :
      w.phase = .reading head reader →
      w.attempts = lastAttempt p.retryPolicy.maxAttempts replies →
      replies (lastAttempt p.retryPolicy.maxAttempts replies - 1) =
        .response head (before ++ c.left) →
      before.foldlM (BoundedReader.step p.maxResponseBodyBytes) BoundedReader.start = .ok reader →
      Follows p replies w c (exchangesFor p.retryPolicy replies) []
  | finished :
      w.phase = .finished →
      Follows p replies w c (exchangesFor p.retryPolicy replies)
        [outcomeFor p w.target w.request replies]

variable {p : Plan} {openings : Nat} {w : Worker} {c : Cursor} {s : Signal} {m : Move}
  {trace : List Exchange} {posted : List Outcome}

/-- A bound on the signals that the worker has still to hear. -/
def effort (p : Plan) (replies : Nat → Reply) (w : Worker) (c : Cursor) : Nat :=
  let last := lastAttempt p.retryPolicy.maxAttempts replies
  -- Four signals for each attempt to come cover its turn, its answer and a pause, and at first one
  -- more turn.  The last answer leaves its frames and the end of its body.
  let rest := (replies (last - 1)).frames.length + 4 * (last - c.answered)
  match w.phase with
  | .queued => rest + 3
  | .pausing => rest + 2
  | .ready => rest + 1
  | .sending => rest
  | .reading _ _ => c.left.length + 1
  | .unbuilt | .finished | .aborted => 0

/-- A move keeps a worker with the reference, up to the next cursor, and costs effort. -/
structure Advances (p : Plan) (replies : Nat → Reply) (w : Worker) (c : Cursor)
    (trace : List Exchange) (posted : List Outcome) (m : Move) (next : Cursor) : Prop where
  follows : Follows p replies m.worker next (trace ++ m.effects.filterMap Effect.exchange?)
    (posted ++ m.outcome.toList)
  effort_lt : effort p replies m.worker next < effort p replies w c

theorem Advances.of_eq {next : Cursor} {after : List Exchange} {delivered : List Outcome}
    (h : Follows p replies m.worker next after delivered)
    (htrace : trace ++ m.effects.filterMap Effect.exchange? = after)
    (hposted : posted ++ m.outcome.toList = delivered)
    (heffort : effort p replies m.worker next < effort p replies w c) :
    Advances p replies w c trace posted m next :=
  ⟨by rw [htrace, hposted]; exact h, heffort⟩

theorem finish_exchanges (w : Worker) (events : List Log.Event) (o : Outcome) :
    (w.finish events o).effects.filterMap Effect.exchange? = [] := by
  refine List.filterMap_eq_nil_iff.mpr fun x hx => ?_
  rcases mem_finish_effects hx with ⟨event, rfl⟩ | rfl | rfl <;> rfl

/-! ## §5 What the phase tells -/

theorem Follows.of_between (h : Follows p replies w c trace posted)
    (hphase : w.phase = .queued ∨ w.phase = .ready ∨ w.phase = .pausing) :
    w.attempts = c.answered ∧ c.answered < lastAttempt p.retryPolicy.maxAttempts replies ∧
      trace = exchangesBefore p.retryPolicy replies c.answered ∧ posted = [] := by
  cases h with
  | between _ hattempts hlt => exact ⟨hattempts, hlt, rfl, rfl⟩
  | sending hp _ _ | reading hp _ _ _ | finished hp => simp [hp] at hphase

theorem Follows.of_sending (h : Follows p replies w c trace posted)
    (hphase : w.phase = .sending) :
    w.attempts = c.answered + 1 ∧ c.answered < lastAttempt p.retryPolicy.maxAttempts replies ∧
      trace = exchangesBefore p.retryPolicy replies c.answered ++ [.request] ∧ posted = [] := by
  cases h with
  | sending _ hattempts hlt => exact ⟨hattempts, hlt, rfl, rfl⟩
  | between hp _ _ => simp [hphase] at hp
  | reading hp _ _ _ | finished hp => simp [hphase] at hp

theorem Follows.of_reading {head : ResponseHead} {reader : BoundedReader}
    (h : Follows p replies w c trace posted) (hphase : w.phase = .reading head reader) :
    w.attempts = lastAttempt p.retryPolicy.maxAttempts replies ∧
      trace = exchangesFor p.retryPolicy replies ∧ posted = [] ∧
      ∃ before, replies (lastAttempt p.retryPolicy.maxAttempts replies - 1) =
          .response head (before ++ c.left) ∧
        before.foldlM (BoundedReader.step p.maxResponseBodyBytes) BoundedReader.start =
          .ok reader := by
  cases h with
  | between hp _ _ => simp [hphase] at hp
  | sending hp _ _ | finished hp => simp [hphase] at hp
  | @reading _ _ before hp hattempts hreply hread =>
    rw [hphase] at hp
    cases hp
    exact ⟨hattempts, rfl, rfl, before, hreply, hread⟩

/-- A worker that has ended has the exchanges and the outcome of the reference. -/
theorem Follows.of_ended (h : Follows p replies w c trace posted) (hended : w.isLive = false) :
    trace = exchangesFor p.retryPolicy replies ∧
      posted = [outcomeFor p w.target w.request replies] := by
  cases h with
  | between hp _ _ => rcases hp with hp | hp | hp <;> simp [isLive, hp] at hended
  | sending hp _ _ | reading hp _ _ _ => simp [isLive, hp] at hended
  | finished _ => exact ⟨rfl, rfl⟩

theorem Follows.built (h : Follows p replies w c trace posted) : w.phase ≠ .unbuilt := by
  cases h with
  | between hp _ _ => rcases hp with hp | hp | hp <;> simp [hp]
  | sending hp _ _ | reading hp _ _ _ | finished hp => simp [hp]

/-- A live worker always waits for a signal that the transport sends. -/
theorem Follows.exists_next (h : Follows p replies w c trace posted) (hlive : w.isLive = true) :
    ∃ s next, w.awaits s = true ∧ c.next replies s = some next := by
  cases h with
  | between hp _ _ =>
    rcases hp with hp | hp | hp
    · exact ⟨.turn, c, by simp [awaits, hp], rfl⟩
    · exact ⟨.turn, c, by simp [awaits, hp], rfl⟩
    · exact ⟨.pauseOver, c, by simp [awaits, hp], rfl⟩
  | sending hp _ _ =>
    exact ⟨.answer (replies c.answered).answer, _, by simp [awaits, hp], by simp [Cursor.next]; rfl⟩
  | reading hp _ _ _ =>
    -- The body is over when no frame of the last reply is left.
    cases hleft : c.left with
    | nil => exact ⟨.bodyEnd, c, by simp [awaits, hp], by simp [Cursor.next, hleft]⟩
    | cons f rest => exact ⟨.frame f, _, by simp [awaits, hp], by simp [Cursor.next, hleft]; rfl⟩
  | finished hp => simp [isLive, hp] at hlive

/-! ## §6 Moves of a served worker -/

/-- A new worker stands before its first attempt. -/
theorem follows_start (hbound : 0 < p.retryPolicy.maxAttempts) (hphase : w.phase = .queued)
    (hattempts : w.attempts = 0) : Follows p replies w Cursor.start [] [] :=
  .between (.inl hphase) hattempts (lastAttempt_isLast hbound).pos

/-- A first turn and the end of a pause only make the worker ready. -/
theorem Follows.ready {effects : List Effect} (h : Follows p replies w c trace posted)
    (hphase : w.phase = .queued ∨ w.phase = .pausing)
    (hquiet : effects.filterMap Effect.exchange? = []) :
    Advances p replies w c trace posted ⟨{ w with phase := .ready }, effects, none⟩ c := by
  obtain ⟨hattempts, hlt, rfl, rfl⟩ := h.of_between (hphase.imp id .inr)
  refine .of_eq (.between (.inr (.inl rfl)) hattempts hlt) ?_ rfl ?_
  · rw [hquiet, List.append_nil]
  · rcases hphase with hphase | hphase <;> simp [effort, hphase]

/-- Beginning an attempt hands one request to the transport, if a copy of the body can be opened. -/
theorem Follows.attempt (h : Follows p replies w c trace posted) (hphase : w.phase = .ready)
    (hopens : ∀ number, ∃ copy, p.body.openCopy number = .ok copy) :
    Advances p replies w c trace posted (w.attempt p openings) c := by
  obtain ⟨hattempts, hlt, rfl, rfl⟩ := h.of_between (.inr (.inl hphase))
  have hattempt := attempt_attempt p openings w
  generalize w.attempt p openings = m at hattempt
  -- Whichever copy is sent, the exchange is the same.
  have hsent {opened : List Effect} (copy : Stream)
      (hopened : opened.filterMap Effect.exchange? = []) :
      Advances p replies w c (exchangesBefore p.retryPolicy replies c.answered) []
        (w.nextAttempt.send p opened copy) c := by
    have htrace : (w.nextAttempt.send p opened copy).effects.filterMap Effect.exchange? =
        [.request] := by
      rw [send, List.filterMap_append, hopened]
      rfl
    exact .of_eq (.sending rfl (by simp [send, nextAttempt, hattempts]) hlt) (by rw [htrace]) rfl
      (by simp [effort, send, hphase])
  cases hattempt with
  | initial _ => exact hsent _ rfl
  | fresh _ _ _ => exact hsent _ rfl
  | empty _ _ => exact hsent _ rfl
  -- Every copy of the body opens, so that nothing is in the way of sending.
  | unopened _ _ hfault _ =>
    obtain ⟨copy, hcopy⟩ := hopens openings
    rw [hcopy] at hfault
    cases hfault

/-- After an unsuccessful response there is a pause if it was rate-limited. -/
theorem retryAfter_cases (w : Worker) (p : Plan) (status : Status) :
    ∃ phase, (w.retryAfter p status).worker = { w with phase } ∧
      (phase = .ready ∨ phase = .pausing) ∧ (w.retryAfter p status).outcome = none ∧
      (w.retryAfter p status).effects.filterMap Effect.exchange? =
        if status == Status.tooManyRequests then [.pause p.retryPolicy.rateLimitBackoff]
        else [] := by
  unfold retryAfter RetryPolicy.backoffAfter
  cases status == Status.tooManyRequests with
  | true => exact ⟨.pausing, rfl, .inr rfl, rfl, rfl⟩
  | false => exact ⟨.ready, rfl, .inl rfl, rfl, rfl⟩

/-- The next answer either goes on with another attempt or is the last one. -/
theorem Follows.receive (h : Follows p replies w c trace posted) (hphase : w.phase = .sending)
    (hbound : 0 < p.retryPolicy.maxAttempts) :
    Advances p replies w c trace posted (w.receive p (replies c.answered).answer)
      ⟨c.answered + 1, (replies c.answered).frames⟩ := by
  obtain ⟨hattempts, hlt, rfl, rfl⟩ := h.of_sending hphase
  have hlast : IsLast p.retryPolicy.maxAttempts replies _ := lastAttempt_isLast hbound
  have hreception := receive_reception p w (replies c.answered).answer
  generalize ha : (replies c.answered).answer = a at hreception
  generalize w.receive p a = m at hreception
  have hreply := Reply.eq_of_answer ha
  -- What the trace becomes at the last answer.
  have hfor (hend : c.answered + 1 = lastAttempt p.retryPolicy.maxAttempts replies) :
      exchangesBefore p.retryPolicy replies c.answered ++ [.request] ++ [.answer a] =
        exchangesFor p.retryPolicy replies := by
    rw [List.append_assoc, ← ha]
    simp [exchangesFor, ← hend]
  cases hreception with
  | @final head hfinal =>
    have hend : c.answered + 1 = lastAttempt p.retryPolicy.maxAttempts replies := by
      refine hlast.eq_of_final hlt (hfinal.imp (fun hsuccess => ?_) (hattempts ▸ ·))
      rw [hreply]
      exact hsuccess
    -- Nothing of the body was read yet.
    have hnothing : ([] : List Frame).foldlM (BoundedReader.step p.maxResponseBodyBytes)
        BoundedReader.start = .ok BoundedReader.start := rfl
    refine .of_eq (.reading rfl (hattempts.trans hend) ?_ hnothing) (hfor hend) rfl ?_
    · rw [← hend, Nat.add_sub_cancel]
      exact hreply
    · simp only [effort, readFrom, hphase, ← hend, Nat.add_sub_cancel]
      omega
  | @again head hfails hmore =>
    have hnext : c.answered + 1 < lastAttempt p.retryPolicy.maxAttempts replies := by
      -- No success, and attempts to spare: there is another attempt.
      refine hlast.lt_of_going hlt (hattempts ▸ hmore) ?_
      rw [hreply]
      exact hfails
    have hexchanges : (replies c.answered).exchanges p.retryPolicy =
        [.request] ++ [.answer (.response head)] ++
        if head.status == Status.tooManyRequests then [.pause p.retryPolicy.rateLimitBackoff]
        else [] := by
      rw [hreply]
      rfl
    obtain ⟨phase, hworker, hafter, hnone, htold⟩ := retryAfter_cases w p head.status
    refine .of_eq (.between ?_ ?_ hnext) ?_ (by simp [hnone]) ?_
    · simp only [hworker]
      exact hafter.elim (.inr ∘ .inl) (.inr ∘ .inr)
    · simp only [hworker]
      exact hattempts
    · rw [exchangesBefore_succ, hexchanges, ← htold]
      simp [Effect.exchange?]
    · simp only [effort, hworker, hphase]
      rcases hafter with rfl | rfl <;> simp only <;> omega
  | @failed f hspent =>
    have hend : c.answered + 1 = lastAttempt p.retryPolicy.maxAttempts replies :=
      hlast.eq_of_final hlt (.inr (hattempts ▸ hspent))
    refine .of_eq (.finished rfl) (hfor hend) ?_ ?_
    · simp only [outcomeFor, ← hend, Nat.add_sub_cancel, fail, finish, hattempts]
      rw [hreply]
      rfl
    · simp [effort, fail, finish, hphase]
      omega
  | @failedAgain f hmore =>
    have hnext : c.answered + 1 < lastAttempt p.retryPolicy.maxAttempts replies := by
      refine hlast.lt_of_going hlt (hattempts ▸ hmore) ?_
      rw [hreply]
      rfl
    have hexchanges : (replies c.answered).exchanges p.retryPolicy =
        [.request] ++ [.answer (.failure f)] := by
      rw [hreply]
      rfl
    refine .of_eq (.between (.inr (.inl rfl)) hattempts hnext) ?_ rfl ?_
    · rw [exchangesBefore_succ, hexchanges]
      simp [Effect.exchange?]
    · simp only [effort, hphase]
      omega

/-- A frame is read, or it ends the worker with the error of draining the body. -/
theorem Follows.frame {head : ResponseHead} {reader : BoundedReader} {f : Frame}
    {rest : List Frame} (h : Follows p replies w c trace posted)
    (hphase : w.phase = .reading head reader) (hleft : c.left = f :: rest) :
    Advances p replies w c trace posted (w.readFrame p head reader f) { c with left := rest } := by
  obtain ⟨hattempts, rfl, rfl, before, hreply, hread⟩ := h.of_reading hphase
  rw [hleft] at hreply
  unfold readFrame
  cases hstep : reader.step p.maxResponseBodyBytes f with
  | ok next =>
    -- One more frame is read, and the body goes on.
    have hmore : (before ++ [f]).foldlM (BoundedReader.step p.maxResponseBodyBytes)
        BoundedReader.start = .ok next := by
      simp only [List.foldlM_append, hread, List.foldlM_cons, List.foldlM_nil]
      simp only [bind, Except.bind, hstep]
      rfl
    refine .of_eq (.reading rfl hattempts ?_ hmore) (List.append_nil _) rfl ?_
    · rw [hreply]
      simp
    · simp [effort, hphase, hleft]
  | error fault =>
    refine .of_eq (.finished rfl) ?_ ?_ ?_
    -- The fault of this frame is the fault of the whole body, and there is no further attempt.
    · simp only [failReading]
      rw [finish_exchanges, List.append_nil]
    · simp only [outcomeFor, hreply, Reply.outcome, BoundedReader.readAll_of_error hread hstep,
        failReading, finish, hattempts]
      cases fault <;> rfl
    · simp [effort, hphase, failReading, finish]

/-- The end of the body ends the worker with a whole response. -/
theorem Follows.bodyEnd {head : ResponseHead} {reader : BoundedReader}
    (h : Follows p replies w c trace posted) (hphase : w.phase = .reading head reader)
    (hleft : c.left = []) :
    Advances p replies w c trace posted (w.succeed head reader.taken) c := by
  obtain ⟨hattempts, rfl, rfl, before, hreply, hread⟩ := h.of_reading hphase
  rw [hleft, List.append_nil] at hreply
  refine .of_eq (.finished rfl) ?_ ?_ ?_
  · simp only [succeed]
    rw [finish_exchanges, List.append_nil]
  · simp only [outcomeFor, hreply, Reply.outcome, BoundedReader.readAll_of_ok hread, succeed,
      finish, hattempts]
    rfl
  · simp [effort, hphase, succeed, finish]

/-- **A worker that is served stays with the reference.**  Every signal that it waits for and that
    the transport sends brings it on. -/
theorem Follows.transition {next : Cursor} (h : Follows p replies w c trace posted)
    (hbound : 0 < p.retryPolicy.maxAttempts)
    (hopens : ∀ number, ∃ copy, p.body.openCopy number = .ok copy)
    (hmove : Transition p none openings w s m) (hawaits : w.awaits s = true)
    (hnext : c.next replies s = some next) : Advances p replies w c trace posted m next := by
  cases hmove with
  -- A signal that the worker does not wait for, a stop and a panic are excluded.
  | stay hdeaf =>
    rw [hawaits] at hdeaf
    cases hdeaf
  | stop hstop _ | stopReading hstop _ => cases hstop
  | panic _ _ => cases hnext
  | enter hphase =>
    obtain rfl := Option.some.inj hnext
    exact h.ready (.inl hphase) rfl
  | resume _ hphase =>
    obtain rfl := Option.some.inj hnext
    exact h.ready (.inr hphase) rfl
  | attempt _ hphase =>
    obtain rfl := Option.some.inj hnext
    exact h.attempt hphase hopens
  | receive a _ hphase =>
    simp only [Cursor.next] at hnext
    split at hnext
    · rename_i ha
      obtain rfl := Option.some.inj hnext
      rw [ha]
      exact h.receive hphase hbound
    · cases hnext
  | frame f _ hphase =>
    simp only [Cursor.next] at hnext
    split at hnext
    · cases hnext
    · rename_i g rest hleft
      split at hnext
      · rename_i hfg
        obtain rfl := Option.some.inj hnext
        exact h.frame hphase (hfg ▸ hleft)
      · cases hnext
  | bodyEnd _ hphase =>
    simp only [Cursor.next] at hnext
    split at hnext
    · rename_i hleft
      obtain rfl := Option.some.inj hnext
      exact h.bodyEnd hphase hleft
    · cases hnext

end Worker

end Replicast
