import Replicast.Proofs.Independence.Stand
import Replicast.Proofs.Ledger
/-!
# Batches that are left to themselves

A batch that joins its outcomes, and that nobody cancels, stops its workers at the deadline and not
before.  Its workers send the requests of their preparations, each to the authority of its target.

## Overview

* `Operation.authorities` are the authorities of the targets whose requests can be built.
* `Batch.Requests` relates the requests of a batch to its preparations.
* `Batch.Joining` says that a batch is not cancelled before it is done or late.
* `Engine.Undisturbed` are the runs in which nothing but its surroundings concerns a target.
-/

namespace Replicast

/-! ## §1 Preparations -/

namespace Operation

variable {op : Operation} {client : Client}

/-- The preparations of a repeatable body do not depend on what was opened before. -/
theorem prepare_openings (h : op.body.IsRepeatable) (client : Client) (t : Target)
    (first second : Nat) : op.prepare client t first = op.prepare client t second := by
  simp only [prepare, h first second]

theorem prepareAll_eq_map (h : op.body.IsRepeatable) (client : Client) (openings : Nat)
    (targets : List Target) :
    op.prepareAll client openings targets = targets.map (op.prepare client · 0) := by
  induction targets generalizing openings with
  | nil => rfl
  | cons t rest ih => rw [prepareAll, ih, prepare_openings h client t openings 0, List.map_cons]

/-- The authority that the request of a target goes to, if it can be built: that of the head which
    the interceptor leaves. -/
def Preparation.authority? (p : Preparation) : Option Chars :=
  if p.copy.isOk then some p.head.uri.authority else none

/-- The authorities of the targets whose requests can be built. -/
def authorities (op : Operation) (client : Client) (targets : List Target) : List Chars :=
  targets.filterMap fun t => (op.prepare client t 0).authority?

/-- An interceptor that leaves every URI as it is, or none at all. -/
def KeepsUris (client : Client) : Prop :=
  ∀ i, client.interceptor = some i → ∀ t head, (i t head).head.uri = head.uri

/-- Such an interceptor leaves the URI of the target. -/
theorem prepare_uri (hkeeps : KeepsUris client) {t : Target} {uri : Uri}
    (huri : op.uriFor t = .ok uri) (openings : Nat) :
    (op.prepare client t openings).head.uri = uri := by
  have hhead : ((intercept client t ⟨op.method, uri, op.headersFor client⟩).elim
      (⟨op.method, uri, op.headersFor client⟩ : RequestHead) (·.head)).uri = uri := by
    unfold intercept
    cases hi : client.interceptor with
    | none => rfl
    | some i => exact hkeeps i hi t _
  unfold prepare
  simp only [huri]
  split
  · exact hhead
  · split <;> exact hhead

/-- Under such an interceptor the requests go where their targets resolve to. -/
theorem authorities_of_keepsUris (hkeeps : KeepsUris client) (targets : List Target) :
    op.authorities client targets =
      targets.filterMap fun t =>
        if (op.prepare client t 0).copy.isOk then (op.uriFor t).toOption.map Uri.authority
        else none := by
  refine List.filterMap_congr fun t _ => ?_
  unfold Preparation.authority?
  cases huri : op.uriFor t with
  | error text =>
    have hnone : (op.prepare client t 0).copy.isOk = false := by
      simp [prepare, huri, Except.isOk, Except.toBool]
    simp [hnone]
  | ok uri =>
    rw [prepare_uri hkeeps huri]
    rfl

/-- Requests that go to different authorities belong to different targets. -/
theorem eq_of_authority {targets : List Target} (h : (op.authorities client targets).Nodup)
    {i j : Nat} {p q : Preparation} (hp : (targets.map (op.prepare client · 0))[i]? = some p)
    (hq : (targets.map (op.prepare client · 0))[j]? = some q) {authority : Chars}
    (hfirst : p.authority? = some authority) (hsecond : q.authority? = some authority) :
    i = j := by
  have hpairs := List.pairwise_filterMap.mp h
  rw [List.getElem?_map] at hp hq
  obtain ⟨t, ht, rfl⟩ := Option.map_eq_some_iff.mp hp
  obtain ⟨u, hu, rfl⟩ := Option.map_eq_some_iff.mp hq
  obtain ⟨hi, rfl⟩ := List.getElem?_eq_some_iff.mp ht
  obtain ⟨hj, rfl⟩ := List.getElem?_eq_some_iff.mp hu
  -- Of two places one comes first, and what comes later goes elsewhere.
  rcases Nat.lt_trichotomy i j with hlt | heq | hlt
  · exact absurd rfl (List.pairwise_iff_getElem.mp hpairs i j hi hj hlt _ hfirst _ hsecond)
  · exact heq
  · exact absurd rfl (List.pairwise_iff_getElem.mp hpairs j i hj hi hlt _ hsecond _ hfirst)

end Operation

/-! ## §2 The requests of a batch -/

namespace Batch

open Operation

variable {b after : Batch} {d : Doings} {preparations : List Preparation}

/-- The requests of a batch are those of its preparations, and only a request that could be built is
    sent. -/
structure Requests (preparations : List Preparation) (b : Batch) (d : Doings) : Prop where
  workers : ∀ (i : Nat) (w : Worker), b.workers[i]? = some w →
    ∃ p : Preparation, preparations[i]? = some p ∧ w.request = p.head ∧
      (w.isLive = true → p.copy.isOk = true)
  sent : ∀ x ∈ d, ∀ head body, x.2 = .sent head body →
    ∃ (i : Nat) (p : Preparation), x.1 = some i ∧ preparations[i]? = some p ∧
      p.copy.isOk = true ∧ p.head.rebuilt = head

theorem requests_of_newborn {e : Engine} {targets : List Target}
    (h : Engine.Newborn e targets b d preparations) : Requests preparations b d := by
  refine ⟨fun i w hw => ?_, fun x hx head body hsent => ?_⟩
  · rw [h.workers, List.getElem?_map] at hw
    obtain ⟨p, hp, rfl⟩ := Option.map_eq_some_iff.mp hw
    refine ⟨p, hp, ?_⟩
    unfold Engine.workerOf
    cases p.copy with
    | ok copy => exact ⟨rfl, fun _ => rfl⟩
    | error e => exact ⟨rfl, by simp [Worker.isLive]⟩
  · have hdispatching := h.dispatching x hx
    simp [hsent, Effect.isDispatching] at hdispatching

/-- What neither moves a worker nor starts anything leaves the requests as they are. -/
theorem Requests.keep {k : Doings} (h : Requests preparations b d)
    (hworkers : after.workers = b.workers) (hquiet : ∀ x ∈ k, x.2.isStart = false) :
    Requests preparations after (d ++ k) := by
  refine ⟨fun i w hw => h.workers i w (hworkers ▸ hw), fun x hx head body hsent => ?_⟩
  rcases List.mem_append.mp hx with hx | hx
  · exact h.sent x hx head body hsent
  · have hstart := hquiet x hx
    simp [hsent, Effect.isStart] at hstart

theorem Requests.signal (h : Requests preparations b d) (e : Engine) (position : Nat) (s : Signal) :
    Requests preparations (b.signal e.toClock e.tokens e.openings position s).1
      (d ++ Doings.here position (b.signal e.toClock e.tokens e.openings position s).2) := by
  cases hw : b.workers[position]? with
  | none => simpa [signal_of_none e hw s, Doings.here] using h
  | some w =>
    have hstep := Worker.step_transition b.plan (b.stopFor e w) e.openings w s
    have hended (h : w.isLive = false) : w.step b.plan (b.stopFor e w) e.openings s = w.stay :=
      Worker.step_of_ended h
    obtain ⟨p, hp, hrequest, hbuilt⟩ := h.workers position w hw
    have hlt : position < b.workers.length := (List.getElem?_eq_some_iff.mp hw).1
    rw [signal_eq e hw s]
    generalize w.step b.plan (b.stopFor e w) e.openings s = m at hstep hended
    -- A worker that does anything is live, and so its request could be built.
    have hlive {x : Effect} (hx : x ∈ m.effects) : w.isLive = true := by
      by_contra hnot
      rw [hended (by simpa using hnot)] at hx
      cases hx
    refine ⟨fun i v hv => ?_, fun x hx head body hsent => ?_⟩
    · by_cases hi : position = i
      · subst hi
        simp only [List.getElem?_set_self hlt, Option.some.injEq] at hv
        subst hv
        refine ⟨p, hp, hstep.lawful.request.trans hrequest, fun hlive => hbuilt ?_⟩
        rcases hstep.lawful.progress with ⟨_, hsame⟩ | ⟨o, hends⟩
        · exact hsame ▸ hlive
        · exact hends.wasLive
      · simp only [List.getElem?_set_ne hi] at hv
        exact h.workers i v hv
    · rcases List.mem_append.mp hx with hx | hx
      · exact h.sent x hx head body hsent
      · obtain ⟨effect, heffect, rfl⟩ := List.mem_map.mp hx
        obtain rfl : effect = .sent head body := hsent
        -- The post that may follow is no request.
        have hmem : .sent head body ∈ m.effects := by
          rcases List.mem_append.mp heffect with hmem | hpost
          · exact hmem
          · cases hm : m.outcome <;> simp [hm] at hpost
        exact ⟨position, p, rfl, hp, hbuilt (hlive hmem), by rw [hstep.sent hmem, hrequest]⟩

/-- Every move keeps the requests to the preparations. -/
theorem Requests.move {e : Engine} {k : Doings} (h : Requests preparations b d)
    (hmove : b.Move e after k) : Requests preparations after (d ++ k) := by
  cases hmove with
  | rest => simpa using h
  | signal position s => exact h.signal e position s
  | cancel => exact h.keep (release_keeps b).workers (by simp [Effect.isStart])
  | begin goal => exact h.keep (begin_keeps b goal).workers (by simp)
  | poll hturn =>
    refine h.keep hturn.keeps.workers fun x hx => ?_
    -- A turn takes an outcome or it does not; it starts nothing in either case.
    rcases hturn.effects_cases with hconcluding | ⟨o, rest, rfl, hconcluding⟩
    · exact unplaced_quiet hconcluding x hx
    · rcases List.mem_cons.mp hx with rfl | hx
      · rfl
      · exact unplaced_quiet hconcluding x hx
  | drop => exact h.keep (drop_keeps b).workers (unplaced_quiet (drop_concluding b))

/-! ## §3 Batches that join their outcomes -/

/-- A batch that joins its outcomes: it is cancelled only when no worker is live any more, or when
    the timer for the deadline has fired. -/
structure Joining (b : Batch) (c : Clock) : Prop where
  goal : ∀ goal progress, b.stage = .reducing goal progress → goal = .join
  calm : b.cancelled = true → b.hasLive = true → c.hasFired b.plan.deadline = true

/-- A reducer that has an outcome of every target has left no worker live. -/
theorem Ledger.not_hasLive {goal : Goal} {progress : Progress} (h : Ledger b d)
    (hstage : b.stage = .reducing goal progress) (hall : b.size ≤ progress.consumed.length) :
    b.hasLive = false := by
  have hconsumed := (h.reducing goal progress hstage).2
  have hle := h.taken.length_le
  rw [hconsumed] at hle
  exact h.hasLive_eq_false (Nat.le_trans hall hle)

/-- A turn of a reducer that joins cancels the batch only when it may. -/
theorem Joining.turn {c : Clock} {tokens : List String} {effects : List Effect}
    (h : b.Joining c) (hledger : b.Ledger d) (hparent : b.parent.any tokens.contains = false)
    (hturn : Turn c tokens b after effects) : after.Joining c := by
  -- A reducer that returns leaves a stage that is final.
  have hfinished {goal : Goal} {progress : Progress} {interrupted : Bool}
      (hcalm : b.hasLive = true → c.hasFired b.plan.deadline = true) :
      (b.finish goal progress interrupted).1.Joining c := by
    have hkeeps := finish_keeps b goal progress interrupted
    refine ⟨fun goal' progress' hstage => ?_, fun _ hlive => ?_⟩
    · rw [finish_eq_close, close_stage] at hstage
      cases hstage
    · rw [hkeeps.plan]
      exact hcalm (by simpa [Batch.hasLive, hkeeps.workers] using hlive)
  cases hturn with
  | idle => exact h
  | complete hstage hall =>
    refine hfinished fun hlive => ?_
    rw [hledger.not_hasLive hstage hall] at hlive
    cases hlive
  | cutShort _ _ hwhy =>
    refine hfinished fun hlive => ?_
    rcases hwhy with hstop | hnext
    · simp only [isAlarmed, isCancelled, hparent, Bool.or_false, Bool.or_eq_true] at hstop
      exact hstop.elim (fun hcancelled => h.calm hcancelled hlive) id
    -- A channel without anybody who could post has no live worker.
    · rcases next_cases b c tokens with
        ⟨hnot | hnot, _⟩ | ⟨_, ⟨_, _, hnot, _⟩ | ⟨hnot, _⟩ | ⟨_, _, hover⟩⟩
      · simp [hnot] at hnext
      · simp [hnot] at hnext
      · simp [hnot] at hnext
      · simp [hnot] at hnext
      · simp [hover] at hlive
  | @take goal progress o rest hstage _ _ _ =>
    obtain rfl := h.goal goal progress hstage
    exact ⟨fun _ _ hgoal => by cases hgoal; rfl, h.calm⟩

theorem Joining.later {c later : Clock} (h : b.Joining c) (hle : c.ticked ≤ later.ticked) :
    b.Joining later :=
  ⟨h.goal, fun hcancelled hlive => Clock.hasFired_iff.mpr
    (Nat.le_trans (Clock.hasFired_iff.mp (h.calm hcancelled hlive)) hle)⟩

theorem signal_cancelled (b : Batch) (e : Engine) (position : Nat) (s : Signal) :
    (b.signal e.toClock e.tokens e.openings position s).1.cancelled = b.cancelled := by
  cases hw : b.workers[position]? with
  | none => rw [signal_of_none e hw s]
  | some w => rw [signal_eq e hw s]

/-- A move that cancels nothing and begins no other reduction. -/
theorem Joining.move {e : Engine} {k : Doings} (h : b.Joining e.toClock)
    (hmove : Move e b after k)
    (hstage : ∀ goal progress, after.stage = .reducing goal progress → goal = .join)
    (hcancelled : after.cancelled = b.cancelled) : after.Joining e.toClock :=
  ⟨hstage, fun hc hlive => by
    rw [hmove.persists.plan]
    exact h.calm (hcancelled ▸ hc) (hmove.hasLive hlive)⟩

/-- A batch that joins its outcomes goes on so, unless somebody else interferes. -/
theorem Joining.react {e : Engine} {number : Nat} {event : Engine.Event}
    (h : b.Joining e.toClock)
    (hledger : b.Ledger d) (hparent : b.parent.any e.tokens.contains = false)
    (hgoal : ∀ goal, event = .reduce number goal → goal = .join)
    (hcancel : event ≠ .cancel number) (hdrop : event ≠ .drop number) :
    (b.react e number event).1.Joining (e.step event).1.toClock := by
  refine Joining.later ?_ (e.step_ticked event)
  have hmove := b.react_move e number event
  cases event with
  | signal n position s =>
    by_cases hn : n = number
    · simp only [Batch.react, hn, if_true] at hmove ⊢
      exact h.move hmove (by simpa using h.goal) (signal_cancelled b e position s)
    · simpa [Batch.react, hn] using h
  | cancel n =>
    have hn : n ≠ number := fun heq => hcancel (heq ▸ rfl)
    simpa [Batch.react, hn] using h
  | drop n =>
    have hn : n ≠ number := fun heq => hdrop (heq ▸ rfl)
    simpa [Batch.react, hn] using h
  | reduce n goal =>
    by_cases hn : n = number
    · obtain rfl := hgoal goal (hn ▸ rfl)
      simp only [Batch.react, hn, if_true] at hmove ⊢
      -- Only a batch that was kept begins to be reduced, and it joins.
      unfold Batch.begin at hmove ⊢
      split
      · exact ⟨fun _ _ hstage => by cases hstage; rfl, h.calm⟩
      · exact h
    · simpa [Batch.react, hn] using h
  | poll n =>
    by_cases hn : n = number
    · simpa [Batch.react, hn] using h.turn hledger hparent (poll_turn e.toClock e.tokens b)
    · simpa [Batch.react, hn] using h
  | dispatch _ _ | replicate _ _ _ _ | cancelToken _ | advance _ | tick => exact h

/-- A batch that joins its outcomes stops a live worker when the worker finds the deadline passed, and
    not before. -/
theorem Joining.stopFor {e : Engine} {w : Worker} (h : b.Joining e.toClock)
    (hparent : b.parent.any e.tokens.contains = false) (hw : w ∈ b.workers)
    (hlive : w.isLive = true) :
    b.stopFor e w =
      if w.isLate b.plan e.toClock = true then some (Stand.lateness b.plan w) else none := by
  have hany : b.hasLive = true := List.any_eq_true.mpr ⟨w, hw, hlive⟩
  by_cases hlate : w.isLate b.plan e.toClock = true
  · rw [if_pos hlate]
    refine Worker.interruption_eq_some.mpr ⟨.inr hlate, ?_⟩
    exact (if_pos (Worker.deadline_le_of_isLate hlate)).symm
  · rw [if_neg hlate]
    -- A batch that was cancelled would have woken everybody.
    have hnot : b.cancelled = false := by
      by_contra hcancelled
      exact hlate (Worker.isLate_of_hasFired (h.calm (by simpa using hcancelled) hany) w)
    exact Worker.interruption_eq_none.mpr ⟨by simp [isCancelled, hnot, hparent], by simpa using hlate⟩

end Batch

/-! ## §4 Undisturbed runs -/

/-- One target of an operation that is about to be dispatched, and the world around it. -/
structure Errand where
  env : Surroundings
  /-- What was done before. -/
  past : History
  engine : Engine
  op : Operation
  targets : List Target
  /-- The position of the target. -/
  position : Nat

namespace Errand

open Operation Engine

/-- The same errand when the operation has no other target. -/
def alone (c : Errand) (t : Target) : Errand := { c with targets := [t], position := 0 }

/-- The number of the batch. -/
def number (c : Errand) : Nat := c.engine.batches.length

/-- The run in which some events come after the dispatch. -/
def run (c : Errand) (after : List Event) : Engine × History :=
  c.engine.run (.dispatch c.op c.targets :: after)

/-- The worker of the target. -/
def worker? (c : Errand) (after : List Event) : Option Worker := do
  let b ← (c.run after).1.batches[c.number]?
  b.workers[c.position]?

/-- Whether the worker has ended. -/
def hasEnded (c : Errand) (after : List Event) : Bool :=
  (c.worker? after).any fun w => !w.isLive

/-- The requests that were handed to the transport for the target, in order. -/
def sent (c : Errand) (after : List Event) : List Sending :=
  (c.run after).2.sendingsAt c.number c.position

/-- The outcomes that were posted for the target. -/
def posted (c : Errand) (after : List Event) : List Outcome :=
  ((c.run after).2.of c.number).postedAt c.position

/-- The agenda of the worker, if all events keep to it. -/
def agenda? (c : Errand) (after : List Event) : Option Agenda :=
  c.engine.attend c.env c.number c.position c.past ⟨c.engine.now, []⟩
    (.dispatch c.op c.targets :: after)

/-- The preparations of a repeatable body. -/
def preparations (c : Errand) : List Preparation :=
  c.targets.map (c.op.prepare c.engine.client · 0)

/-- The authority that the request goes to, if it can be built. -/
def authority? (c : Errand) : Option Chars :=
  c.preparations[c.position]?.bind Preparation.authority?

/-- A run in which the batch is reduced by joining its outcomes, nobody else cancels it, and the
    other batches send nothing to the authority of the target. -/
structure Private (c : Errand) (after : List Event) : Prop where
  joined : ∀ goal, .reduce c.number goal ∈ after → goal = .join
  held : .drop c.number ∉ after
  uncancelled : .cancel c.number ∉ after
  parent : ∀ token, c.op.parent = some token → token ∉ (c.run after).1.tokens
  apart : ∀ r ∈ (c.run after).2, r.batch ≠ c.number →
    ∀ s, r.sending? = some s → c.authority? ≠ some s.authority

/-- A run in which nothing but its surroundings concerns the target: what reaches its worker keeps
    to the agenda, too. -/
structure Undisturbed (c : Errand) (after : List Event) : Prop extends c.Private after where
  attended : (c.agenda? after).isSome = true

variable {c : Errand} {after : List Event} {next : Event}

theorem run_concat (c : Errand) (after : List Event) (next : Event) :
    c.run (after ++ [next]) =
      (((c.run after).1.step next).1, (c.run after).2 ++ ((c.run after).1.step next).2) :=
  Engine.run_concat c.engine (.dispatch c.op c.targets :: after) next

theorem agenda?_concat (c : Errand) (after : List Event) (next : Event) :
    c.agenda? (after ++ [next]) = (c.agenda? after).bind fun a =>
      (c.run after).1.heed c.env c.number c.position (c.past ++ (c.run after).2) a next :=
  attend_concat c.env c.number c.position c.engine c.past ⟨c.engine.now, []⟩
    (.dispatch c.op c.targets :: after) next

theorem Private.left (h : c.Private (after ++ [next])) : c.Private after := by
  have htokens := (step_time (c.run after).1 next).2
  obtain ⟨joined, held, uncancelled, parent, apart⟩ := h
  rw [run_concat] at parent apart
  exact ⟨fun goal hgoal => joined goal (List.mem_append_left _ hgoal),
    fun hdrop => held (List.mem_append_left _ hdrop),
    fun hcancel => uncancelled (List.mem_append_left _ hcancel),
    fun token htoken hmem => parent token htoken (htokens hmem),
    fun r hr => apart r (List.mem_append_left _ hr)⟩

theorem Private.parent_any (h : c.Private after) :
    c.op.parent.any (c.run after).1.tokens.contains = false := by
  cases hparent : c.op.parent with
  | none => rfl
  | some token => simpa using h.parent token hparent

/-- What is undisturbed was undisturbed before. -/
theorem Undisturbed.left (h : c.Undisturbed (after ++ [next])) : c.Undisturbed after := by
  refine ⟨h.toPrivate.left, ?_⟩
  have hattended := h.attended
  rw [agenda?_concat] at hattended
  cases hbefore : c.agenda? after with
  | none => simp [hbefore] at hattended
  | some a => rfl

/-- What the batch of an errand keeps to. -/
structure Begun (c : Errand) (b : Batch) (d : Doings) : Prop where
  plan : b.plan = (c.engine.fresh c.op []).plan
  parent : b.parent = c.op.parent
  ledger : b.Ledger d
  requests : b.Requests c.preparations d

/-- The batch of an errand keeps to it in every run, and joins its outcomes in private ones. -/
theorem exists_batch (hbody : c.op.body.IsRepeatable) (after : List Event) :
    ∃ b, (c.run after).1.batches[c.number]? = some b ∧
      c.Begun b ((c.run after).2.of c.number) ∧
      (c.Private after → b.Joining (c.run after).1.toClock) := by
  have htargets : (Event.dispatch c.op c.targets).targets? = some c.targets := rfl
  refine run_along (P := fun after b => c.Begun b ((c.run after).2.of c.number) ∧
    (c.Private after → b.Joining (c.run after).1.toClock)) htargets ?_ ?_ after
  · intro b d hbirth hhistory
    cases hbirth
    have hnothing : ∀ x ∈ ([] : Doings), ∃ event, x = (none, .logged event) := by simp
    have hnew := begun_newborn c.engine c.op c.targets hnothing
    have hbatch := (begun_enqueue c.engine c.op c.targets).1
    rw [prepareAll_eq_map hbody] at hnew
    have hdoings : (c.run []).2.of c.number =
        (none, .dispatched c.targets.length) :: (c.engine.begun c.op c.targets).2 := by
      simp [run, Engine.run, number, hhistory]
    rw [hdoings]
    refine ⟨⟨by rw [hbatch]; rfl, by rw [hbatch]; rfl, Batch.ledger_of_newborn hnew,
      Batch.requests_of_newborn hnew⟩, fun _ => ⟨fun goal progress hstage => ?_, ?_⟩⟩
    · rw [hbatch] at hstage
      cases hstage
    · simp [hnew.cancelled]
  · rintro after next b hb ⟨hbegun, hjoining⟩
    have hmove := b.react_move (c.run after).1 c.number next
    have hkept := hmove.persists
    have hdoings : ((c.run after).1.step next).2.of c.number =
        (b.react (c.run after).1 c.number next).2 := (step_share hb next).2
    rw [run_concat, History.of_append, hdoings]
    refine ⟨⟨hkept.plan.trans hbegun.plan, hkept.parent.trans hbegun.parent,
      hbegun.ledger.move hmove, hbegun.requests.move hmove⟩, fun hnext => ?_⟩
    have hlast : next ∈ after ++ [next] := by simp
    refine (hjoining hnext.left).react hbegun.ledger ?_ (fun goal hgoal => ?_) ?_ ?_
    · rw [hbegun.parent]
      exact hnext.left.parent_any
    · exact hnext.joined goal (hgoal ▸ hlast)
    · rintro rfl
      exact hnext.uncancelled hlast
    · rintro rfl
      exact hnext.held hlast

end Errand

end Replicast
