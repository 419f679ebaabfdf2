import Replicast.Proofs.Independence.Undisturbed
/-!
# Undisturbed runs and courses

In an undisturbed run a target keeps to its course: each event leaves it where it stands, or takes
it to the next stand.

## Overview

* `Errand.Watched` gathers what holds of the batch in a private run, and `Errand.Private.received`
  says that the requests to the authority of the target are its own.
* `Errand.StandsAt` reads the stand of a target off a run.
* `Errand.StandsAt.step` and `Errand.StandsAt.rest` are the step lemmas, and
  `Errand.Undisturbed.exists_stand` is the run lemma.
-/

namespace Replicast

namespace Errand

open Operation Engine StateTransition

variable {c : Errand} {after : List Event} {next : Event} {b : Batch} {w : Worker}

/-! ## §1 One event -/

theorem worker?_of_batch (hb : (c.run after).1.batches[c.number]? = some b) :
    c.worker? after = b.workers[c.position]? := by
  simp [worker?, hb]

theorem sent_concat (c : Errand) (after : List Event) (next : Event) :
    c.sent (after ++ [next]) = c.sent after ++
      ((((c.run after).1.step next).2.of c.number).effectsAt c.position).filterMap
        (Effect.sending? (c.run after).1.now) := by
  rw [sent, run_concat, History.sendingsAt_append,
    History.sendingsAt_of_times (step_times (c.run after).1 next)]
  rfl

/-- A signal to the worker. -/
theorem told (hb : (c.run after).1.batches[c.number]? = some b)
    (hw : b.workers[c.position]? = some w) (s : Signal) :
    let m := w.step b.plan (b.stopFor (c.run after).1 w) (c.run after).1.openings s
    c.worker? (after ++ [.signal c.number c.position s]) = some m.worker ∧
      c.sent (after ++ [.signal c.number c.position s]) =
        c.sent after ++ m.effects.filterMap (Effect.sending? (c.run after).1.now) ∧
      c.posted (after ++ [.signal c.number c.position s]) = c.posted after ++ m.outcome.toList ∧
      (((c.run after).1.step (.signal c.number c.position s)).2.of c.number).effectsAt c.position =
        m.doings b.channel.posting := by
  intro m
  have hlawful := (Worker.step_transition b.plan (b.stopFor (c.run after).1 w)
    (c.run after).1.openings w s).lawful
  obtain ⟨hthere, hdoings⟩ := step_share hb (.signal c.number c.position s)
  obtain ⟨hworker, heffects⟩ := Batch.react_told (c.run after).1 c.number hw s
  rw [← hdoings] at heffects
  -- The post, if there is one, is no request.
  have hsent : (m.doings b.channel.posting).filterMap (Effect.sending? (c.run after).1.now) =
      m.effects.filterMap (Effect.sending? (c.run after).1.now) := by
    unfold Worker.Move.doings
    cases m.outcome <;> simp [Effect.sending?]
  refine ⟨?_, ?_, ?_, heffects⟩
  · rw [worker?, run_concat, hthere]
    exact hworker
  · rw [sent_concat, heffects, hsent]
  · rw [posted, run_concat, History.of_append, Doings.postedAt_append, ← posted, Doings.postedAt,
      heffects, hlawful.posted]

/-- Any other event. -/
theorem untold (hb : (c.run after).1.batches[c.number]? = some b)
    (hnext : ∀ s, next ≠ .signal c.number c.position s) :
    c.worker? (after ++ [next]) = c.worker? after ∧ c.sent (after ++ [next]) = c.sent after ∧
      c.posted (after ++ [next]) = c.posted after := by
  obtain ⟨hthere, hdoings⟩ := step_share hb next
  obtain ⟨hworker, heffects⟩ :=
    Batch.react_untold (b := b) (c.run after).1 c.number c.position hnext
  rw [← hdoings] at heffects
  refine ⟨?_, ?_, ?_⟩
  · rw [worker?_of_batch hb, worker?, run_concat, hthere]
    exact hworker
  · rw [sent_concat, heffects]
    simp
  · rw [posted, run_concat, History.of_append, Doings.postedAt_append, ← posted, Doings.postedAt,
      heffects]
    simp

/-! ## §2 What holds in a private run -/

/-- What all workers of the batch share. -/
def plan (c : Errand) : Plan := (c.engine.fresh c.op []).plan

/-- The batch of an errand, in which only the deadline stops a live worker. -/
structure Watched (c : Errand) (after : List Event) (b : Batch) : Prop where
  batch : (c.run after).1.batches[c.number]? = some b
  plan : b.plan = c.plan
  requests : b.Requests c.preparations ((c.run after).2.of c.number)
  stops : ∀ w ∈ b.workers, w.isLive = true →
    b.stopFor (c.run after).1 w =
      if w.isLate c.plan (c.run after).1.toClock = true then some (Stand.lateness c.plan w) else none

theorem Private.watched (h : c.Private after) (hbody : c.op.body.IsRepeatable) :
    ∃ b, c.Watched after b := by
  obtain ⟨b, hb, hbegun, hjoining⟩ := exists_batch hbody after
  refine ⟨b, hb, hbegun.plan, hbegun.requests, fun w hw hlive => ?_⟩
  have hparent : b.parent.any (c.run after).1.tokens.contains = false := by
    rw [hbegun.parent]
    exact h.parent_any
  have hstop := (hjoining h).stopFor hparent hw hlive
  rw [hbegun.plan] at hstop
  exact hstop

/-- A live worker is stopped when it finds the deadline passed. -/
theorem Watched.stopFor (h : c.Watched after b) (hw : b.workers[c.position]? = some w)
    (hlive : w.isLive = true) :
    b.stopFor (c.run after).1 w =
      if w.isLate c.plan (c.run after).1.toClock = true then some (Stand.lateness c.plan w)
      else none :=
  h.stops w (List.mem_of_getElem? hw) hlive

/-- A live worker heeds its agenda until it finds the deadline passed. -/
theorem Watched.attentive (h : c.Watched after b) (hw : b.workers[c.position]? = some w)
    (hlive : w.isLive = true) :
    (c.run after).1.attentive? c.number c.position =
      if w.isLate c.plan (c.run after).1.toClock = true then none else some w := by
  have hstop := h.stopFor hw hlive
  by_cases hlate : w.isLate c.plan (c.run after).1.toClock = true <;>
    simp [attentive?, h.batch, hw, hstop, hlate]

/-- Whether the timer for the deadline is late. -/
theorem Watched.isPrompt_iff (h : c.Watched after b) :
    (c.run after).1.isPrompt c.number = true ↔
      (c.run after).1.now < c.plan.deadline.wakeup ∨
        (c.run after).1.hasFired c.plan.deadline = true := by
  rw [isPrompt, h.batch, Option.all_some, Bool.or_eq_true, decide_eq_true_eq, h.plan]

/-- The authorities of the targets differ, as far as their requests can be built.  They are those of
    the requests that are built, so that an interceptor may send a target anywhere, but no two of them
    to one authority. -/
def Distinct (c : Errand) : Prop := (c.op.authorities c.engine.client c.targets).Nodup

/-- In a private run a request goes to the authority of the target exactly if it is for the
    target. -/
theorem Private.authority_iff (h : c.Private after) (hbody : c.op.body.IsRepeatable)
    (hdistinct : c.Distinct) {authority : Chars} (hauthority : c.authority? = some authority)
    {r : Record} (hr : r ∈ (c.run after).2) {s : Sending} (hsending : r.sending? = some s) :
    s.authority = authority ↔ r.batch = c.number ∧ r.position = some c.position := by
  obtain ⟨b, hwatched⟩ := h.watched hbody
  obtain ⟨p, hp, hpa⟩ := Option.bind_eq_some_iff.mp hauthority
  obtain ⟨head, body, heffect, rfl⟩ := Record.sending?_eq_some hsending
  by_cases hbatch : r.batch = c.number
  -- The batch sends the requests of its preparations, and no two of them go to one authority.
  · obtain ⟨i, q, hposition, hq, hbuilt, rfl⟩ :=
      hwatched.requests.sent _ (History.mem_of hr hbatch) head body heffect
    have hqa : q.authority? = some q.head.uri.authority := by simp [Preparation.authority?, hbuilt]
    rw [show r.position = some i from hposition]
    constructor
    · rintro rfl
      exact ⟨hbatch, by rw [eq_of_authority hdistinct hq hp hqa hpa]⟩
    · rintro ⟨_, hi⟩
      obtain rfl := Option.some.inj hi
      obtain rfl := Option.some.inj (hq.symm.trans hp)
      exact Option.some.inj (hqa.symm.trans hpa)
  -- The other batches keep away from the authority.
  · have hother := h.apart r hr hbatch _ hsending
    rw [hauthority] at hother
    exact ⟨fun heq => absurd (congrArg some heq.symm) hother, fun hown => absurd hown.1 hbatch⟩

/-- In a private run the requests to the authority of the target are its own. -/
theorem Private.received (h : c.Private after) (hbody : c.op.body.IsRepeatable)
    (hdistinct : c.Distinct) {authority : Chars} (hauthority : c.authority? = some authority) :
    (c.run after).2.sendingsTo authority = c.sent after := by
  unfold History.sendingsTo sent History.sendingsAt
  refine List.filterMap_congr fun r hr => ?_
  cases hsending : r.sending? with
  | none => simp
  | some s =>
    have hiff := h.authority_iff hbody hdistinct hauthority hr hsending
    by_cases hown : s.authority = authority
    · simp [hown, hiff.mp hown]
    · have hnot : ¬ (r.batch = c.number ∧ r.position = some c.position) := mt hiff.mpr hown
      simp [hown, hnot]

/-! ## §3 The stand of a target -/

/-- The earlier requests to the authority of the target. -/
def earlier (c : Errand) : List Sending := c.authority?.elim [] c.past.sendingsTo

/-- Where the target stands after a run. -/
structure StandsAt (c : Errand) (after : List Event) (s : Stand) : Prop where
  worker : c.worker? after = some s.worker
  agenda : c.agenda? after = some s.agenda
  sent : c.sent after = s.sent
  posted : c.posted after = s.posted

variable {s : Stand} {signal : Signal}

theorem StandsAt.worker_of_batch (hs : c.StandsAt after s) (hwatched : c.Watched after b) :
    b.workers[c.position]? = some s.worker := by
  rw [← worker?_of_batch hwatched.batch, hs.worker]

/-- A signal to the worker, as its move and its agenda say. -/
theorem StandsAt.told {m : Worker.Move} {a : Agenda} (hs : c.StandsAt after s)
    (hwatched : c.Watched after b)
    (hmove : s.worker.step c.plan (b.stopFor (c.run after).1 s.worker) (c.run after).1.openings
      signal = m)
    (hheed : (c.run after).1.heed c.env c.number c.position (c.past ++ (c.run after).2) s.agenda
      (.signal c.number c.position signal) = some a) :
    c.StandsAt (after ++ [.signal c.number c.position signal])
      ⟨m.worker, a, s.sent ++ m.effects.filterMap (Effect.sending? (c.run after).1.now),
        s.posted ++ m.outcome.toList⟩ := by
  subst hmove
  have hw := hs.worker_of_batch hwatched
  obtain ⟨hworker, hsent, hposted, _⟩ := Errand.told hwatched.batch hw signal
  rw [hwatched.plan] at hworker hsent hposted
  refine ⟨hworker, ?_, by rw [hsent, hs.sent], by rw [hposted, hs.posted]⟩
  rw [agenda?_concat, hs.agenda]
  exact hheed

/-- A signal that the worker passes over. -/
theorem StandsAt.stay (hs : c.StandsAt after s) (hwatched : c.Watched after b)
    (hmove : s.worker.step c.plan (b.stopFor (c.run after).1 s.worker) (c.run after).1.openings
      signal = s.worker.stay)
    (hheed : (c.run after).1.heed c.env c.number c.position (c.past ++ (c.run after).2) s.agenda
      (.signal c.number c.position signal) = some s.agenda) :
    c.StandsAt (after ++ [.signal c.number c.position signal]) s := by
  have h := hs.told hwatched hmove hheed
  simpa [Worker.stay] using h

/-- What comes next reaches the worker before it finds the deadline passed. -/
theorem StandsAt.hear (hs : c.StandsAt after s) (hwatched : c.Watched after b)
    (hbody : c.op.body.IsRepeatable) (hdistinct : c.Distinct)
    (hnext : c.Private (after ++ [.signal c.number c.position signal]))
    (hlive : s.worker.isLive = true)
    (hearly : ¬ s.worker.isLate c.plan (c.run after).1.toClock = true)
    (hprompt : (c.run after).1.isPrompt c.number = true)
    (hupcoming : s.agenda.upcoming s.worker = some ((c.run after).1.now, signal)) :
    c.StandsAt (after ++ [.signal c.number c.position signal])
      (s.hear c.env c.plan c.earlier (c.run after).1.now signal) := by
  have hw := hs.worker_of_batch hwatched
  have hattentive := hwatched.attentive hw hlive
  have hstop := hwatched.stopFor hw hlive
  rw [if_neg hearly] at hattentive hstop
  have hmove : s.worker.step c.plan (b.stopFor (c.run after).1 s.worker)
      (c.run after).1.openings signal = s.worker.step c.plan none 0 signal := by
    rw [hstop]
    exact Worker.step_openings hbody s.worker none _ 0 signal
  have hheed := heed_of_awaits c.env (c.past ++ (c.run after).2) s.agenda hattentive
    (Agenda.awaits_of_upcoming hupcoming)
  rw [if_pos ⟨hupcoming, hprompt⟩] at hheed
  have htold := hs.told hwatched hmove hheed
  obtain ⟨_, hsent, _, heffects⟩ := Errand.told hwatched.batch hw signal
  rw [hwatched.plan, hmove] at hsent heffects
  have hagenda : (s.agenda.reached s.worker (c.run after).1.now).follow c.env
        (c.past ++ (c.run after).2 ++
          ((c.run after).1.step (.signal c.number c.position signal)).2).sendingsTo
        (c.run after).1.now
        ((((c.run after).1.step (.signal c.number c.position signal)).2.of c.number).effectsAt
          c.position) =
      (s.hear c.env c.plan c.earlier (c.run after).1.now signal).agenda := by
    rw [heffects, Agenda.follow_doings, Stand.hear_agenda]
    refine Agenda.follow_congr c.env _ _ fun head body hmem => ?_
    -- What the transport has received is what it received before, and the target's own.
    have hhead := (Worker.step_transition c.plan none 0 s.worker signal).sent hmem
    obtain ⟨p, hp, hrequest, hbuilt⟩ := hwatched.requests.workers c.position s.worker hw
    have hauthority : c.authority? = some head.uri.authority := by
      rw [authority?, hp, hhead, hrequest]
      simp [Preparation.authority?, hbuilt hlive]
    have hreceived := hnext.received hbody hdistinct hauthority
    rw [run_concat] at hreceived
    rw [List.append_assoc, History.sendingsTo_append, hreceived, hsent, hs.sent, earlier,
      hauthority]
    rfl
  rw [hagenda] at htold
  exact htold

/-- A live worker that finds the deadline passed heeds nothing. -/
theorem Watched.heed_late (hwatched : c.Watched after b) (hw : b.workers[c.position]? = some w)
    (hlive : w.isLive = true) (hlate : w.isLate c.plan (c.run after).1.toClock = true) (a : Agenda)
    (next : Event) :
    (c.run after).1.heed c.env c.number c.position (c.past ++ (c.run after).2) a next = some a := by
  have hattentive := hwatched.attentive hw hlive
  rw [if_pos hlate] at hattentive
  exact heed_of_inattentive hattentive next

/-- A worker has its first turn even after the deadline. -/
theorem StandsAt.enter (hs : c.StandsAt after s) (hwatched : c.Watched after b)
    (hlate : s.worker.isLate c.plan (c.run after).1.toClock = true)
    (hphase : s.worker.phase = .queued) :
    c.StandsAt (after ++ [.signal c.number c.position .turn])
      (s.hear c.env c.plan c.earlier s.agenda.since .turn) := by
  have hw := hs.worker_of_batch hwatched
  have hlive := Worker.isLive_of_phase hphase (by simp)
  have hmove : s.worker.step c.plan (b.stopFor (c.run after).1 s.worker)
      (c.run after).1.openings .turn = ⟨{ s.worker with phase := .ready }, [.entered], none⟩ := by
    unfold Worker.step
    rw [hphase]
  have htold := hs.told hwatched hmove (hwatched.heed_late hw hlive hlate s.agenda _)
  have hsent : [Effect.entered].filterMap (Effect.sending? (c.run after).1.now) = [] := rfl
  rw [hsent] at htold
  rw [Stand.hear_queued hphase]
  simpa using htold

/-- The deadline stops the worker. -/
theorem StandsAt.expire (hs : c.StandsAt after s) (hwatched : c.Watched after b)
    (hlive : s.worker.isLive = true)
    (hlate : s.worker.isLate c.plan (c.run after).1.toClock = true)
    (hmove : s.worker.step c.plan (some (Stand.lateness c.plan s.worker)) (c.run after).1.openings
      signal = s.worker.step c.plan (some (Stand.lateness c.plan s.worker)) 0 .turn) :
    c.StandsAt (after ++ [.signal c.number c.position signal]) (s.expire c.plan) := by
  have hw := hs.worker_of_batch hwatched
  have hstop := hwatched.stopFor hw hlive
  rw [if_pos hlate] at hstop
  rw [← hstop] at hmove
  have htold := hs.told hwatched hmove (hwatched.heed_late hw hlive hlate s.agenda _)
  -- A worker that must stop sends nothing.
  have hquiet := (Worker.step_transition c.plan (some (Stand.lateness c.plan s.worker)) 0 s.worker
    .turn).quiet
  rw [hstop] at htold
  have hsent : (s.worker.step c.plan (some (Stand.lateness c.plan s.worker)) 0
      .turn).effects.filterMap (Effect.sending? (c.run after).1.now) = [] := by
    refine List.filterMap_eq_nil_iff.mpr fun x hx => ?_
    have hstart := hquiet x hx
    cases x <;> first | rfl | cases hstart
  rw [hsent, List.append_nil] at htold
  exact htold

/-- A worker that has ended passes over every signal. -/
theorem Watched.heed_ended (hwatched : c.Watched after b) (hw : b.workers[c.position]? = some w)
    (hended : w.isLive = false) (a : Agenda) (signal : Signal) :
    (c.run after).1.heed c.env c.number c.position (c.past ++ (c.run after).2) a
      (.signal c.number c.position signal) = some a := by
  cases hattentive : (c.run after).1.attentive? c.number c.position with
  | none => exact heed_of_inattentive hattentive _
  | some v =>
    have hv : v = w := by
      simp only [attentive?, hwatched.batch, hw, Option.bind_eq_bind, Option.bind_some]
        at hattentive
      split at hattentive
      · cases hattentive
      · exact (Option.some.inj hattentive).symm
    refine heed_of_deaf hattentive ?_
    cases hawaits : v.awaits signal with
    | false => rfl
    | true =>
      rw [hv] at hawaits
      rw [Worker.isLive_of_awaits hawaits] at hended
      cases hended

/-- To a worker that finds the deadline passed a signal makes no difference, is the first turn, or
    stops it. -/
theorem StandsAt.step_late (hs : c.StandsAt after s)
    (htimely : s.IsTimely c.plan (c.run after).1.now) (hwatched : c.Watched after b)
    (hlive : s.worker.isLive = true)
    (hlate : s.worker.isLate c.plan (c.run after).1.toClock = true)
    (signal : Signal) :
    ∃ t, c.StandsAt (after ++ [.signal c.number c.position signal]) t ∧
      (t = s ∨ s.next c.env c.plan c.earlier = some t) ∧
      t.IsTimely c.plan (c.run after).1.now := by
  have hw := hs.worker_of_batch hwatched
  have hheed := hwatched.heed_late hw hlive hlate s.agenda (.signal c.number c.position signal)
  have hstop := hwatched.stopFor hw hlive
  rw [if_pos hlate] at hstop
  by_cases hphase : s.worker.phase = .queued
  · by_cases hturn : signal = .turn
    · subst hturn
      have hnext : s.next c.env c.plan c.earlier = some _ :=
        Stand.next_hear hlive (if_pos (Worker.awaits_turn.mpr (.inl hphase))) (.inr hphase)
      exact ⟨_, hs.enter hwatched hlate hphase, .inr hnext, Stand.enter_timely hphase htimely⟩
    · have hdeaf : s.worker.awaits signal = false := by
        cases signal <;> simp_all [Worker.awaits, Worker.isWaiting]
      refine ⟨s, hs.stay hwatched ?_ hheed, .inl rfl, htimely⟩
      rw [Worker.step_queued hphase]
      exact Worker.step_of_deaf hdeaf
  · have hstopped : s.worker.step c.plan (some (Stand.lateness c.plan s.worker))
        (c.run after).1.openings signal = s.worker.stay ∨ _ :=
      Worker.step_stopped hphase (Stand.lateness c.plan s.worker) signal
    rcases hstopped with hmove | hmove
    · exact ⟨s, hs.stay hwatched (hstop ▸ hmove) hheed, .inl rfl, htimely⟩
    -- Nothing was due before the worker was late, or it would not have been missed.
    · have hnone : ∀ time next, s.agenda.upcoming s.worker = some (time, next) →
          Stand.cutoff c.plan s.worker ≤ time := fun time next hupcoming =>
        (htimely time next hupcoming).elim (Nat.le_trans (Stand.cutoff_le_of_isLate hlate)) id
      exact ⟨_, hs.expire hwatched hlive hlate hmove,
        .inr (Stand.next_expire hlive hphase hnone), Stand.expire_timely hlive hphase _⟩

/-- **The step lemma**: with a signal to its worker the target stays where it stands, or it goes on
    to the next stand. -/
theorem StandsAt.step (hs : c.StandsAt after s) (htimely : s.IsTimely c.plan (c.run after).1.now)
    (hbody : c.op.body.IsRepeatable) (hdistinct : c.Distinct)
    (h : c.Undisturbed (after ++ [.signal c.number c.position signal])) :
    ∃ t, c.StandsAt (after ++ [.signal c.number c.position signal]) t ∧
      (t = s ∨ s.next c.env c.plan c.earlier = some t) ∧
      t.IsTimely c.plan (c.run after).1.now := by
  obtain ⟨b, hwatched⟩ := h.left.toPrivate.watched hbody
  have hw := hs.worker_of_batch hwatched
  cases hlive : s.worker.isLive with
  | false =>
    exact ⟨s, hs.stay hwatched (Worker.step_of_ended hlive)
      (hwatched.heed_ended hw hlive s.agenda signal), .inl rfl, htimely⟩
  | true =>
    by_cases hlate : s.worker.isLate c.plan (c.run after).1.toClock = true
    · exact hs.step_late htimely hwatched hlive hlate signal
    have hstop := hwatched.stopFor hw hlive
    have hattentive := hwatched.attentive hw hlive
    rw [if_neg hlate] at hstop hattentive
    cases hawaits : s.worker.awaits signal with
    | false =>
      refine ⟨s, hs.stay hwatched ?_ (heed_of_deaf hattentive hawaits), .inl rfl, htimely⟩
      rw [hstop]
      exact Worker.step_of_deaf hawaits
    | true =>
      -- What the worker waits for is what the agenda has next, since the run keeps to it.
      have hattended := h.attended
      rw [agenda?_concat, hs.agenda, Option.bind_some,
        heed_of_awaits _ _ _ hattentive hawaits] at hattended
      obtain ⟨hupcoming, hprompt⟩ : s.agenda.upcoming s.worker = some ((c.run after).1.now, signal) ∧
          (c.run after).1.isPrompt c.number = true := by
        by_contra hnot
        rw [if_neg hnot] at hattended
        cases hattended
      -- With no timer late, the worker would know if it had reached its cutoff.
      have hearly : (c.run after).1.now < Stand.cutoff c.plan s.worker :=
        Nat.lt_of_not_le fun hcutoff =>
          hlate (Stand.isLate_of_cutoff_le (hwatched.isPrompt_iff.mp hprompt) hcutoff)
      exact ⟨_, hs.hear hwatched hbody hdistinct h.toPrivate hlive hlate hprompt hupcoming,
        .inr (Stand.next_hear hlive hupcoming (.inl hearly)), Stand.hear_timely _ _⟩

/-- Any other event leaves the target where it stands. -/
theorem StandsAt.rest (hs : c.StandsAt after s) (htimely : s.IsTimely c.plan (c.run after).1.now)
    (hbody : c.op.body.IsRepeatable) (hnext : ∀ signal, next ≠ .signal c.number c.position signal)
    (h : c.Undisturbed (after ++ [next])) :
    c.StandsAt (after ++ [next]) s ∧ s.IsTimely c.plan (c.run (after ++ [next])).1.now := by
  obtain ⟨b, hwatched⟩ := h.left.toPrivate.watched hbody
  have hw := hs.worker_of_batch hwatched
  obtain ⟨hworker, hsent, hposted⟩ := untold hwatched.batch hnext
  obtain ⟨a, ha⟩ := Option.isSome_iff_exists.mp h.attended
  have hheed := ha
  rw [agenda?_concat, hs.agenda, Option.bind_some] at hheed
  obtain ⟨rfl, hpass⟩ := heed_other (w := s.worker) hnext hheed
  refine ⟨⟨hworker.trans hs.worker, ha, hsent.trans hs.sent, hposted.trans hs.posted⟩, ?_⟩
  rcases step_now_cases (c.run after).1 next with ⟨d, rfl⟩ | hnow
  · rw [run_concat, step_after]
    intro time signal hupcoming
    have hlive := Worker.isLive_of_awaits (Agenda.awaits_of_upcoming hupcoming)
    have hattentive := hwatched.attentive hw hlive
    by_cases hlate : s.worker.isLate c.plan (c.run after).1.toClock = true
    · refine .inr ((htimely time signal hupcoming).elim ?_ id)
      exact Nat.le_trans (Stand.cutoff_le_of_isLate hlate)
    · rw [if_neg hlate] at hattentive
      exact .inl (hpass d rfl hattentive time signal hupcoming)
  · rw [run_concat, hnow]
    exact htimely

/-- The dispatch sends nothing. -/
theorem doings_unsent (p : Preparation) (client : Client) (policy : RetryPolicy) (time : Instant) :
    (p.doings client policy).filterMap (Effect.sending? time) = [] := by
  unfold Preparation.doings
  cases p.intercepted <;> cases p.opened <;> cases p.copy <;> rfl

/-- The stand at the dispatch. -/
theorem standsAt_start (hbody : c.op.body.IsRepeatable) {p : Preparation}
    (hp : c.preparations[c.position]? = some p) :
    c.StandsAt [] (.start c.engine.now p) ∧
      (Stand.start c.engine.now p).IsTimely c.plan (c.run []).1.now := by
  have htargets : (Event.dispatch c.op c.targets).targets? = some c.targets := rfl
  obtain ⟨b, d, hbirth, hbatches, hhistory⟩ := step_of_targets c.engine htargets
  cases hbirth
  have hnothing : ∀ x ∈ ([] : Doings), ∃ event, x = (none, .logged event) := by simp
  have hnew := begun_newborn c.engine c.op c.targets hnothing
  rw [prepareAll_eq_map hbody] at hnew
  have hrun : c.run [] = c.engine.step (.dispatch c.op c.targets) := by simp [run, Engine.run]
  have hb : (c.run []).1.batches[c.number]? = some (c.engine.begun c.op c.targets).1 := by
    rw [hrun, hbatches]
    simp [number]
  have heffects : ((c.run []).2.of c.number).effectsAt c.position =
      p.doings c.engine.client (c.engine.begun c.op c.targets).1.plan.retryPolicy := by
    rw [hrun, hhistory, number, History.of_records]
    exact hnew.here c.position p hp
  have hnow : (c.run []).1.now = c.engine.now := by
    rw [hrun]
    rfl
  refine ⟨⟨?_, ?_, ?_, ?_⟩, ?_⟩
  · rw [worker?_of_batch hb, hnew.workers, List.getElem?_map]
    exact congrArg _ hp
  · have hnone : c.engine.attentive? c.number c.position = none := by simp [attentive?, number]
    simp only [agenda?, attend, heed_of_inattentive hnone]
    rfl
  · rw [sent, hrun, History.sendingsAt_of_times (step_times _ _), ← hrun, heffects,
      doings_unsent]
    rfl
  · rw [posted, Doings.postedAt, heffects, p.doings_posted]
    rfl
  · rw [hnow]
    refine fun time signal hupcoming => .inl ?_
    rcases Agenda.upcoming_cases hupcoming with ⟨_, rfl, _⟩ | ⟨_, _, ms, rest, hcoming, _⟩
    · exact Nat.le_refl _
    · cases hcoming

/-- **The run lemma**: in an undisturbed run the target keeps to its course. -/
theorem Undisturbed.exists_stand (h : c.Undisturbed after) (hbody : c.op.body.IsRepeatable)
    (hdistinct : c.Distinct) {p : Preparation} (hp : c.preparations[c.position]? = some p) :
    ∃ s, c.StandsAt after s ∧
      Reaches (Stand.next c.env c.plan c.earlier) (.start c.engine.now p) s ∧
      s.IsTimely c.plan (c.run after).1.now := by
  induction after using List.reverseRecOn with
  | nil =>
    obtain ⟨hs, htimely⟩ := standsAt_start hbody hp
    exact ⟨_, hs, .refl, htimely⟩
  | append_singleton after next ih =>
    obtain ⟨s, hs, hreaches, htimely⟩ := ih h.left
    -- Every event is a signal to the worker, or it leaves the target where it stands.
    by_cases hsignal : ∃ signal, next = .signal c.number c.position signal
    · obtain ⟨signal, rfl⟩ := hsignal
      obtain ⟨t, ht, hmoved, htimely'⟩ := hs.step htimely hbody hdistinct h
      have hnow : (c.run (after ++ [.signal c.number c.position signal])).1.now =
          (c.run after).1.now := by
        rw [run_concat, step_now _ (by simp)]
      rw [hnow]
      rcases hmoved with rfl | hnext
      · exact ⟨t, ht, hreaches, htimely'⟩
      · exact ⟨t, ht, hreaches.tail hnext, htimely'⟩
    · obtain ⟨hrest, hlater⟩ :=
        hs.rest htimely hbody (fun signal hnext => hsignal ⟨signal, hnext⟩) h
      exact ⟨s, hrest, hreaches, hlater⟩

end Errand

end Replicast
