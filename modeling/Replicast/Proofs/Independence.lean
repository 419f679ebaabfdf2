import Replicast.Proofs.Independence.Course
/-!
# Targets fail independently

Whatever becomes of the other targets of an operation, a target whose requests go to an authority of
its own is sent the same requests at the same instants, and gets the same outcome, as if it were the
only one.  Where two targets resolve to is not enough for that, as an interceptor may send both to
one authority.

## Overview

* `Errand.Undisturbed.exists_more` brings an undisturbed run to its end.
* `Errand.independent` compares a target among others with the same target alone.
* `Errand.redirected_meet` is a run in which an interceptor brings two targets together.
-/

namespace Replicast.Errand

open Operation Engine StateTransition

variable {c : Errand} {after : List Event} {next : Event} {b : Batch} {s : Stand}
  {signal : Signal} {t : Target}

/-! ## §1 Courses can be completed -/

/-- A step that only sets the clock cancels no token and records nothing.  The clock is a variable
    here, so that it is never computed. -/
theorem quiet_records {e : Engine} {event : Event} {clock : Clock} (number : Nat)
    (hstep : e.step event = ({ e with toClock := clock }, [])) :
    (e.step event).1.tokens = e.tokens ∧ ∀ r ∈ (e.step event).2, r.batch = number := by
  rw [hstep]
  exact ⟨rfl, by simp⟩

/-- The events that concern the clock or the worker. -/
inductive IsPlain (c : Errand) : Event → Prop where
  | advance (d : Duration) : IsPlain c (.advance d)
  | tick : IsPlain c .tick
  | signal (signal : Signal) : IsPlain c (.signal c.number c.position signal)

/-- Neither the clock nor a signal to the worker makes a private run less so. -/
theorem Private.concat (h : c.Private after) (hnext : c.IsPlain next) :
    c.Private (after ++ [next]) := by
  have hstep : ((c.run after).1.step next).1.tokens = (c.run after).1.tokens ∧
      ∀ r ∈ ((c.run after).1.step next).2, r.batch = c.number := by
    cases hnext with
    | advance d => exact quiet_records c.number (step_advance _ d)
    | tick => exact quiet_records c.number (step_tick _)
    | signal signal =>
      simp only [Engine.step, Engine.signal]
      cases (c.run after).1.batches[c.number]? with
      | none => exact ⟨rfl, by simp⟩
      | some b =>
        refine ⟨rfl, fun r hr => ?_⟩
        obtain ⟨x, _, rfl⟩ := List.mem_map.mp hr
        rfl
  have hmem {event : Event} (hevent : event ∈ after ++ [next]) : event ∈ after ∨ event = next := by
    simpa using hevent
  refine ⟨fun goal hgoal => ?_, fun hdrop => ?_, fun hcancel => ?_, ?_, ?_⟩
  -- None of these events reduces, drops or cancels the batch.
  · rcases hmem hgoal with hgoal | rfl
    · exact h.joined goal hgoal
    · cases hnext
  · rcases hmem hdrop with hdrop | rfl
    · exact h.held hdrop
    · cases hnext
  · rcases hmem hcancel with hcancel | rfl
    · exact h.uncancelled hcancel
    · cases hnext
  · rw [run_concat, hstep.1]
    exact h.parent
  · intro r hr hbatch
    rw [run_concat] at hr
    rcases List.mem_append.mp hr with hr | hr
    · exact h.apart r hr hbatch
    · exact absurd (hstep.2 r hr) hbatch

theorem StandsAt.undisturbed (hs : c.StandsAt after s) (h : c.Private after) :
    c.Undisturbed after :=
  ⟨h, by rw [hs.agenda]; rfl⟩

theorem StandsAt.hasEnded (hs : c.StandsAt after s) : c.hasEnded after = !s.worker.isLive := by
  simp [Errand.hasEnded, hs.worker]

/-- Time may pass until something comes, and at will for a worker that finds the deadline passed. -/
theorem StandsAt.wait (hs : c.StandsAt after s) (htimely : s.IsTimely c.plan (c.run after).1.now)
    (h : c.Private after) (hbody : c.op.body.IsRepeatable) (hlive : s.worker.isLive = true)
    {d : Duration} (hpass : ∀ time signal, s.agenda.upcoming s.worker = some (time, signal) →
      (c.run after).1.now.after d ≤ time) :
    c.Private (after ++ [.advance d]) ∧ c.StandsAt (after ++ [.advance d]) s ∧
      s.IsTimely c.plan (c.run (after ++ [.advance d])).1.now ∧
      (c.run (after ++ [.advance d])).1.now = (c.run after).1.now.after d := by
  obtain ⟨b, hwatched⟩ := h.watched hbody
  have hw := hs.worker_of_batch hwatched
  have hprivate : c.Private (after ++ [.advance d]) := h.concat (.advance d)
  have hattended : (c.agenda? (after ++ [.advance d])).isSome = true := by
    rw [agenda?_concat, hs.agenda, Option.bind_some]
    by_cases hlate : s.worker.isLate c.plan (c.run after).1.toClock = true
    · rw [hwatched.heed_late hw hlive hlate]
      rfl
    · have hattentive := hwatched.attentive hw hlive
      rw [if_neg hlate] at hattentive
      rw [heed_advance hattentive hpass]
      rfl
  obtain ⟨hrest, hlater⟩ := hs.rest htimely hbody (by simp) ⟨hprivate, hattended⟩
  exact ⟨hprivate, hrest, hlater, by rw [run_concat, step_after]⟩

/-- The timers may be looked after at any time, and none is late then. -/
theorem StandsAt.tick (hs : c.StandsAt after s) (htimely : s.IsTimely c.plan (c.run after).1.now)
    (h : c.Private after) (hbody : c.op.body.IsRepeatable) :
    c.Private (after ++ [.tick]) ∧ c.StandsAt (after ++ [.tick]) s ∧
      s.IsTimely c.plan (c.run (after ++ [.tick])).1.now ∧
      (c.run (after ++ [.tick])).1.toClock = (c.run after).1.toClock.tick := by
  have hprivate : c.Private (after ++ [.tick]) := h.concat .tick
  have hattended : (c.agenda? (after ++ [.tick])).isSome = true := by
    rw [agenda?_concat, hs.agenda, Option.bind_some, heed_tick]
    rfl
  obtain ⟨hrest, hlater⟩ := hs.rest htimely hbody (by simp) ⟨hprivate, hattended⟩
  refine ⟨hprivate, hrest, hlater, ?_⟩
  rw [run_concat, step_clock]
  rfl

/-- What comes next, if the worker does not find the deadline passed first, can be waited for. -/
theorem StandsAt.exists_heard (hs : c.StandsAt after s)
    (htimely : s.IsTimely c.plan (c.run after).1.now) (h : c.Private after)
    (hbody : c.op.body.IsRepeatable) (hdistinct : c.Distinct) (hlive : s.worker.isLive = true)
    {time : Instant} (hupcoming : s.agenda.upcoming s.worker = some (time, signal))
    (hearly : time < Stand.cutoff c.plan s.worker) :
    ∃ more, c.Private (after ++ more) ∧
      c.StandsAt (after ++ more) (s.hear c.env c.plan c.earlier time signal) ∧
      (c.run (after ++ more)).1.now = time := by
  have hle : (c.run after).1.now ≤ time :=
    (htimely time signal hupcoming).resolve_right (Nat.not_le.mpr hearly)
  -- Nothing else comes before it.
  have hpass : ∀ due other, s.agenda.upcoming s.worker = some (due, other) →
      (c.run after).1.now.after (time.since (c.run after).1.now) ≤ due := by
    intro due other hdue
    obtain ⟨rfl, rfl⟩ := Prod.mk.inj (Option.some.inj (hupcoming.symm.trans hdue))
    exact Nat.le_of_eq (congrArg Instant.nanos (Instant.after_since hle))
  obtain ⟨hprivate, hrest, _, hnow⟩ := hs.wait htimely h hbody hlive hpass
  rw [Instant.after_since hle] at hnow
  obtain ⟨b, hwatched⟩ := hprivate.watched hbody
  have hprompt : (c.run (after ++ [.advance (time.since (c.run after).1.now)])).1.isPrompt
      c.number = true := by
    refine hwatched.isPrompt_iff.mpr (.inl ?_)
    rw [hnow]
    exact Nat.lt_of_lt_of_le hearly (Stand.cutoff_le_wakeup _ _)
  have hlate : ¬ s.worker.isLate c.plan
      (c.run (after ++ [.advance (time.since (c.run after).1.now)])).1.toClock = true := by
    intro hlate
    have hcutoff := Stand.cutoff_le_of_isLate hlate
    rw [hnow] at hcutoff
    exact Nat.not_le.mpr hearly hcutoff
  have hnext : c.Private (after ++ [.advance (time.since (c.run after).1.now)] ++
      [.signal c.number c.position signal]) := hprivate.concat (.signal signal)
  refine ⟨[.advance (time.since (c.run after).1.now), .signal c.number c.position signal],
    ?_, ?_, ?_⟩
  · simpa using hnext
  · have hheard := hrest.hear hwatched hbody hdistinct hnext hlive hlate hprompt
      (by rw [hnow]; exact hupcoming)
    rw [hnow] at hheard
    simpa using hheard
  · have hclock : (c.run (after ++ [.advance (time.since (c.run after).1.now)] ++
        [.signal c.number c.position signal])).1.now = time := by
      rw [run_concat, step_now _ (by simp)]
      exact hnow
    simpa using hclock

/-- The timer for the deadline can be waited for when nothing comes before the worker finds it
    passed. -/
theorem StandsAt.exists_late (hs : c.StandsAt after s)
    (htimely : s.IsTimely c.plan (c.run after).1.now) (h : c.Private after)
    (hbody : c.op.body.IsRepeatable) (hlive : s.worker.isLive = true)
    (hnone : ∀ time signal, s.agenda.upcoming s.worker = some (time, signal) →
      Stand.cutoff c.plan s.worker ≤ time) :
    ∃ more, c.Private (after ++ more) ∧ c.StandsAt (after ++ more) s ∧
      s.IsTimely c.plan (c.run (after ++ more)).1.now ∧
      s.worker.isLate c.plan (c.run (after ++ more)).1.toClock = true := by
  -- Wait for the cutoff, unless it has come, and look after the timers then.
  obtain ⟨wait, hprivate, hrest, hlater, hcutoff⟩ : ∃ wait, c.Private (after ++ wait) ∧
      c.StandsAt (after ++ wait) s ∧ s.IsTimely c.plan (c.run (after ++ wait)).1.now ∧
      Stand.cutoff c.plan s.worker ≤ (c.run (after ++ wait)).1.now := by
    rcases Nat.lt_or_ge (c.run after).1.now.nanos (Stand.cutoff c.plan s.worker).nanos with
      hearly | hcome
    · have hreach : (c.run after).1.now.after
          ((Stand.cutoff c.plan s.worker).since (c.run after).1.now) =
            Stand.cutoff c.plan s.worker := Instant.after_since (Nat.le_of_lt hearly)
      have hpass : ∀ time signal, s.agenda.upcoming s.worker = some (time, signal) →
          (c.run after).1.now.after
            ((Stand.cutoff c.plan s.worker).since (c.run after).1.now) ≤ time := by
        rw [hreach]
        exact hnone
      obtain ⟨hprivate, hrest, hlater, hnow⟩ := hs.wait htimely h hbody hlive hpass
      rw [hreach] at hnow
      refine ⟨_, hprivate, hrest, hlater, ?_⟩
      exact Nat.le_of_eq (congrArg Instant.nanos hnow.symm)
    · exact ⟨[], by simpa using ⟨h, hs, htimely, hcome⟩⟩
  obtain ⟨hticked, hthere, htimed, hclock⟩ := hrest.tick hlater hprivate hbody
  refine ⟨wait ++ [.tick], ?_⟩
  rw [← List.append_assoc]
  refine ⟨hticked, hthere, htimed, ?_⟩
  rw [hclock]
  exact Stand.isLate_of_cutoff_le (Stand.prompt_tick _ _) hcutoff

/-- The next stand can be reached. -/
theorem StandsAt.exists_next {t : Stand} (hs : c.StandsAt after s)
    (htimely : s.IsTimely c.plan (c.run after).1.now) (h : c.Private after)
    (hbody : c.op.body.IsRepeatable) (hdistinct : c.Distinct)
    (hnext : s.next c.env c.plan c.earlier = some t) :
    ∃ more, c.Private (after ++ more) ∧ c.StandsAt (after ++ more) t ∧
      t.IsTimely c.plan (c.run (after ++ more)).1.now := by
  obtain ⟨hlive, hways⟩ := Stand.next_cases hnext
  by_cases hearly : ∃ time signal, s.agenda.upcoming s.worker = some (time, signal) ∧
      time < Stand.cutoff c.plan s.worker
  · obtain ⟨time, signal, hupcoming, hearly⟩ := hearly
    rw [Stand.next_hear hlive hupcoming (.inl hearly)] at hnext
    obtain rfl := Option.some.inj hnext
    obtain ⟨more, hprivate, hstands, hnow⟩ :=
      hs.exists_heard htimely h hbody hdistinct hlive hupcoming hearly
    exact ⟨more, hprivate, hstands, by rw [hnow]; exact Stand.hear_timely time signal⟩
  -- Otherwise nothing comes in time, and a turn after the deadline is enough.
  have hnone : ∀ time signal, s.agenda.upcoming s.worker = some (time, signal) →
      Stand.cutoff c.plan s.worker ≤ time := fun time signal hupcoming =>
    Nat.le_of_not_lt fun htime => hearly ⟨time, signal, hupcoming, htime⟩
  obtain ⟨more, hprivate, hrest, hlater, hlate⟩ := hs.exists_late htimely h hbody hlive hnone
  obtain ⟨b, hwatched⟩ := hprivate.watched hbody
  have hturn : c.Private (after ++ more ++ [.signal c.number c.position .turn]) :=
    hprivate.concat (.signal .turn)
  have hnow : (c.run (after ++ more ++ [.signal c.number c.position .turn])).1.now =
      (c.run (after ++ more)).1.now := by
    rw [run_concat, step_now _ (by simp)]
  refine ⟨more ++ [.signal c.number c.position .turn], ?_⟩
  rw [← List.append_assoc, hnow]
  rcases hways with ⟨time, signal, hupcoming, htime, rfl⟩ | ⟨hphase, _, rfl⟩
  · have hphase := htime.resolve_left fun htime => hearly ⟨time, signal, hupcoming, htime⟩
    obtain ⟨rfl, rfl⟩ : s.agenda.since = time ∧ .turn = signal := by
      rw [Agenda.upcoming, if_pos (Worker.awaits_turn.mpr (.inl hphase))] at hupcoming
      exact Prod.mk.inj (Option.some.inj hupcoming)
    exact ⟨hturn, hrest.enter hwatched hlate hphase, Stand.enter_timely hphase hlater⟩
  · refine ⟨hturn, hrest.expire hwatched hlive hlate ?_, Stand.expire_timely hlive hphase _⟩
    exact Worker.step_openings hbody s.worker _ _ 0 .turn

/-- Every undisturbed run can be brought to the end of the course. -/
theorem Undisturbed.exists_more (h : c.Undisturbed after) (hbody : c.op.body.IsRepeatable)
    (hdistinct : c.Distinct) {p : Preparation} (hp : c.preparations[c.position]? = some p) :
    ∃ more, c.Undisturbed (after ++ more) ∧ c.hasEnded (after ++ more) = true := by
  obtain ⟨s, hs, hreaches, htimely⟩ := h.exists_stand hbody hdistinct hp
  obtain ⟨last, hlast, hended⟩ := Stand.exists_end_of_reaches hreaches
  have hprivate := h.toPrivate
  clear hreaches h
  -- Step by step along what is left of the course.
  induction hlast using Relation.ReflTransGen.head_induction_on generalizing after with
  | refl =>
    refine ⟨[], ?_, ?_⟩
    · simpa using hs.undisturbed hprivate
    · simpa [hs.hasEnded] using hended
  | head hnext _ ih =>
    obtain ⟨more, hprivate', hs', htimely'⟩ :=
      hs.exists_next htimely hprivate hbody hdistinct hnext
    obtain ⟨others, hundisturbed, hover⟩ := ih hs' htimely' hprivate'
    exact ⟨more ++ others, by simpa using hundisturbed, by simpa using hover⟩

/-! ## §2 Together and alone -/

/-- A run that is private was so from the dispatch on. -/
theorem Private.start (h : c.Private after) : c.Private [] := by
  induction after using List.reverseRecOn with
  | nil => exact h
  | append_singleton after next ih => exact ih h.left

theorem preparations_of_target (ht : c.targets[c.position]? = some t) :
    c.preparations[c.position]? = some (c.op.prepare c.engine.client t 0) := by
  simp [preparations, ht]

theorem alone_distinct (c : Errand) (t : Target) : (c.alone t).Distinct := by
  unfold Distinct authorities alone
  cases hp : (c.op.prepare c.engine.client t 0).authority? <;> simp [hp]

theorem alone_earlier (ht : c.targets[c.position]? = some t) : (c.alone t).earlier = c.earlier := by
  have hc : c.authority? = (c.op.prepare c.engine.client t 0).authority? := by
    simp [authority?, preparations_of_target ht]
  have halone : (c.alone t).authority? = (c.op.prepare c.engine.client t 0).authority? := rfl
  rw [earlier, earlier, hc, halone]
  rfl

/-- At its dispatch the target alone is undisturbed. -/
theorem Private.alone (h : c.Private after) (hbody : c.op.body.IsRepeatable) (t : Target) :
    (c.alone t).Undisturbed [] := by
  -- The dispatch records nothing but the new batch.
  have hrecords : ∀ r ∈ ((c.alone t).run []).2, r.batch = c.number := by
    intro r hr
    simp only [run, Errand.alone, Engine.run, Engine.step, Engine.dispatch,
      List.append_nil] at hr
    obtain ⟨x, _, rfl⟩ := List.mem_map.mp hr
    rfl
  have hprivate : (c.alone t).Private [] :=
    ⟨by simp, by simp, by simp, h.start.parent,
      fun r hr hbatch => absurd (hrecords r hr) hbatch⟩
  have ht : (c.alone t).targets[(c.alone t).position]? = some t := rfl
  have hp := preparations_of_target (c := c.alone t) ht
  exact (standsAt_start (c := c.alone t) hbody hp).1.undisturbed hprivate

/-- An interceptor that keeps the URIs leaves the authorities to differ where those do that the
    targets resolve to. -/
theorem distinct_iff_of_keepsUris (hkeeps : KeepsUris c.engine.client) :
    c.Distinct ↔ (c.targets.filterMap fun t =>
      if (c.op.prepare c.engine.client t 0).copy.isOk then (c.op.uriFor t).toOption.map Uri.authority
      else none).Nodup := by
  rw [Distinct, authorities_of_keepsUris hkeeps]

/-- **Targets fail independently.**  Let the body of an operation be repeatable, and let the
    authorities differ to which the requests go that can be built, as the interceptor leaves them:
    with one that keeps the URIs, those that the targets resolve to.  Then every run in which nothing
    but its surroundings concerns a target can be brought to its end, and so can a run in which the
    target is the only one; and whenever both have ended, the requests that were handed to the
    transport for the target, with their instants, and the outcome that was posted for it are the
    same. -/
theorem independent (hbody : c.op.body.IsRepeatable) (hdistinct : c.Distinct)
    (ht : c.targets[c.position]? = some t) (h : c.Undisturbed after) :
    (∃ more, c.Undisturbed (after ++ more) ∧ c.hasEnded (after ++ more) = true) ∧
      (∃ others, (c.alone t).Undisturbed others ∧ (c.alone t).hasEnded others = true) ∧
      ∀ others, (c.alone t).Undisturbed others →
        c.hasEnded after = true → (c.alone t).hasEnded others = true →
          c.sent after = (c.alone t).sent others ∧
            ∃ o, c.posted after = [o] ∧ (c.alone t).posted others = [o] := by
  have hp := preparations_of_target ht
  have hp' : (c.alone t).preparations[(c.alone t).position]? =
      some (c.op.prepare c.engine.client t 0) := rfl
  refine ⟨h.exists_more hbody hdistinct hp, ?_, ?_⟩
  · exact (h.toPrivate.alone hbody t).exists_more hbody (c.alone_distinct t) hp'
  · intro others hothers hended hended'
    obtain ⟨s, hs, hreaches, _⟩ := h.exists_stand hbody hdistinct hp
    obtain ⟨s', hs', hreaches', _⟩ := hothers.exists_stand hbody (c.alone_distinct t) hp'
    rw [alone_earlier ht] at hreaches'
    have hover : s.worker.isLive = false := by simpa [hs.hasEnded] using hended
    have hover' : s'.worker.isLive = false := by simpa [hs'.hasEnded] using hended'
    -- Both are ends of one course.
    obtain rfl : s = s' := Stand.eq_of_reaches hreaches hreaches' hover hover'
    obtain ⟨o, ho⟩ := (Stand.IsPaid.of_reaches hreaches).paid hover
    exact ⟨hs.sent.trans hs'.sent.symm, o, hs.posted.trans ho, hs'.posted.trans ho⟩

/-- A run is undisturbed when it has no other batch, and nothing happens but the joining of the
    outcomes, signals, the passing of time, and looks after the timers. -/
theorem undisturbed_of_signals (hparent : c.op.parent = none)
    (hevents : ∀ event ∈ after, event = .reduce c.number .join ∨
      (∃ position signal, event = .signal c.number position signal) ∨
        (∃ d, event = .advance d) ∨ event = .tick)
    (hrecords : ∀ r ∈ (c.run after).2, r.batch = c.number)
    (hattended : (c.agenda? after).isSome = true) : c.Undisturbed after := by
  refine ⟨⟨fun goal hgoal => ?_, fun hdrop => ?_, fun hcancel => ?_, by simp [hparent],
    fun r hr hbatch => absurd (hrecords r hr) hbatch⟩, hattended⟩
  · rcases hevents _ hgoal with h | ⟨_, _, h⟩ | ⟨_, h⟩ | h <;> cases h
    rfl
  · rcases hevents _ hdrop with h | ⟨_, _, h⟩ | ⟨_, h⟩ | h <;> cases h
  · rcases hevents _ hcancel with h | ⟨_, _, h⟩ | ⟨_, h⟩ | h <;> cases h

/-- A response that says nothing but its status. -/
def bareResponse (status : Status) : Signal :=
  .answer (.response ⟨status, .http11, Header.Map.empty⟩)

/-- A transport that limits the first request to an authority and takes the next one, after five
    milliseconds each. -/
def limiting : Surroundings where
  serve _ requests :=
    if requests.length = 1 then [(.ofMillis 5, bareResponse Status.tooManyRequests)]
    else [(.ofMillis 5, bareResponse Status.ok), (.ofMillis 1, .bodyEnd)]
  pause _ d := d

/-- The second one of two targets. -/
def secondOfTwo : Errand where
  env := limiting
  past := []
  engine := plain
  op := .new .get "x"
  targets := [⟨0, "http://a"⟩, ⟨1, "http://b"⟩]
  position := 1

/-- What a worker hears whose first request is limited. -/
def limitedEvents (position : Nat) : List Event :=
  [.signal 0 position .turn, .signal 0 position .turn, .advance (.ofMillis 5),
    .signal 0 position (bareResponse Status.tooManyRequests), .advance (.ofSeconds 1),
    .signal 0 position .pauseOver, .signal 0 position .turn, .advance (.ofMillis 5),
    .signal 0 position (bareResponse Status.ok), .advance (.ofMillis 1), .signal 0 position .bodyEnd]

/-- The worker of the first target panics before the second one has its answers. -/
def panickingEvents : List Event :=
  [.reduce 0 .join, .signal 0 0 .turn, .signal 0 0 .turn, .signal 0 0 .panic] ++ limitedEvents 1

/-- The second target does not notice that the worker of the first one panics. -/
theorem independent_panicking :
    secondOfTwo.op.body.IsRepeatable ∧ secondOfTwo.Distinct ∧
      secondOfTwo.targets[secondOfTwo.position]? = some ⟨1, "http://b"⟩ ∧
      secondOfTwo.Undisturbed panickingEvents ∧
      (secondOfTwo.alone ⟨1, "http://b"⟩).Undisturbed (limitedEvents 0) ∧
      secondOfTwo.sent panickingEvents =
        (secondOfTwo.alone ⟨1, "http://b"⟩).sent (limitedEvents 0) ∧
      ∃ o, secondOfTwo.posted panickingEvents = [o] ∧
        (secondOfTwo.alone ⟨1, "http://b"⟩).posted (limitedEvents 0) = [o] := by
  have hbody : secondOfTwo.op.body.IsRepeatable := fun _ _ => rfl
  have hdistinct : secondOfTwo.Distinct := by unfold Distinct; decide +kernel
  have ht : secondOfTwo.targets[secondOfTwo.position]? = some ⟨1, "http://b"⟩ := rfl
  have hjoint : secondOfTwo.Undisturbed panickingEvents :=
    undisturbed_of_signals rfl
      (by simp [panickingEvents, limitedEvents, secondOfTwo, number, plain, Engine.start])
      (by decide +kernel) (by decide +kernel)
  have halone : (secondOfTwo.alone ⟨1, "http://b"⟩).Undisturbed (limitedEvents 0) :=
    undisturbed_of_signals rfl
      (by simp [limitedEvents, secondOfTwo, alone, number, plain, Engine.start])
      (by decide +kernel) (by decide +kernel)
  have hended : secondOfTwo.hasEnded panickingEvents = true := by decide +kernel
  have hended' : (secondOfTwo.alone ⟨1, "http://b"⟩).hasEnded (limitedEvents 0) = true := by
    decide +kernel
  obtain ⟨hsent, hposted⟩ :=
    (independent hbody hdistinct ht hjoint).2.2 _ halone hended hended'
  exact ⟨hbody, hdistinct, ht, hjoint, halone, hsent, hposted⟩

/-- The second one of two targets whose requests an interceptor sends to a third authority. -/
def redirected : Errand where
  env := limiting
  past := []
  engine := start
    { (ClientBuilder.ofConfig .standard).build with
      interceptor := some fun _ head =>
        ⟨{ head with uri := { head.uri with origin := some ("http".toList, "c".toList) } }, none⟩ }
    ⟨0⟩
  op := .new .get "x"
  targets := [⟨0, "http://a"⟩, ⟨1, "http://b"⟩]
  position := 1

/-- The request for the first target is limited, and the one for the second is not. -/
def redirectedEvents : List Event :=
  [.reduce 0 .join, .signal 0 0 .turn, .signal 0 0 .turn, .signal 0 1 .turn, .signal 0 1 .turn,
    .advance (.ofMillis 5), .signal 0 0 (bareResponse Status.tooManyRequests),
    .signal 0 1 (bareResponse Status.ok), .advance (.ofMillis 1), .signal 0 1 .bodyEnd]

/-- The two targets resolve to different authorities.  Still, alone the second one would be limited
    itself, and try again. -/
theorem redirected_meet :
    redirected.targets.map (fun t => (redirected.op.uriFor t).toOption.map Uri.authority) =
        [some "a".toList, some "b".toList] ∧
      redirected.op.body.IsRepeatable ∧ redirected.Undisturbed redirectedEvents ∧
      (redirected.alone ⟨1, "http://b"⟩).Undisturbed (limitedEvents 0) ∧
      redirected.hasEnded redirectedEvents = true ∧
      (redirected.alone ⟨1, "http://b"⟩).hasEnded (limitedEvents 0) = true ∧
      redirected.sent redirectedEvents ≠
        (redirected.alone ⟨1, "http://b"⟩).sent (limitedEvents 0) ∧
      redirected.posted redirectedEvents ≠
        (redirected.alone ⟨1, "http://b"⟩).posted (limitedEvents 0) := by
  have hjoint : redirected.Undisturbed redirectedEvents :=
    undisturbed_of_signals rfl
      (by simp [redirectedEvents, redirected, number, Engine.start])
      (by decide +kernel) (by decide +kernel)
  have halone : (redirected.alone ⟨1, "http://b"⟩).Undisturbed (limitedEvents 0) :=
    undisturbed_of_signals rfl
      (by simp [limitedEvents, redirected, alone, number, Engine.start])
      (by decide +kernel) (by decide +kernel)
  refine ⟨by decide +kernel, fun _ _ => rfl, hjoint, halone, by decide +kernel, by decide +kernel,
    fun hsame => ?_, fun hsame => ?_⟩
  · -- One request together, and two alone.
    have hone : (redirected.sent redirectedEvents).length = 1 := by decide +kernel
    have htwo : ((redirected.alone ⟨1, "http://b"⟩).sent (limitedEvents 0)).length = 2 := by
      decide +kernel
    rw [hsame, htwo] at hone
    cases hone
  · have hone : (redirected.posted redirectedEvents).map (·.attempts) = [1] := by decide +kernel
    have htwo : ((redirected.alone ⟨1, "http://b"⟩).posted (limitedEvents 0)).map (·.attempts) =
        [2] := by decide +kernel
    rw [hsame, htwo] at hone
    cases hone

end Replicast.Errand
