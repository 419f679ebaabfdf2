import Replicast.Proofs.Engine.Clock
import Replicast.Proofs.Engine.Position
import Replicast.Proofs.Worker.Ending
/-!
# Where outcomes come from

Whatever a run records was done at one of its events.  Outcomes are posted at two kinds of them: the
dispatch posts for the targets whose requests could not be built, and a worker posts at its end.

## Overview

* `Engine.exists_event` finds the event of a record.
* `Engine.Origin` lists the ways in which an outcome comes to be posted, and `Engine.run_origin`
  finds the one of a record.
* `Engine.run_ended` says that nothing is done any more for a target that has its outcome.
-/

namespace Replicast

/-! ## §1 Posts of one event -/

/-- A new batch posts for the targets whose requests could not be built. -/
theorem Engine.Newborn.posts {e : Engine} {targets : List Target} {b : Batch} {d : Doings}
    {preparations : List Operation.Preparation} (h : Newborn e targets b d preparations)
    {place : Option Nat} {o : Outcome} {posting : Channel.Posting}
    (hmem : (place, .posted o posting) ∈ d) :
    ∃ i p error, place = some i ∧ preparations[i]? = some p ∧ p.copy = .error error ∧
      o = Outcome.failed p.target p.head error := by
  obtain ⟨i, hi, rfl⟩ := h.placed _ hmem (by simp [Effect.posted?])
  have hlength : preparations.length = targets.length := by simp [← h.prepared]
  have hp := List.getElem?_eq_getElem (hlength ▸ hi)
  have hat := Doings.mem_effectsAt.mpr hmem
  rw [h.here i _ hp] at hat
  have hposted : o ∈ (preparations[i].doings e.client b.plan.retryPolicy).filterMap
      Effect.posted? := List.mem_filterMap.mpr ⟨_, hat, rfl⟩
  rw [Operation.Preparation.doings_posted, Operation.Preparation.failure?] at hposted
  -- Only a preparation that failed has an outcome.
  cases hcopy : preparations[i].copy with
  | ok copy => simp [hcopy] at hposted
  | error error => exact ⟨i, _, error, rfl, hp, hcopy, by simpa [hcopy] using hposted⟩

namespace Batch

variable {b : Batch} {e : Engine} {o : Outcome} {posting : Channel.Posting}

/-- What is concluded posts nothing. -/
theorem not_posted_of_concluding {k : Doings} (h : ∀ x ∈ k, x.2.isConcluding = true)
    {place : Option Nat} : (place, .posted o posting) ∉ k := by
  intro hmem
  cases h _ hmem

/-- A signal posts the outcome with which its worker ends. -/
theorem signal_posts {position : Nat} {s : Signal}
    (hmem : .posted o posting ∈ (b.signal e.toClock e.tokens e.openings position s).2) :
    ∃ w, b.workers[position]? = some w ∧ w.Ending b.plan (b.stopFor e w) s o := by
  cases hw : b.workers[position]? with
  | none =>
    rw [signal_of_none e hw s] at hmem
    cases hmem
  | some w =>
    have hstep := Worker.step_transition b.plan (b.stopFor e w) e.openings w s
    rw [signal_eq e hw s] at hmem
    refine ⟨w, rfl, hstep.ending ?_⟩
    rcases List.mem_append.mp hmem with hown | hpost
    · cases hstep.lawful.own _ hown
    · cases hout : (w.step b.plan (b.stopFor e w) e.openings s).outcome with
      | none => simp [hout] at hpost
      | some o' =>
        obtain ⟨rfl, _⟩ : o = o' ∧ _ := by simpa [hout] using hpost
        rfl

/-- A batch that is there posts only when one of its workers ends. -/
theorem react_posts {number : Nat} {event : Engine.Event} {place : Option Nat}
    (hmem : (place, .posted o posting) ∈ (b.react e number event).2) :
    ∃ i s w, event = .signal number i s ∧ place = some i ∧ b.workers[i]? = some w ∧
      w.Ending b.plan (b.stopFor e w) s o := by
  cases event with
  | signal n i s =>
    by_cases hn : n = number
    · subst hn
      simp only [react, if_true] at hmem
      obtain ⟨x, hx, hplaced⟩ := List.mem_map.mp hmem
      obtain ⟨rfl, rfl⟩ := Prod.mk.inj hplaced
      obtain ⟨w, hw, hending⟩ := signal_posts hx
      exact ⟨i, s, w, rfl, rfl, hw, hending⟩
    · simp [react, hn] at hmem
  -- Every other event judges and returns at most, and a turn may take an outcome.
  | poll n =>
    by_cases hn : n = number
    · simp only [react, hn, if_true] at hmem
      rcases (poll_turn e.toClock e.tokens b).effects_cases with hconcluding | ⟨o', rest, heq, hrest⟩
      · exact absurd hmem (not_posted_of_concluding (Doings.unplaced_concluding hconcluding))
      · rw [heq, Engine.unplaced_cons] at hmem
        rcases List.mem_cons.mp hmem with hfirst | hmem
        · cases hfirst
        · exact absurd hmem (not_posted_of_concluding (Doings.unplaced_concluding hrest))
    · simp [react, hn] at hmem
  | drop n =>
    by_cases hn : n = number
    · simp only [react, hn, if_true] at hmem
      exact absurd hmem (not_posted_of_concluding (Doings.unplaced_concluding (drop_concluding b)))
    · simp [react, hn] at hmem
  | cancel n | reduce n _ => by_cases hn : n = number <;> simp [react, hn] at hmem
  | dispatch _ _ | replicate _ _ _ _ | cancelToken _ | advance _ | tick => cases hmem

/-- A worker that has ended is deaf, and nobody else does anything for its target. -/
theorem react_ended (e : Engine) (number : Nat) {i : Nat} {w : Worker}
    (hw : b.workers[i]? = some w) (hended : w.isLive = false) (event : Engine.Event) :
    (b.react e number event).1.workers[i]? = some w ∧
      (b.react e number event).2.effectsAt i = [] := by
  by_cases htold : ∃ s, event = .signal number i s
  · obtain ⟨s, rfl⟩ := htold
    have htold := react_told e number hw s
    rwa [Worker.step_of_ended hended] at htold
  · obtain ⟨hsame, hnothing⟩ := react_untold (b := b) e number i fun s hs => htold ⟨s, hs⟩
    exact ⟨hsame.trans hw, hnothing⟩

end Batch

namespace Engine

variable {client : Client} {now : Instant} {e : Engine} {r : Record} {o : Outcome}
  {posting : Channel.Posting}

/-- The ways in which an event comes to post an outcome. -/
inductive Origin (e : Engine) (r : Record) (o : Outcome) : Event → Prop where
  /-- The dispatch could not build the request of the target. -/
  | refused {event : Event} {op : Operation} {targets : List Target} {i : Nat}
      {p : Operation.Preparation} {error : Error} :
      event.operation? = some op → event.targets? = some targets →
      r.batch = e.batches.length → r.position = some i →
      (op.prepareAll e.client e.openings targets)[i]? = some p → p.copy = .error error →
      o = Outcome.failed p.target p.head error → Origin e r o event
  /-- The worker of the target ended. -/
  | ended {b : Batch} {i : Nat} {w : Worker} {s : Signal} :
      e.batches[r.batch]? = some b → r.position = some i → b.workers[i]? = some w →
      w.Ending b.plan (b.stopFor e w) s o → Origin e r o (.signal r.batch i s)

/-- Every post of an event has an origin. -/
theorem step_origin {event : Event} (hr : r ∈ (e.step event).2)
    (hposted : r.effect = .posted o posting) : Origin e r o event := by
  have hmem := History.mem_of hr rfl
  rw [hposted] at hmem
  cases hb : e.batches[r.batch]? with
  | some b =>
    rw [(step_share hb event).2] at hmem
    obtain ⟨i, s, w, rfl, hplace, hw, hending⟩ := Batch.react_posts hmem
    exact .ended hb hplace hw hending
  | none =>
    -- Without a batch of this number, the event begins it.
    rcases step_unborn hb event with ⟨_, hnothing⟩ | ⟨hnumber, targets, b, d, hbirth, _, hdoings⟩
    · rw [hnothing] at hmem
      cases hmem
    · rw [hdoings] at hmem
      obtain ⟨op, hop, _, hnew⟩ := hbirth.prepared
      obtain ⟨i, p, error, hplace, hp, hcopy, ho⟩ := hnew.posts hmem
      exact .refused hop hbirth.targets? hnumber hplace hp hcopy ho

/-! ## §2 Runs -/

/-- What a run records was done at one of its events. -/
theorem exists_event {events : List Event} (hr : r ∈ (e.run events).2) :
    ∃ before event after, events = before ++ event :: after ∧
      r ∈ ((e.run before).1.step event).2 := by
  induction events generalizing e with
  | nil => cases hr
  | cons event rest ih =>
    rcases List.mem_append.mp hr with hr | hr
    · exact ⟨[], event, rest, rfl, hr⟩
    · obtain ⟨before, next, after, rfl, hnext⟩ := ih hr
      exact ⟨event :: before, next, after, rfl, hnext⟩

/-- **Where an outcome comes from**: whatever a run has posted was posted at one of its events, at
    the instant of that event, for a target whose request could not be built or whose worker ended
    then. -/
theorem run_origin {events : List Event} (hr : r ∈ (e.run events).2)
    (hposted : r.effect = .posted o posting) :
    ∃ before event after, events = before ++ event :: after ∧ r.time = (e.run before).1.now ∧
      Origin (e.run before).1 r o event := by
  obtain ⟨before, event, after, hsplit, hrecord⟩ := exists_event hr
  exact ⟨before, event, after, hsplit, step_times _ _ _ hrecord, step_origin hrecord hposted⟩

/-- The batch that an event begins is there for good, under the plan of its operation. -/
theorem run_planned (client : Client) (now : Instant) (before after : List Event) {event : Event}
    {op : Operation} (hop : event.operation? = some op) :
    ∃ b, ((start client now).run (before ++ event :: after)).1.batches[
        ((start client now).run before).1.batches.length]? = some b ∧
      b.plan = (((start client now).run before).1.fresh op []).plan := by
  obtain ⟨targets, htargets⟩ := Event.exists_targets hop
  obtain ⟨last, hlast, b, d, hbirth, hkept⟩ := run_born client now before after htargets
  obtain ⟨op', hop', hplan, _⟩ := hbirth.prepared
  obtain rfl := Option.some.inj (hop.symm.trans hop')
  exact ⟨last, hlast, hkept.plan.trans hplan⟩

/-- Nothing is done any more for a target whose worker has ended. -/
theorem run_ended {number i : Nat} {b : Batch} {w : Worker} (events : List Event)
    (hb : e.batches[number]? = some b) (hw : b.workers[i]? = some w) (hended : w.isLive = false) :
    ((e.run events).2.of number).effectsAt i = [] := by
  obtain ⟨_, _, _, hnothing⟩ := run_safe
    (P := fun _ b => b.workers[i]? = some w) (A := fun x => x.1 ≠ some i)
    (fun e event b _ hw =>
      let ⟨hsame, hquiet⟩ := Batch.react_ended e number hw hended event
      ⟨hsame, fun (place, x) hx hplace => by
        obtain rfl : place = some i := hplace
        have hmem := Doings.mem_effectsAt.mpr hx
        rw [hquiet] at hmem
        cases hmem⟩)
    events hb hw
  exact List.eq_nil_iff_forall_not_mem.mpr fun x hx =>
    hnothing _ (Doings.mem_effectsAt.mp hx) rfl

end Engine

end Replicast
