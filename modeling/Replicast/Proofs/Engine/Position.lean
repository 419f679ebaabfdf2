import Replicast.Proofs.Engine.Newborn
/-!
# The share of one target in a run

Only the signals to a target's worker move that worker and do anything for the target.

## Overview

* `Batch.react_told` and `Batch.react_untold` are the two kinds of reactions, as one target sees
  them, and `Batch.Move.at` says the same of moves.
* `Engine.worker_induction` is the induction that every invariant of a worker goes by.
-/

namespace Replicast

/-- What a worker's move does for its target, its post included. -/
def Worker.Move.doings (m : Worker.Move) (posting : Channel.Posting) : List Effect :=
  m.effects ++ m.outcome.elim [] fun o => [.posted o posting]

theorem Worker.Lawful.posted {w : Worker} {m : Worker.Move} (h : w.Lawful m)
    (posting : Channel.Posting) :
    (m.doings posting).filterMap Effect.posted? = m.outcome.toList := by
  have hown : m.effects.filterMap Effect.posted? = [] :=
    List.filterMap_eq_nil_iff.mpr fun x hx => Effect.posted?_of_isOwn (h.own x hx)
  cases hm : m.outcome <;> simp [Worker.Move.doings, hown, hm, Effect.posted?]

namespace Batch

variable {b : Batch} {position : Nat} {w : Worker}

/-! ## §1 Reactions -/

/-- A signal to the worker at a position. -/
theorem react_told (e : Engine) (number : Nat) (hw : b.workers[position]? = some w) (s : Signal) :
    (b.react e number (.signal number position s)).1.workers[position]? =
        some (w.step b.plan (b.stopFor e w) e.openings s).worker ∧
      (b.react e number (.signal number position s)).2.effectsAt position =
        (w.step b.plan (b.stopFor e w) e.openings s).doings b.channel.posting := by
  have hlt : position < b.workers.length := (List.getElem?_eq_some_iff.mp hw).1
  simp [react, signal_eq e hw s, hlt, Worker.Move.doings]

/-- Any other event. -/
theorem react_untold (e : Engine) (number position : Nat) {event : Engine.Event}
    (hevent : ∀ s, event ≠ .signal number position s) :
    (b.react e number event).1.workers[position]? = b.workers[position]? ∧
      (b.react e number event).2.effectsAt position = [] := by
  cases event with
  | signal n other s =>
    by_cases hn : n = number
    · subst hn
      -- A signal to another worker of the same batch.
      have hother : other ≠ position := fun h => hevent s (h ▸ rfl)
      have hat := Doings.effectsAt_here_ne hother (b.signal e.toClock e.tokens e.openings other s).2
      refine ⟨?_, by simpa [react] using hat⟩
      cases hw : b.workers[other]? with
      | none => simp [react, signal_of_none e hw s]
      | some w => simp [react, signal_eq e hw s, List.getElem?_set_ne hother]
    · simp [react, hn]
  | cancel n =>
    by_cases hn : n = number <;> simp [react, hn, (release_keeps b).workers, Doings.effectsAt]
  | reduce n goal => by_cases hn : n = number <;> simp [react, hn, (begin_keeps b goal).workers]
  | poll n =>
    by_cases hn : n = number <;> simp [react, hn, (poll_keeps e.toClock e.tokens b).workers]
  | drop n => by_cases hn : n = number <;> simp [react, hn, (drop_keeps b).workers]
  | dispatch _ _ | replicate _ _ _ _ | cancelToken _ | advance _ | tick => exact ⟨rfl, rfl⟩

/-- To the worker at a position, every move is a signal or nothing at all. -/
theorem Move.at {e : Engine} {after : Batch} {k : Doings} (h : b.Move e after k)
    (hw : b.workers[position]? = some w) :
    (after.workers[position]? = some w ∧ k.effectsAt position = []) ∨
      ∃ s, after.workers[position]? = some (w.step b.plan (b.stopFor e w) e.openings s).worker ∧
        k.effectsAt position =
          (w.step b.plan (b.stopFor e w) e.openings s).doings b.channel.posting := by
  cases h with
  | rest => exact .inl ⟨hw, rfl⟩
  | signal other s =>
    -- It does not matter under which number the batch runs.
    by_cases hother : other = position
    · subst hother
      exact .inr ⟨s, by simpa [react] using b.react_told e 0 hw s⟩
    · have hne (s' : Signal) : Engine.Event.signal 0 other s ≠ .signal 0 position s' := by
        rintro ⟨⟩
        exact hother rfl
      exact .inl (by simpa [react, hw] using b.react_untold e 0 position hne)
  | cancel => exact .inl ⟨by rw [(release_keeps b).workers, hw], rfl⟩
  | begin goal => exact .inl ⟨by rw [(begin_keeps b goal).workers, hw], rfl⟩
  | poll hturn => exact .inl ⟨by rw [hturn.keeps.workers, hw], Doings.effectsAt_unplaced _ _⟩
  | drop => exact .inl ⟨by rw [(drop_keeps b).workers, hw], Doings.effectsAt_unplaced _ _⟩

end Batch

namespace Engine

open Operation

variable {client : Client} {now : Instant}

/-! ## §2 Workers in a run -/

/-- **Induction over the life of a worker**: what holds of every new worker and is kept by every
    signal to it and by every other event holds of every worker in every run.  The property sees the
    events so far, the plan, the worker, and what was done for its target. -/
theorem worker_induction {number position : Nat}
    {P : List Event → Plan → Worker → List Effect → Prop}
    (born : ∀ events event targets b d preparations p,
      ((start client now).run events).1.batches.length = number →
      Newborn ((start client now).run events).1 targets b d preparations →
      preparations[position]? = some p →
      P (events ++ [event]) b.plan (workerOf p) (d.effectsAt position))
    (told : ∀ events b w effects s,
      ((start client now).run events).1.batches[number]? = some b →
      b.workers[position]? = some w → P events b.plan w effects →
      P (events ++ [.signal number position s]) b.plan
        (w.step b.plan (b.stopFor ((start client now).run events).1 w)
          ((start client now).run events).1.openings s).worker
        (effects ++ (w.step b.plan (b.stopFor ((start client now).run events).1 w)
          ((start client now).run events).1.openings s).doings b.channel.posting))
    (untold : ∀ events event plan w effects, (∀ s, event ≠ .signal number position s) →
      P events plan w effects → P (events ++ [event]) plan w effects)
    (events : List Event) {b : Batch} {w : Worker}
    (hb : ((start client now).run events).1.batches[number]? = some b)
    (hw : b.workers[position]? = some w) :
    P events b.plan w ((((start client now).run events).2.of number).effectsAt position) := by
  refine run_induction
    (P := fun events _ n b d => n = number → ∀ w, b.workers[position]? = some w →
      P events b.plan w (d.effectsAt position)) ?_ ?_ events hb rfl w hw
  · intro events event targets b d hbirth hlength w hw
    -- A new batch has one worker for each preparation.
    obtain ⟨preparations, hnew⟩ := hbirth.newborn
    rw [hnew.workers, List.getElem?_map] at hw
    obtain ⟨p, hp, rfl⟩ := Option.map_eq_some_iff.mp hw
    exact born events event targets b d preparations p hlength hnew hp
  · rintro events event n b d hbefore ih rfl w hw
    rw [(b.react_move _ _ event).persists.plan, Doings.effectsAt_append]
    -- Every event is a signal to this worker, or it leaves it alone.
    by_cases hevent : ∃ s, event = .signal n position s
    · obtain ⟨s, rfl⟩ := hevent
      have hlt : position < b.workers.length := by
        have h := (List.getElem?_eq_some_iff.mp hw).1
        have hsize := (b.react_move ((start client now).run events).1 n
          (.signal n position s)).persists.size
        simp only [Batch.size] at hsize
        omega
      -- The worker was there before, since a batch keeps its size.
      have hold := List.getElem?_eq_getElem hlt
      obtain ⟨hworker, heffects⟩ := Batch.react_told ((start client now).run events).1 n hold s
      obtain rfl := Option.some.inj (hworker.symm.trans hw)
      rw [heffects]
      exact told events b _ _ s hbefore hold (ih rfl _ hold)
    · have hother : ∀ s, event ≠ .signal n position s := fun s h => hevent ⟨s, h⟩
      obtain ⟨hworker, heffects⟩ := Batch.react_untold (b := b)
        ((start client now).run events).1 n position hother
      rw [heffects, List.append_nil]
      exact untold events event _ _ _ hother (ih rfl w (hworker ▸ hw))

end Engine

end Replicast
