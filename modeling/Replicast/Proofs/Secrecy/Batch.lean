import Replicast.Proofs.Secrecy.Face
import Replicast.Proofs.Worker.Transition
/-!
# Batches that look the same

Two batches look the same if their workers, their outcomes and whatever else they hold have the same
faces.  Whatever happens to both of them, they go on to look the same, and the same is shown of what
they do.

## Overview

* `Channel.Alike`, `Stage.Alike` and `Batch.Alike` relate the parts of such batches and the batches.
* `Batch.Agree` says of two moves that they lead to such batches and show the same.
* `Batch.Alike.signal` and `Batch.Alike.poll` are the moves of a worker and of a reducer.
-/

namespace Replicast

/-! ## §1 Workers and channels -/

/-- Workers with the same face stop for the same reason. -/
theorem Worker.interruption_eq_of_face {w w' : Worker} (h : w.face = w'.face) (p : Plan) (c : Clock)
    (cancelled : Bool) : w'.interruption p c cancelled = w.interruption p c cancelled := by
  have hphase : w.phase = w'.phase := congrArg Face.phase h
  have herror := p.interruptionError_eq_of_face (congrArg Face.request h) c.now
  unfold interruption isLate
  rw [hphase, herror]

/-- Workers with the same face make moves that show the same and lead to the same faces. -/
theorem Worker.step_face {w w' : Worker} (h : w.face = w'.face) (p : Plan) (stop : Option Error)
    (openings : Nat) (s : Signal) :
    let m := w.step p stop openings s
    let m' := w'.step p stop openings s
    m.worker.face = m'.worker.face ∧ m.outcome.map Outcome.face = m'.outcome.map Outcome.face ∧
      shown m.effects = shown m'.effects := by
  intro m m'
  have hindex : w.target.index = w'.target.index := congrArg Face.index h
  have hrequest : w.request.face = w'.request.face := congrArg Face.request h
  have hswap : m' = m.swap w'.target w'.request := by
    have hstep := step_swap (t := w'.target) hrequest.symm p stop openings s
    rwa [← eq_swap_of_face h] at hstep
  have hlawful := (step_transition p stop openings w s).lawful
  rw [hswap]
  refine ⟨?_, ?_, (shown_swap _ _ _).symm⟩
  · exact (face_swap (hlawful.target.symm ▸ hindex) (hlawful.request.symm ▸ hrequest)).symm
  · -- An outcome is left behind for the worker's own target.
    rcases hlawful.progress with ⟨hnone, -⟩ | ⟨o, hends⟩
    · simp [m, Move.swap, hnone]
    · simp only [m, Move.swap, hends.outcome, Option.map_some]
      rw [Outcome.face_swap (hends.target.symm ▸ hindex) (hends.request.symm ▸ hrequest)]

namespace Channel

/-- Channels that hold outcomes with the same faces. -/
structure Alike (c c' : Channel) : Prop where
  capacity : c.capacity = c'.capacity
  isOpen : c.isOpen = c'.isOpen
  queue : c.queue.map Outcome.face = c'.queue.map Outcome.face

section Alike

variable {c c' : Channel}

theorem Alike.posting (h : c.Alike c') : c.posting = c'.posting := by
  unfold Channel.posting
  rw [h.isOpen, h.capacity, length_eq_of_map_eq h.queue]

theorem Alike.post (h : c.Alike c') {o o' : Outcome} (ho : o.face = o'.face) :
    (c.post o).Alike (c'.post o') := by
  unfold Channel.post
  rw [h.posting]
  split
  · exact { h with queue := by simp [h.queue, ho] }
  · exact h

theorem Alike.close (h : c.Alike c') : c.close.Alike c'.close :=
  ⟨h.capacity, rfl, rfl⟩

/-- From neither of them or from both there is an outcome to be taken. -/
theorem Alike.receive? (h : c.Alike c') :
    (c.receive? = none ∧ c'.receive? = none) ∨
      ∃ o o' rest rest', c.receive? = some (o, rest) ∧ c'.receive? = some (o', rest') ∧
        o.face = o'.face ∧ rest.Alike rest' := by
  obtain ⟨capacity, queue, isOpen⟩ := c
  obtain ⟨capacity', queue', isOpen'⟩ := c'
  cases queue <;> cases queue'
  · exact .inl ⟨rfl, rfl⟩
  · cases h.queue
  · cases h.queue
  · obtain ⟨hface, hrest⟩ := List.cons.inj h.queue
    exact .inr ⟨_, _, _, _, rfl, rfl, hface, h.capacity, h.isOpen, hrest⟩

end Alike

end Channel

/-! ## §2 Batches -/

/-- Reducers that have come equally far. -/
structure Progress.Alike (p p' : Progress) : Prop where
  consumed : p.consumed.map Outcome.face = p'.consumed.map Outcome.face
  errors : p.errors.length = p'.errors.length

inductive Stage.Alike : Stage → Stage → Prop
  | kept : Alike .kept .kept
  | reducing {goal : Goal} {p p' : Progress} (hgoal : goal.Blind) (hp : p.Alike p') :
    Alike (.reducing goal p) (.reducing goal p')
  | reduced (r r' : Reduction) : Alike (.reduced r) (.reduced r')
  | dropped : Alike .dropped .dropped

/-- Finds of the same kind; what was found has the same face. -/
inductive Next.Alike : Next → Next → Prop
  | outcome {o o' : Outcome} {rest rest' : Channel} (ho : o.face = o'.face)
    (hrest : rest.Alike rest') : Alike (.outcome o rest) (.outcome o' rest')
  | cancelled : Alike .cancelled .cancelled
  | expired : Alike .expired .expired
  | disconnected : Alike .disconnected .disconnected
  | pending : Alike .pending .pending

namespace Batch

/-- Batches that look the same, under a handler that sees no more of them. -/
structure Alike (b b' : Batch) : Prop where
  plan : b.plan = b'.plan
  parent : b.parent = b'.parent
  handler : b.handler = b'.handler
  blind : ∀ handler ∈ b.handler, handler.Blind
  cancelled : b.cancelled = b'.cancelled
  released : b.released = b'.released
  workers : b.workers.map Worker.face = b'.workers.map Worker.face
  channel : b.channel.Alike b'.channel
  stage : b.stage.Alike b'.stage

/-- Moves that lead to batches that look the same, and show the same. -/
structure Agree (x x' : Batch × List Effect) : Prop where
  alike : x.1.Alike x'.1
  shown : shown x.2 = Replicast.shown x'.2

section Alike

variable {b b' : Batch}

theorem Alike.sizeField (h : b.Alike b') : b.sizeField = b'.sizeField := by
  unfold Batch.sizeField size
  rw [length_eq_of_map_eq h.workers]

theorem Alike.size (h : b.Alike b') : b.size = b'.size := length_eq_of_map_eq h.workers

theorem Alike.isCancelled (h : b.Alike b') (tokens : List String) :
    b.isCancelled tokens = b'.isCancelled tokens := by
  unfold Batch.isCancelled
  rw [h.cancelled, h.parent]

theorem Alike.hasLive (h : b.Alike b') : b.hasLive = b'.hasLive := by
  have hlive : b.workers.map Worker.isLive = b'.workers.map Worker.isLive := by
    refine map_eq_of_map_eq (fun w w' hface => ?_) h.workers
    have hphase : w.phase = w'.phase := congrArg Worker.Face.phase hface
    unfold Worker.isLive
    rw [hphase]
  have hany (workers : List Worker) : workers.any Worker.isLive =
      (workers.map Worker.isLive).any id := by simp
  rw [Batch.hasLive, Batch.hasLive, hany, hany, hlive]

theorem Alike.withChannel (h : b.Alike b') {c c' : Channel} (hc : c.Alike c') :
    Alike { b with channel := c } { b' with channel := c' } :=
  { h with channel := hc }

/-! ## §3 Release and workers -/

theorem Alike.release (h : b.Alike b') :
    b.release.1.Alike b'.release.1 ∧ b.release.2 = b'.release.2 := by
  unfold Batch.release
  rw [h.released]
  split
  · exact ⟨h, rfl⟩
  · exact ⟨{ h with cancelled := rfl, released := rfl }, rfl⟩

theorem Alike.post (h : b.Alike b') {o o' : Outcome} (ho : o.face = o'.face) :
    Agree (b.post o) (b'.post o') :=
  ⟨h.withChannel (h.channel.post ho), rfl⟩

theorem Alike.postAny (h : b.Alike b') {o o' : Option Outcome}
    (ho : o.map Outcome.face = o'.map Outcome.face) : Agree (b.postAny o) (b'.postAny o') := by
  cases o <;> cases o'
  · exact ⟨h, rfl⟩
  · cases ho
  · cases ho
  · exact h.post (Option.some.inj ho)

/-- The move of a worker. -/
theorem Alike.signal (h : b.Alike b') (c : Clock) (tokens : List String)
    (openings position : Nat) (s : Signal) :
    Agree (b.signal c tokens openings position s) (b'.signal c tokens openings position s) := by
  have hget : (b.workers[position]?).map Worker.face = (b'.workers[position]?).map Worker.face := by
    simpa using congrArg (·[position]?) h.workers
  unfold Batch.signal
  cases hw : b.workers[position]? <;> cases hw' : b'.workers[position]? <;> rw [hw, hw'] at hget
  · exact ⟨h, rfl⟩
  · cases hget
  · cases hget
  rename_i w w'
  have hface : w.face = w'.face := Option.some.inj hget
  have hstop : w'.step b'.plan (w'.interruption b'.plan c (b'.isCancelled tokens)) openings s =
      w'.step b.plan (w.interruption b.plan c (b.isCancelled tokens)) openings s := by
    rw [h.plan, h.isCancelled, Worker.interruption_eq_of_face hface]
  obtain ⟨hworker, houtcome, hshown⟩ := Worker.step_face hface b.plan
    (w.interruption b.plan c (b.isCancelled tokens)) openings s
  dsimp only
  rw [hstop]
  generalize w.step b.plan _ openings s = m at hworker houtcome hshown ⊢
  generalize w'.step b.plan _ openings s = m' at hworker houtcome hshown ⊢
  have hset : Alike { b with workers := b.workers.set position m.worker }
      { b' with workers := b'.workers.set position m'.worker } :=
    { h with workers := by simp [List.map_set, h.workers, hworker] }
  obtain ⟨halike, hposted⟩ := hset.postAny houtcome
  exact ⟨halike, by simp only [shown_append, hshown, hposted]⟩

/-! ## §4 Reducers -/

theorem Alike.judge (h : b.Alike b') {o o' : Outcome} (ho : o.face = o'.face) :
    (b.judge o).1.Alike (b'.judge o').1 ∧ (b.judge o).2.1 = (b'.judge o').2.1 ∧
      (b.judge o).2.2.isOk = (b'.judge o').2.2.isOk := by
  have hindex : o.target.index = o'.target.index := congrArg Outcome.Face.index ho
  have hisOk (error : Option Error) :
      (error.elim (.ok ()) .error : Except Error Unit).isOk = error.isNone := by
    cases error <;> rfl
  unfold Batch.judge
  rw [← h.handler]
  cases hhandler : b.handler with
  | none =>
    exact ⟨h, rfl, by simp only [hisOk, Outcome.isNone_error_of_face ho]⟩
  | some handler =>
    obtain ⟨hcancels, hverdict⟩ := h.blind handler (by simp [hhandler]) o o' ho
    obtain ⟨hreleased, heffective⟩ := h.release
    dsimp only
    rw [hcancels, hverdict, hindex]
    split
    · exact ⟨hreleased, by rw [heffective], rfl⟩
    · exact ⟨h, rfl, rfl⟩

theorem Alike.close (h : b.Alike b') {stage stage' : Stage} (hstage : stage.Alike stage') :
    Agree (b.close stage) (b'.close stage') := by
  obtain ⟨hreleased, heffective⟩ := h.release
  unfold Batch.close
  dsimp only
  rw [heffective, h.sizeField]
  exact ⟨{ hreleased with channel := h.channel.close, stage := hstage }, rfl⟩

theorem Alike.conclude (h : b.Alike b') (r r' : Reduction) :
    Agree (b.conclude r) (b'.conclude r') := by
  obtain ⟨halike, hshown⟩ := h.close (.reduced r r')
  exact ⟨halike, by simp only [Batch.conclude, shown_append, hshown]; rfl⟩

/-- What a reducer returns in the end may differ; what it tells does not. -/
theorem Alike.finish (h : b.Alike b') {goal : Goal} (hgoal : goal.Blind) {p p' : Progress}
    (hp : p.Alike p') (interrupted : Bool) :
    Agree (b.finish goal p interrupted) (b'.finish goal p' interrupted) := by
  cases goal with
  | drain =>
    obtain ⟨halike, hshown⟩ := h.conclude
      (if p.errors.isEmpty then .passed else b.concludeErrors p.errors interrupted)
      (if p'.errors.isEmpty then .passed else b'.concludeErrors p'.errors interrupted)
    refine ⟨halike, ?_⟩
    simp only [Batch.finish]
    rw [length_eq_of_map_eq hp.consumed, hp.errors, h.sizeField]
    exact congrArg (_ :: ·) hshown
  | first => exact h.conclude _ _
  | join => exact h.conclude _ _
  | decide threshold acceptance =>
    have hsize := h.size
    have htally := QuorumReport.ofOutcomes_tally hgoal threshold b.size hp.consumed
    have hevents := QuorumReport.ofOutcomes_events hgoal threshold b.size hp.consumed
    simp only [Batch.finish, ← hsize]
    generalize QuorumReport.ofOutcomes threshold acceptance b.size p.consumed = report
      at htally hevents ⊢
    generalize QuorumReport.ofOutcomes threshold acceptance b.size p'.consumed = report'
      at htally hevents ⊢
    obtain ⟨halike, hshown⟩ := h.close (.reduced (.reported report) (.reported report'))
    refine ⟨halike, ?_⟩
    have hmet : report.isMet = report'.isMet := congrArg Tally.isMet htally
    simp only [shown_append, shown_logged, hshown, hevents, hmet]
    rfl

/-- Take outcomes with the same face. -/
theorem Alike.consume (h : b.Alike b') {goal : Goal} (hgoal : goal.Blind) {p p' : Progress}
    (hp : p.Alike p') {o o' : Outcome} (ho : o.face = o'.face) :
    Agree (b.consume goal p o) (b'.consume goal p' o') := by
  have hconsumed :
      (p.consumed ++ [o]).map Outcome.face = (p'.consumed ++ [o']).map Outcome.face := by
    simp [hp.consumed, ho]
  obtain ⟨hjudged, heffects, hverdict⟩ := h.judge ho
  generalize hj : b.judge o = judged at hjudged heffects hverdict
  generalize hj' : b'.judge o' = judged' at hjudged heffects hverdict
  obtain ⟨c, effects, verdict⟩ := judged
  obtain ⟨c', effects', verdict'⟩ := judged'
  obtain rfl : effects = effects' := heffects
  cases goal with
  | join => exact ⟨{ h with stage := .reducing hgoal ⟨hconsumed, hp.errors⟩ }, rfl⟩
  | decide threshold acceptance =>
    exact ⟨{ h with stage := .reducing hgoal ⟨hconsumed, hp.errors⟩ }, rfl⟩
  | drain =>
    simp only [Batch.consume, hj, hj']
    refine ⟨{ hjudged with stage := .reducing hgoal ⟨hconsumed, ?_⟩ }, rfl⟩
    -- A failure for the one is a failure for the other.
    cases verdict <;> cases verdict'
    · simp [hp.errors]
    · cases hverdict
    · cases hverdict
    · exact hp.errors
  | first =>
    simp only [Batch.consume, hj, hj']
    cases verdict <;> cases verdict'
    · exact ⟨{ hjudged with stage := .reducing hgoal ⟨hconsumed, by simp [hp.errors]⟩ }, rfl⟩
    · cases hverdict
    · cases hverdict
    · obtain ⟨halike, hshown⟩ := hjudged.conclude (.first o) (.first o')
      refine ⟨halike, ?_⟩
      dsimp only
      rw [length_eq_of_map_eq hconsumed, hjudged.sizeField,
        show o.target.index = o'.target.index from congrArg Outcome.Face.index ho]
      simp only [shown_append]
      exact congrArg (shown effects ++ _ :: ·) hshown

/-! ## §5 Turns -/

theorem Alike.next (h : b.Alike b') (c : Clock) (tokens : List String) :
    (b.next c tokens).Alike (b'.next c tokens) := by
  unfold Batch.next
  rw [h.isCancelled, h.plan]
  split
  · exact .cancelled
  split
  · exact .expired
  obtain ⟨hnone, hnone'⟩ | ⟨o, o', rest, rest', hsome, hsome', ho, hrest⟩ := h.channel.receive?
  · rw [hnone, hnone', h.hasLive]
    dsimp only
    split
    · exact .pending
    · exact .disconnected
  · rw [hsome, hsome']
    exact .outcome ho hrest

theorem Alike.nextEvents (h : b.Alike b') {n n' : Next} (hn : n.Alike n') :
    b.nextEvents n = b'.nextEvents n' := by
  unfold Batch.nextEvents
  rw [h.sizeField]
  cases hn <;> rfl

/-- The turn of a reducer. -/
theorem Alike.poll (h : b.Alike b') (c : Clock) (tokens : List String) :
    Agree (b.poll c tokens) (b'.poll c tokens) := by
  have hnext := h.next c tokens
  have hevents := h.nextEvents hnext
  have hsize := h.size
  unfold Batch.poll
  generalize b.next c tokens = next at hnext hevents ⊢
  generalize b'.next c tokens = next' at hnext hevents ⊢
  obtain ⟨plan, parent, handler, cancelled, released, workers, channel, stage⟩ := b
  obtain ⟨plan', parent', handler', cancelled', released', workers', channel', stage'⟩ := b'
  cases h.stage with
  | kept => exact ⟨h, rfl⟩
  | reduced => exact ⟨h, rfl⟩
  | dropped => exact ⟨h, rfl⟩
  | reducing hgoal hp =>
    have hinterrupted := h.finish hgoal hp true
    dsimp only
    rw [hsize, length_eq_of_map_eq hp.consumed]
    split
    · exact h.finish hgoal hp false
    cases hnext with
    | outcome ho hrest =>
      have hconsumed := (h.withChannel hrest).consume hgoal hp ho
      exact ⟨hconsumed.alike, hconsumed.shown⟩
    | pending => exact ⟨h, rfl⟩
    | cancelled | expired | disconnected =>
      exact ⟨hinterrupted.alike, by simp only [shown_append, hinterrupted.shown, hevents]⟩

theorem Alike.begin (h : b.Alike b') {goal : Goal} (hgoal : goal.Blind) :
    (b.begin goal).Alike (b'.begin goal) := by
  obtain ⟨plan, parent, handler, cancelled, released, workers, channel, stage⟩ := b
  obtain ⟨plan', parent', handler', cancelled', released', workers', channel', stage'⟩ := b'
  cases h.stage with
  | kept => exact { h with stage := .reducing hgoal ⟨rfl, rfl⟩ }
  | reducing | reduced | dropped => exact h

theorem Alike.drop (h : b.Alike b') : Agree b.drop b'.drop := by
  obtain ⟨plan, parent, handler, cancelled, released, workers, channel, stage⟩ := b
  obtain ⟨plan', parent', handler', cancelled', released', workers', channel', stage'⟩ := b'
  cases h.stage with
  | kept | reducing => exact h.close .dropped
  | reduced | dropped => exact ⟨h, rfl⟩

end Alike

end Batch

end Replicast
