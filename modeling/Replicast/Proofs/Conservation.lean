import Replicast.Proofs.Counters
import Replicast.Proofs.Delivery
/-!
# Conservation of targets

Every target that was dispatched is in one place: its request could not be built, or its worker
waits for its first turn, is at work, has recorded its outcome, or was torn down by a panic.  The
counters of a client say how many targets are in which place.

## Overview

* `Worker.standing` is the place of a worker, and `Worker.Census` what a move counts for a change of
  place.
* `Tracks` says that a weight of effects follows a value of standings, and `Engine.run_tracks` that
  the two agree in every run.
* `Batch.Marked` says that what a batch has posted was counted before.
* `Engine.run_conserves` is the result.
-/

namespace Replicast

/-! ## §1 Standings -/

/-- Where a worker stands, as far as the counters can tell. -/
inductive Standing where
  | unbuilt
  | queued
  | running
  | finished
  | aborted
deriving DecidableEq, Repr

/-- Whether an effect counts for the standing of a worker. -/
def Effect.isCensus : Effect → Bool
  | .dispatched _ | .buildFailed _ | .entered | .left | .recorded _ => true
  | _ => false

theorem Effect.isCensus_of_isConcluding {x : Effect} (h : x.isConcluding = true) :
    x.isCensus = false := by
  cases x <;> first | rfl | cases h

/-- Marks are counted with the census. -/
theorem Effect.mark?_of_not_isCensus {x : Effect} (h : x.isCensus = false) : x.mark? = none := by
  cases x <;> first | rfl | cases h

namespace Worker

variable {p : Plan} {stop : Option Error} {openings : Nat} {w v : Worker} {s : Signal} {m : Move}
  {o : Outcome}

def standing (w : Worker) : Standing :=
  match w.phase with
  | .unbuilt => .unbuilt
  | .queued => .queued
  | .ready | .sending | .pausing | .reading _ _ => .running
  | .finished => .finished
  | .aborted => .aborted

theorem standing_of_isBeforeResponse (h : w.isBeforeResponse = true) : w.standing = .running := by
  simp only [isBeforeResponse, Bool.or_eq_true, beq_iff_eq] at h
  unfold standing
  rcases h with (h | h) | h <;> simp [h]

theorem standing_of_isWaiting (h : w.isWaiting = true) : w.standing = .running := by
  unfold isWaiting at h
  unfold standing
  split at h <;> simp_all

/-- What a move counts for the change of its worker's standing, and the outcome it leaves behind. -/
inductive Census (w : Worker) (m : Move) : List Effect → Prop where
  | same : m.worker.standing = w.standing → m.outcome = none → Census w m []
  | enter :
      w.standing = .queued → m.worker.standing = .running → m.outcome = none →
      Census w m [.entered]
  | finish {o : Outcome} :
      w.standing = .running → m.worker.standing = .finished → m.outcome = some o →
      o.isAborted = false → o.isTold = true → Census w m [.recorded o, .left]
  | abort {o : Outcome} :
      w.standing = .running → m.worker.standing = .aborted → m.outcome = some o →
      o.isAborted = true → Census w m [.left]

/-- What a regular end counts. -/
theorem finish_census (v : Worker) (events : List Log.Event) (o : Outcome) :
    (v.finish events o).effects.filter Effect.isCensus = [.recorded o, .left] := by
  simp [finish, List.filter_map, Function.comp_def, Effect.isCensus]

/-- A regular end, after whatever else the worker did, counts an outcome. -/
theorem census_of_finish {events : List Log.Event} (first : List Effect)
    (hrunning : w.standing = .running) (hfirst : ∀ x ∈ first, x.isCensus = false)
    (heffects : m.effects = first ++ (v.finish events o).effects)
    (hworker : m.worker = (v.finish events o).worker) (hout : m.outcome = some o)
    (haborted : o.isAborted = false) (htold : o.isTold = true) :
    Census w m (m.effects.filter Effect.isCensus) := by
  have hnothing : first.filter Effect.isCensus = [] :=
    List.filter_eq_nil_iff.mpr fun x hx => by simp [hfirst x hx]
  rw [heffects, List.filter_append, hnothing, finish_census]
  exact .finish hrunning (by rw [hworker]; rfl) hout haborted htold

/-- A move without an outcome and without a count leaves its worker where it stands. -/
theorem census_of_same (hstanding : m.worker.standing = w.standing) (hout : m.outcome = none)
    (heffects : ∀ x ∈ m.effects, x.isCensus = false) :
    Census w m (m.effects.filter Effect.isCensus) := by
  have hnothing : m.effects.filter Effect.isCensus = [] :=
    List.filter_eq_nil_iff.mpr fun x hx => by simp [heffects x hx]
  rw [hnothing]
  exact .same hstanding hout

theorem Attempt.census (h : Attempt p openings w m) (hrunning : w.standing = .running)
    (haborted : ∀ o, m.outcome = some o → o.isAborted = false) :
    Census w m (m.effects.filter Effect.isCensus) := by
  cases h with
  | initial _ | fresh _ _ _ | empty _ _ =>
    exact census_of_same (by rw [hrunning]; rfl) rfl (by simp [send, Effect.isCensus])
  | @unopened _ failed _ _ _ hm =>
    -- The copy was asked for before the worker ended.
    subst hm
    exact census_of_finish [.opened] hrunning (by simp [Effect.isCensus]) rfl rfl rfl
      (haborted _ rfl) rfl

theorem Reception.census {a : Answer} (h : Reception p w a m) (hrunning : w.standing = .running)
    (haborted : ∀ o, m.outcome = some o → o.isAborted = false) :
    Census w m (m.effects.filter Effect.isCensus) := by
  cases h with
  | final _ =>
    exact census_of_same (by rw [hrunning]; rfl) rfl (by simp [readFrom, Effect.isCensus])
  | @again head _ _ =>
    unfold retryAfter
    cases p.retryPolicy.backoffAfter head.status with
    | none => exact census_of_same (by rw [hrunning]; rfl) rfl (by simp [Effect.isCensus])
    | some d => exact census_of_same (by rw [hrunning]; rfl) rfl (by simp [Effect.isCensus])
  | @failed f _ =>
    exact census_of_finish [.answered (.failure f), .counted .transportError] hrunning
      (by simp [Effect.isCensus]) rfl rfl rfl (haborted _ rfl) rfl
  | failedAgain _ =>
    exact census_of_same (by rw [hrunning]; rfl) rfl (by simp [Effect.isCensus])

/-- **Every transition counts what it changes.** -/
theorem Transition.census (h : Transition p stop openings w s m)
    (hstop : ∀ e, stop = some e → e.code ≠ .workerAborted) :
    Census w m (m.effects.filter Effect.isCensus) := by
  -- An outcome says that the worker was torn down exactly when it was.
  have hiff : ∀ o, m.outcome = some o → (o.isAborted = true ↔ m.worker.phase = .aborted) :=
    fun o ho => h.isAborted_iff hstop ho
  have hregular (hphase : m.worker.phase ≠ .aborted) :
      ∀ o, m.outcome = some o → o.isAborted = false := by
    intro o ho
    by_contra haborted
    exact hphase ((hiff o ho).mp (by simpa using haborted))
  cases h with
  | stay _ => exact .same rfl rfl
  | enter hp => exact .enter (by simp [standing, hp]) rfl rfl
  | stop _ hp =>
    exact census_of_finish [] (standing_of_isBeforeResponse hp) (by simp) rfl rfl rfl
      (hregular (by simp [fail, finish]) _ rfl) rfl
  | stopReading _ hp =>
    exact census_of_finish [] (by simp [standing, hp]) (by simp) rfl rfl rfl
      (hregular (by simp [failReading, finish]) _ rfl) rfl
  | attempt _ hp =>
    exact (attempt_attempt p openings w).census (by simp [standing, hp])
      (hregular (attempt_phase p openings w))
  | receive a _ hp =>
    exact (receive_reception p w a).census (by simp [standing, hp])
      (hregular (receive_phase p w a))
  | resume _ hp => exact census_of_same (by simp [standing, hp]) rfl (by simp)
  | @frame head reader f _ hp =>
    have hrunning : w.standing = .running := by simp [standing, hp]
    unfold readFrame at hregular ⊢
    cases hread : reader.step p.maxResponseBodyBytes f with
    | ok next => exact census_of_same (by simp [standing, hp]) rfl (by simp)
    | error fault =>
      simp only [hread] at hregular
      exact census_of_finish [] hrunning (by simp) rfl rfl rfl
        (hregular (by simp [failReading, finish]) _ rfl) rfl
  | bodyEnd _ hp =>
    exact census_of_finish [] (by simp [standing, hp]) (by simp) rfl rfl rfl
      (hregular (by simp [succeed, finish]) _ rfl) rfl
  | panic _ hp => exact .abort (standing_of_isWaiting hp) rfl rfl ((hiff _ rfl).mpr rfl)

end Worker

/-! ## §2 Weights that follow standings -/

/-- A weight of effects that follows a value of standings: what a move counts for a change of
    standing weighs as much as the value changes. -/
structure Tracks (weight : Effect → Int) (value : Standing → Int) : Prop where
  quiet : ∀ x, x.isCensus = false → weight x = 0
  dispatched : ∀ targets, weight (.dispatched targets) = targets * value .queued
  buildFailed : ∀ e, weight (.buildFailed e) = value .unbuilt - value .queued
  entered : weight .entered = value .running - value .queued
  recorded : ∀ o, weight (.recorded o) = value .finished - value .aborted
  left : weight .left = value .aborted - value .running

section Tracking

variable {weight : Effect → Int} {value : Standing → Int}

/-- Only the census has weight. -/
theorem Tracks.sum_filter (h : Tracks weight value) (effects : List Effect) :
    (effects.map weight).sum = ((effects.filter Effect.isCensus).map weight).sum := by
  induction effects with
  | nil => rfl
  | cons x rest ih =>
    by_cases hx : x.isCensus = true
    · simp [hx, ih]
    · simp [hx, ih, h.quiet x (by simpa using hx)]

/-- What a move does weighs as much as the value of its worker changes. -/
theorem Tracks.move (h : Tracks weight value) {w : Worker} {m : Worker.Move}
    (hcensus : Worker.Census w m (m.effects.filter Effect.isCensus)) :
    (m.effects.map weight).sum = value m.worker.standing - value w.standing := by
  rw [h.sum_filter]
  generalize m.effects.filter Effect.isCensus = effects at hcensus
  cases hcensus with
  | same hsame _ => simp [hsame]
  | enter hbefore hafter _ => simp [hbefore, hafter, h.entered]
  | finish hbefore hafter _ _ _ =>
    simp only [List.map_cons, List.map_nil, List.sum_cons, List.sum_nil, hbefore, hafter,
      h.recorded, h.left]
    omega
  | abort hbefore hafter _ _ => simp [hbefore, hafter, h.left]

namespace Batch

/-- What is concluding has no weight. -/
theorem sum_concluding (h : Tracks weight value) {d : Doings}
    (hconcluding : ∀ x ∈ d, x.2.isConcluding = true) : d.sum weight = 0 :=
  Doings.sum_eq_zero weight fun x hx =>
    h.quiet _ (Effect.isCensus_of_isConcluding (hconcluding x hx))

/-- What the values of the workers of a batch add up to. -/
def valueOf (b : Batch) (value : Standing → Int) : Int :=
  (b.workers.map fun w => value w.standing).sum

/-- A signal weighs as much as it changes the value of a batch. -/
theorem sum_signal (h : Tracks weight value) (b : Batch) (e : Engine) (position : Nat)
    (s : Signal) :
    (b.signal e.toClock e.tokens e.openings position s).1.valueOf value =
      b.valueOf value +
        Doings.sum (Doings.here position (b.signal e.toClock e.tokens e.openings position s).2)
          weight := by
  cases hw : b.workers[position]? with
  | none => simp [signal_of_none e hw s]
  | some w =>
    have hmove := h.move
      ((Worker.step_transition b.plan (b.stopFor e w) e.openings w s).census fun _ =>
        Engine.stopFor_code)
    rw [signal_eq e hw s]
    generalize w.step b.plan (b.stopFor e w) e.openings s = m at hmove ⊢
    obtain ⟨hlt, rfl⟩ := List.getElem?_eq_some_iff.mp hw
    -- The post itself has no weight.
    have hpost : ((m.outcome.elim [] fun o => [Effect.posted o b.channel.posting]).map weight).sum
        = 0 := by
      cases m.outcome with
      | none => rfl
      | some o => simp [h.quiet (.posted o b.channel.posting) rfl]
    simp only [valueOf, Doings.sum_here, List.map_append, List.sum_append, hmove, hpost,
      List.map_set, List.sum_set', List.length_map, hlt, dite_true, List.getElem_map]
    omega

/-- Every move weighs as much as it changes the value of a batch. -/
theorem sum_move (h : Tracks weight value) {e : Engine} {b after : Batch} {k : Doings}
    (hmove : b.Move e after k) : after.valueOf value = b.valueOf value + k.sum weight := by
  -- Apart from signals, no move touches the workers or counts for them.
  have hconclude (hkeeps : Keeps b after) (hconcluding : ∀ x ∈ k, x.2.isConcluding = true) :
      after.valueOf value = b.valueOf value + k.sum weight := by
    rw [sum_concluding h hconcluding, valueOf, valueOf, hkeeps.workers, add_zero]
  cases hmove with
  | rest => simp
  | signal position s => exact sum_signal h b e position s
  | cancel => exact hconclude (release_keeps b) (by simp [Effect.isConcluding])
  | begin goal => exact hconclude (begin_keeps b goal) (by simp)
  | drop => exact hconclude (drop_keeps b) (Doings.unplaced_concluding (drop_concluding b))
  | poll hturn =>
    rcases hturn.effects_cases with hconcluding | ⟨o, rest, rfl, hconcluding⟩
    · exact hconclude hturn.keeps (Doings.unplaced_concluding hconcluding)
    · -- Taking an outcome counts nothing either.
      have hrest := sum_concluding h (Doings.unplaced_concluding hconcluding)
      rw [Engine.unplaced_cons, Doings.sum_cons, hrest, h.quiet _ rfl, valueOf, valueOf,
        hturn.keeps.workers, add_zero, add_zero]

end Batch

namespace Engine

open Operation

/-- Placing a target weighs as much as its worker differs from one that waits for its first turn. -/
theorem sum_place (h : Tracks weight value) (client : Client) (policy : RetryPolicy)
    (position : Nat) (b : Batch) (p : Preparation) :
    Doings.sum (place client policy position b p).2 weight =
      value (workerOf p).standing - value .queued := by
  have hconsulted : ((p.intercepted.map Effect.consulted).toList.map weight).sum = 0 := by
    cases p.intercepted with
    | none => rfl
    | some head => simp [h.quiet (.consulted head) rfl]
  have hopened : ((if p.opened then [Effect.opened] else []).map weight).sum = 0 := by
    split
    · simp [h.quiet .opened rfl]
    · rfl
  unfold place workerOf
  cases p.copy with
  | ok copy =>
    have hspawned := h.quiet (.spawned (spanFields client policy p)) rfl
    simp [Doings.sum, Function.comp_def, hconsulted, hopened, hspawned, Worker.standing]
  | error e =>
    have hlogged := h.quiet (.logged (buildEvent client p.target e)) rfl
    have hposted := h.quiet (.posted (Outcome.failed p.target p.head e) b.channel.posting) rfl
    simp [Doings.sum, Function.comp_def, hconsulted, hopened, hlogged, hposted, h.buildFailed,
      Batch.post, Worker.standing]

theorem sum_placeAll (h : Tracks weight value) (client : Client) (policy : RetryPolicy)
    (preparations : List Preparation) (position : Nat) (b : Batch) :
    Doings.sum (placeAll client policy position b preparations).2 weight +
        preparations.length * value .queued =
      (preparations.map fun p => value (workerOf p).standing).sum := by
  induction preparations generalizing position b with
  | nil => simp [placeAll]
  | cons p rest ih =>
    have hfirst := sum_place h client policy position b p
    have hrest := ih (position + 1) (place client policy position b p).1
    simp only [placeAll, Doings.sum_append, List.length_cons, List.map_cons, List.sum_cons]
    push_cast
    rw [Int.add_mul]
    omega

/-- Beginning a batch weighs as much as its workers are worth. -/
theorem sum_birth (h : Tracks weight value) {e : Engine} {event : Event} {targets : List Target}
    {b : Batch} {d : Doings} (hbirth : Birth e event targets b d) :
    d.sum weight = b.valueOf value := by
  have hbegun (op : Operation) :
      Doings.sum ((none, .dispatched targets.length) :: (e.begun op targets).2) weight =
        (e.begun op targets).1.valueOf value := by
    have hplaced := sum_placeAll h e.client (op.retryPolicyFor e.client)
      (op.prepareAll e.client e.openings targets) 0
      (e.fresh op (op.prepareAll e.client e.openings targets))
    have hnothing : ∀ x ∈ ([] : Doings), ∃ event, x = (none, .logged event) := by simp
    have hnew := begun_newborn e op targets hnothing
    rw [prepareAll_length] at hplaced
    rw [Doings.sum_cons, h.dispatched, Batch.valueOf, hnew.workers, List.map_map]
    show _ + Doings.sum (placeAll _ _ _ _ _).2 weight = _
    rw [add_comm]
    exact hplaced
  cases hbirth with
  | dispatch op targets => exact hbegun op
  | replicate op targets threshold acceptance =>
    have hignored : (ignored op).sum weight = 0 := by
      unfold ignored
      split
      · simp [h.quiet (.logged (Log.debug "response handler dropped for replicated write" [])) rfl]
      · rfl
    rw [Doings.sum_append, hignored, zero_add, hbegun, Batch.valueOf, Batch.valueOf,
      (Batch.begin_keeps _ _).workers]

/-- What a batch has done weighs as much as its workers are worth. -/
theorem run_tracks_batch (h : Tracks weight value) {client : Client} {now : Instant}
    (events : List Event) {number : Nat} {b : Batch}
    (hb : ((start client now).run events).1.batches[number]? = some b) :
    (((start client now).run events).2.of number).sum weight = b.valueOf value := by
  refine run_invariant (P := fun b d => d.sum weight = b.valueOf value)
    (fun _ _ _ _ _ hbirth => sum_birth h hbirth) (fun _ _ _ _ _ hinv hmove => ?_) events hb
  rw [Doings.sum_append, hinv, Batch.sum_move h hmove]

/-- **A weight that follows a value agrees with it in every run**: what was done weighs as much as
    the workers of all batches are worth. -/
theorem run_tracks (client : Client) (now : Instant) (h : Tracks weight value)
    (events : List Event) :
    ((start client now).run events).2.sum weight =
      (((start client now).run events).1.workers.map fun w => value w.standing).sum :=
  run_sum events fun _ _ hb => run_tracks_batch h events hb

end Engine

end Tracking

/-! ## §3 What was posted was counted -/

namespace Batch

/-- What a batch has posted was counted: the marks of the outcomes that were posted, except those
    that only say that a worker was torn down, are the marks that were counted, in the same order;
    and whatever was recorded has something to be counted under. -/
structure Marked (d : Doings) : Prop where
  marks : (d.posted.filter fun o => !o.isAborted).map Outcome.mark = d.marks
  told : ∀ x ∈ d, ∀ o, x.2 = .recorded o → o.isTold = true

theorem Marked.append {d k : Doings} (h : Marked d) (hk : Marked k) : Marked (d ++ k) := by
  refine ⟨?_, fun x hx => ?_⟩
  · rw [Doings.posted_append, List.filter_append, List.map_append, h.marks, hk.marks,
      Doings.marks_append]
  · rcases List.mem_append.mp hx with hx | hx
    · exact h.told x hx
    · exact hk.told x hx

/-- What is concluding posts and counts nothing. -/
theorem marked_of_concluding {d : Doings} (h : ∀ x ∈ d, x.2.isConcluding = true) : Marked d := by
  refine ⟨?_, fun x hx o ho => ?_⟩
  · have hmarks : d.marks = [] := List.filterMap_eq_nil_iff.mpr fun x hx =>
      Effect.mark?_of_not_isCensus (Effect.isCensus_of_isConcluding (h x hx))
    rw [Doings.posted_of_concluding h, hmarks]
    rfl
  · have hconcluding := h x hx
    rw [ho] at hconcluding
    cases hconcluding

/-- A worker records its outcome before it posts it, unless it was torn down. -/
theorem marked_signal (b : Batch) (e : Engine) (position : Nat) (s : Signal) :
    Marked (Doings.here position (b.signal e.toClock e.tokens e.openings position s).2) := by
  cases hw : b.workers[position]? with
  | none =>
    rw [signal_of_none e hw s]
    exact marked_of_concluding (by simp [Doings.here])
  | some w =>
    have hmove := Worker.step_transition b.plan (b.stopFor e w) e.openings w s
    have hposted := hmove.lawful.posted b.channel.posting
    have hcensus := hmove.census fun _ => Engine.stopFor_code
    rw [signal_eq e hw s]
    generalize w.step b.plan (b.stopFor e w) e.openings s = m at hposted hcensus ⊢
    -- The post itself is not counted, and of the worker's own effects only the census is.
    have hmarks : (m.doings b.channel.posting).filterMap Effect.mark? =
        (m.effects.filter Effect.isCensus).filterMap Effect.mark? := by
      have hpost : (m.outcome.elim [] fun o => [Effect.posted o b.channel.posting]).filterMap
          Effect.mark? = [] := by
        cases m.outcome <;> rfl
      rw [Worker.Move.doings, List.filterMap_append, hpost, List.append_nil, List.filterMap_filter]
      refine List.filterMap_congr fun x _ => ?_
      by_cases hx : x.isCensus = true
      · simp [hx]
      · simp [hx, Effect.mark?_of_not_isCensus (by simpa using hx)]
    have hrecorded (o : Outcome) (ho : .recorded o ∈ m.doings b.channel.posting) :
        .recorded o ∈ m.effects.filter Effect.isCensus := by
      rcases List.mem_append.mp ho with ho | ho
      · exact List.mem_filter.mpr ⟨ho, rfl⟩
      · cases hout : m.outcome <;> simp [hout] at ho
    refine ⟨?_, fun x hx o ho => ?_⟩
    · rw [Doings.posted_here, Doings.marks_here]
      change (((m.doings b.channel.posting).filterMap Effect.posted?).filter _).map _ =
        (m.doings b.channel.posting).filterMap Effect.mark?
      rw [hposted, hmarks]
      generalize m.effects.filter Effect.isCensus = effects at hcensus
      cases hcensus with
      | same _ hout | enter _ _ hout => simp [hout, Effect.mark?]
      | finish _ _ hout haborted _ => simp [hout, haborted, Effect.mark?]
      | abort _ _ hout haborted => simp [hout, haborted, Effect.mark?]
    · obtain ⟨effect, heffect, rfl⟩ := List.mem_map.mp hx
      have hmem := hrecorded o (ho ▸ heffect)
      generalize m.effects.filter Effect.isCensus = effects at hcensus hmem
      cases hcensus with
      | same _ _ | enter _ _ _ | abort _ _ _ _ => simp at hmem
      | finish _ _ _ _ htold =>
        obtain rfl : o = _ := by simpa using hmem
        exact htold

/-- Whatever a move posts, it counts first. -/
theorem Move.marked {e : Engine} {b after : Batch} {k : Doings} (h : b.Move e after k) :
    Marked k := by
  cases h with
  | rest | begin _ => exact marked_of_concluding (by simp)
  | signal position s => exact marked_signal b e position s
  | cancel => exact marked_of_concluding (by simp [Effect.isConcluding])
  | drop => exact marked_of_concluding (Doings.unplaced_concluding (drop_concluding b))
  | poll hturn =>
    rcases hturn.effects_cases with hconcluding | ⟨o, rest, rfl, hconcluding⟩
    · exact marked_of_concluding (Doings.unplaced_concluding hconcluding)
    · -- The outcome that was taken was posted and counted earlier.
      have htaken : Marked [(none, .consumed o)] := ⟨rfl, by simp⟩
      exact htaken.append (marked_of_concluding (Doings.unplaced_concluding hconcluding))

end Batch

namespace Engine

open Operation Batch

/-- The failure of a target whose request could not be built is counted and posted. -/
theorem marked_place (client : Client) (policy : RetryPolicy) (position : Nat) (b : Batch)
    (p : Preparation) (hcode : ∀ e, p.copy = .error e → e.code ≠ .workerAborted) :
    Marked (place client policy position b p).2 := by
  unfold place
  cases hcopy : p.copy with
  | ok copy =>
    refine ⟨?_, ?_⟩
    all_goals
      cases p.intercepted <;> cases p.opened <;>
        simp [Doings.posted, Doings.marks, Effect.posted?, Effect.mark?]
  | error e =>
    have hregular : (Outcome.failed p.target p.head e).isAborted = false := by
      simp [Outcome.isAborted, Outcome.failed, hcode e hcopy]
    have hmark : (Outcome.failed p.target p.head e).mark = ⟨none, some e.code.word⟩ := rfl
    refine ⟨?_, ?_⟩
    all_goals
      cases p.intercepted <;> cases p.opened <;>
        simp [Doings.posted, Doings.marks, Effect.posted?, Effect.mark?, Batch.post, hregular,
          hmark]

theorem marked_placeAll (client : Client) (policy : RetryPolicy) (preparations : List Preparation)
    (hcode : ∀ p ∈ preparations, ∀ e, p.copy = .error e → e.code ≠ .workerAborted)
    (position : Nat) (b : Batch) :
    Marked (placeAll client policy position b preparations).2 := by
  induction preparations generalizing position b with
  | nil => exact ⟨rfl, by simp [placeAll]⟩
  | cons p rest ih =>
    have hfirst := marked_place client policy position b p (hcode p (by simp))
    exact hfirst.append (ih (fun q hq => hcode q (by simp [hq])) (position + 1) _)

/-- What a new batch has posted was counted. -/
theorem marked_birth {e : Engine} {event : Event} {targets : List Target} {b : Batch} {d : Doings}
    (hbirth : Birth e event targets b d) : Marked d := by
  have hbegun (op : Operation) :
      Marked ((none, .dispatched targets.length) :: (e.begun op targets).2) := by
    have hhead : Marked [(none, .dispatched targets.length)] := ⟨rfl, by simp⟩
    refine hhead.append (marked_placeAll e.client (op.retryPolicyFor e.client) _ ?_ 0 _)
    intro p hp error herror
    -- Building a request fails for reasons of its own.
    have hbuild := prepareAll_failure op e.client targets e.openings p hp error herror
    intro hcode
    simp [Error.isBuildError, hcode, ErrorCode.isBuildError] at hbuild
  cases hbirth with
  | dispatch op targets => exact hbegun op
  | replicate op targets threshold acceptance =>
    have hignored : Marked (ignored op) := by
      refine marked_of_concluding fun x hx => ?_
      unfold ignored at hx
      split at hx
      · obtain rfl := List.mem_singleton.mp hx
        rfl
      · cases hx
    exact hignored.append (hbegun _)

variable {client : Client} {now : Instant}

/-- In every run, whatever was posted was counted. -/
theorem run_marked (events : List Event) {number : Nat} {b : Batch}
    (hb : ((start client now).run events).1.batches[number]? = some b) :
    Marked (((start client now).run events).2.of number) :=
  run_invariant (P := fun _ d => Marked d) (fun _ _ _ _ _ hbirth => marked_birth hbirth)
    (fun _ _ _ _ _ h hmove => h.append hmove.marked) events hb

/-- Whatever was recorded in a run has something to be counted under. -/
theorem run_told (client : Client) (now : Instant) (events : List Event) :
    ∀ r ∈ ((start client now).run events).2, ∀ o, r.effect = .recorded o → o.isTold = true := by
  intro r hr o ho
  have hlt := run_batch_lt events r hr
  have hmarked := run_marked events (List.getElem?_eq_getElem hlt)
  exact hmarked.told _ (History.mem_of hr rfl) o ho

/-! ## §4 The counters -/

/-- How many workers of all batches stand somewhere. -/
def standing (e : Engine) (place : Standing) : Nat :=
  e.workers.countP fun w => w.standing == place

/-- A value that is one for a single standing counts the workers that have it. -/
theorem sum_standing (e : Engine) (place : Standing) :
    (e.workers.map fun w => if w.standing = place then (1 : Int) else 0).sum =
      e.standing place := by
  unfold standing
  induction e.workers with
  | nil => rfl
  | cons w rest ih =>
    by_cases hw : w.standing = place
    · simp [hw, ih, Int.add_comm]
    · simp [hw, ih]

/-- Every worker stands somewhere. -/
theorem standing_partition (e : Engine) :
    e.workers.length = e.standing .unbuilt + e.standing .queued + e.standing .running +
      e.standing .finished + e.standing .aborted := by
  unfold standing
  induction e.workers with
  | nil => rfl
  | cons w rest ih =>
    cases hw : w.standing <;> simp [hw] <;> omega

theorem tracks_targets : Tracks Effect.ofBatch fun _ => 1 := by
  refine ⟨fun x hx => ?_, fun _ => (Int.mul_one _).symm, fun _ => rfl, rfl, fun _ => rfl, rfl⟩
  cases x <;> first | rfl | cases hx

theorem tracks_failures :
    Tracks Effect.ofFailure fun place => if place = .unbuilt then 1 else 0 := by
  refine ⟨fun x hx => ?_, fun _ => (Int.mul_zero _).symm, fun _ => rfl, rfl, fun _ => rfl, rfl⟩
  cases x <;> first | rfl | cases hx

theorem tracks_presence :
    Tracks Effect.ofPresence fun place => if place = .running then 1 else 0 := by
  refine ⟨fun x hx => ?_, fun _ => (Int.mul_zero _).symm, fun _ => rfl, rfl, fun _ => rfl, rfl⟩
  cases x <;> first | rfl | cases hx

theorem tracks_outcomes :
    Tracks (Effect.ofOutcome fun _ => 1) fun place => if place = .finished then 1 else 0 := by
  refine ⟨fun x hx => ?_, fun _ => (Int.mul_zero _).symm, fun _ => rfl, rfl, fun _ => rfl, rfl⟩
  cases x <;> first | rfl | cases hx

/-- The counters count the workers by their standing. -/
structure Census (e : Engine) (m : Metrics) : Prop where
  dispatched : m.targetsDispatched = e.workers.length
  unbuilt : m.buildFailures = e.standing .unbuilt
  running : m.inFlight = e.standing .running
  finished : m.outcomesDelivered = e.standing .finished

theorem run_census (events : List Event) :
    Census ((start client now).run events).1
      (Metrics.ofHistory ((start client now).run events).2) := by
  refine ⟨?_, ?_, ?_, ?_⟩
  · have htracks := run_tracks client now tracks_targets events
    rw [← Metrics.reads_targetsDispatched.ofHistory] at htracks
    have hlength : ((Metrics.ofHistory ((start client now).run events).2).targetsDispatched : Int) =
        ((start client now).run events).1.workers.length := by simpa using htracks
    exact_mod_cast hlength
  · have htracks := run_tracks client now tracks_failures events
    rw [← Metrics.reads_buildFailures.ofHistory, sum_standing] at htracks
    exact_mod_cast htracks
  · have htracks := run_tracks client now tracks_presence events
    rw [← Metrics.reads_inFlight.ofHistory, sum_standing] at htracks
    exact htracks
  · have htracks := run_tracks client now tracks_outcomes events
    rw [← Metrics.reads_outcomesDelivered.ofHistory, sum_standing] at htracks
    exact_mod_cast htracks

end Engine

/-! ## §5 The outcomes that reducers received -/

/-- The outcomes that the reducers of a client have received, in order. -/
def History.received (h : History) : List Outcome := h.filterMap fun r => r.effect.consumed?

/-- The mark of an outcome that a reducer received, unless the outcome only says that its worker
    was torn down. -/
def Effect.receivedMark? (x : Effect) : Option Mark :=
  x.consumed?.bind fun o => if o.isAborted then none else some o.mark

theorem History.map_mark_received (h : History) :
    (h.received.filter fun o => !o.isAborted).map Outcome.mark =
      h.filterMap fun r => r.effect.receivedMark? := by
  induction h with
  | nil => rfl
  | cons r rest ih =>
    unfold received Effect.receivedMark? at *
    cases hr : r.effect.consumed? with
    | none => simpa [hr] using ih
    | some o => by_cases ho : o.isAborted = true <;> simpa [hr, ho] using ih

theorem Doings.map_mark_consumed (d : Doings) :
    (d.consumed.filter fun o => !o.isAborted).map Outcome.mark =
      d.filterMap fun x => x.2.receivedMark? := by
  induction d with
  | nil => rfl
  | cons x rest ih =>
    unfold consumed Effect.receivedMark? at *
    cases hx : x.2.consumed? with
    | none => simpa [hx] using ih
    | some o => by_cases ho : o.isAborted = true <;> simpa [hx, ho] using ih

namespace Engine

variable {client : Client} {now : Instant}

/-- Every outcome that a reducer has received is among those that were counted, unless it only says
    that its worker was torn down. -/
theorem run_received (events : List Event) :
    let history := ((start client now).run events).2
    ((history.received.filter fun o => !o.isAborted).map Outcome.mark).Subperm history.marks := by
  intro history
  rw [History.map_mark_received, List.subperm_ext_iff]
  intro mark _
  -- A mark is counted batch by batch: within one of them, what was received was posted before.
  have hreceived : ((history.filterMap fun r => r.effect.receivedMark?).countP (· == mark) : Int) =
      history.sum fun x => if x.receivedMark?.any (· == mark) then 1 else 0 :=
    countP_filterMap (fun r : Record => r.effect.receivedMark?) (· == mark) history
  have hcounted := history.countP_marks (· == mark)
  have hbatch : ∀ number ∈ List.range ((start client now).run events).1.batches.length,
      ((history.of number).sum fun x => if x.receivedMark?.any (· == mark) then (1 : Int) else 0) ≤
        (history.of number).sum fun x => if x.mark?.any (· == mark) then (1 : Int) else 0 := by
    intro number hnumber
    have hb := List.getElem?_eq_getElem (List.mem_range.mp hnumber)
    have hposted := (run_ledger events hb).taken
    have hmarks := (run_marked events hb).marks
    have hprefix : ((history.of number).filterMap fun x => x.2.receivedMark?) <+:
        (history.of number).marks := by
      rw [← Doings.map_mark_consumed, ← hmarks]
      exact (hposted.filter _).map _
    have hle := hprefix.sublist.countP_le (p := (· == mark))
    have htaken : (((history.of number).filterMap fun x => x.2.receivedMark?).countP (· == mark) :
        Int) = (history.of number).sum fun x => if x.receivedMark?.any (· == mark) then 1 else 0 :=
      countP_filterMap (fun x : Placed => x.2.receivedMark?) (· == mark) (history.of number)
    rw [← htaken, ← Doings.countP_marks]
    exact_mod_cast hle
  have hle := List.sum_le_sum hbatch
  rw [← History.sum_of_lt _ _ _ (run_batch_lt events), ← History.sum_of_lt _ _ _
    (run_batch_lt events), ← hreceived, ← hcounted] at hle
  exact_mod_cast hle

/-- **Targets are conserved in the counters.**  With counting enabled, in every state of every run
    over one client: every target that was dispatched failed to be built, has its outcome recorded,
    is at work, waits for its first turn or was torn down by a panic, and the counters say how many
    of them did each; the gauge is never negative; there is a latency for each outcome; successes
    are no more than statuses and these no more than outcomes; every outcome has a status or an
    error; and the marks of all outcomes that reducers received, except those of panics, are among
    the marks that the totals and the tables count. -/
theorem run_conserves (client : Client) (now : Instant)
    (hmetrics : client.metricsEnabled = true) (events : List Event) :
    let e := ((start client now).run events).1
    let history := ((start client now).run events).2
    let m := (Metrics.ofHistory history).shown client.metricsEnabled
    (m.targetsDispatched : Int) =
        m.buildFailures + m.outcomesDelivered + m.inFlight + e.standing .queued +
          e.standing .aborted ∧
      Census e m ∧
      0 ≤ m.inFlight ∧
      m.latencySamples = m.outcomesDelivered ∧
      m.outcomesSucceeded ≤ Metrics.total m.statusCounts ∧
      Metrics.total m.statusCounts ≤ m.outcomesDelivered ∧
      m.outcomesDelivered + m.buildFailures ≤
        Metrics.total m.statusCounts + Metrics.total m.errorCounts ∧
      m.Counted history.marks ∧
      ((history.received.filter fun o => !o.isAborted).map Outcome.mark).Subperm history.marks ∧
      ∀ number position b w, e.batches[number]? = some b → b.workers[position]? = some w →
        (w.standing = .aborted ↔ (start client now).Panicked events number position) := by
  intro e history m
  have hm : m = Metrics.ofHistory history := by
    simp only [m, hmetrics, Metrics.shown_enabled]
  have hcensus : Census e m := hm ▸ run_census events
  have hparts := e.standing_partition
  have htold := run_told client now events
  refine ⟨?_, hcensus, ?_, ?_, ?_, ?_, ?_, hm ▸ Metrics.ofHistory_counted history,
    run_received events, ?_⟩
  · have h := hcensus
    rw [h.dispatched, h.unbuilt, h.running, h.finished, hparts]
    push_cast
    omega
  · rw [hcensus.running]
    exact Int.natCast_nonneg _
  · have hsamples := Metrics.reads_latencySamples.ofHistory history
    rw [← Metrics.reads_outcomesDelivered.ofHistory] at hsamples
    rw [hm]
    exact_mod_cast hsamples
  · exact hm ▸ Metrics.succeeded_le_statuses history
  · exact hm ▸ Metrics.statuses_le_delivered history
  · exact hm ▸ Metrics.delivered_le_told htold
  · intro number position b w hb hw
    have hpanicked := (run_posts events hb hw).panicked
    rw [← hpanicked]
    unfold Worker.standing
    cases w.phase <;> simp

/-- Part of a batch for `mixedTargets`: one request cannot be built, one worker has ended, one was
    torn down, and the reducer has received two outcomes.  A second batch has just begun. -/
def countedEvents : List Event :=
  mixedEvents ++ [.reduce 0 .join, .poll 0, .poll 0, .dispatch (.new .get "y") mixedTargets,
    .signal 1 0 .turn]

/-- The counters of `countedEvents`. -/
theorem run_conserves_counted :
    countingClient.metricsEnabled = true ∧
      let e := ((start countingClient ⟨0⟩).run countedEvents).1
      let history := ((start countingClient ⟨0⟩).run countedEvents).2
      let m := (Metrics.ofHistory history).shown countingClient.metricsEnabled
      (m.targetsDispatched : Int) =
          m.buildFailures + m.outcomesDelivered + m.inFlight + e.standing .queued +
            e.standing .aborted ∧
        ((history.received.filter fun o => !o.isAborted).map Outcome.mark).Subperm history.marks ∧
        [m.targetsDispatched, m.buildFailures, m.outcomesDelivered, m.inFlight.toNat,
          e.standing .queued, e.standing .aborted] = [6, 2, 1, 1, 1, 1] ∧
        history.received.length = 2 := by
  have hmetrics : countingClient.metricsEnabled = true := rfl
  obtain ⟨hconserved, _, _, _, _, _, _, _, hreceived, _⟩ :=
    run_conserves countingClient ⟨0⟩ hmetrics countedEvents
  exact ⟨hmetrics, hconserved, hreceived, by decide +kernel, by decide +kernel⟩

end Engine

end Replicast
