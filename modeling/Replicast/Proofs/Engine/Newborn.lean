import Replicast.Proofs.Engine.Share
/-!
# New batches

What a batch looks like when its dispatch is over.

## Overview

* `Preparation.failure?` is the outcome that is posted for a target whose request could not be
  built, and `Preparation.doings` is what the dispatch does for one target.
* `Engine.Newborn` describes a new batch, and `Engine.Birth.prepared` says that every batch begins
  so.
-/

namespace Replicast

namespace Operation

/-- The outcome of a target whose request could not be built. -/
def Preparation.failure? (p : Preparation) : Option Outcome :=
  match p.copy with
  | .ok _ => none
  | .error e => some (Outcome.failed p.target p.head e)

/-- What the dispatch does for one target. -/
def Preparation.doings (p : Preparation) (client : Client) (policy : RetryPolicy) : List Effect :=
  (p.intercepted.map Effect.consulted).toList ++ (if p.opened then [.opened] else []) ++
    match p.copy with
    | .ok _ => [.spawned (Engine.spanFields client policy p)]
    | .error e => [.buildFailed e, .posted (Outcome.failed p.target p.head e) .delivered]

theorem Preparation.doings_posted (p : Preparation) (client : Client) (policy : RetryPolicy) :
    (p.doings client policy).filterMap Effect.posted? = p.failure?.toList := by
  unfold doings failure?
  cases p.intercepted <;> cases p.opened <;> cases p.copy <;> rfl

theorem prepare_target (op : Operation) (client : Client) (t : Target) (openings : Nat) :
    (op.prepare client t openings).target = t := by
  unfold prepare
  split
  · rfl
  · dsimp only
    split
    · rfl
    · split <;> rfl

/-- What can go wrong when the request of a target is built. -/
theorem prepare_code (op : Operation) (client : Client) (t : Target) (openings : Nat) {e : Error}
    (h : (op.prepare client t openings).copy = .error e) :
    e.code = .invalidUri ∨ e.code = .intercepted ∨ e.code = .bodyReplay := by
  unfold prepare at h
  split at h
  · obtain rfl := Except.error.inj h
    exact .inl rfl
  · dsimp only at h
    split at h
    · obtain rfl := Except.error.inj h
      exact .inr (.inl rfl)
    · split at h
      · cases h
      · obtain rfl := Except.error.inj h
        exact .inr (.inr rfl)

/-- Only the errors of building a request keep a target from being started. -/
theorem prepare_failure (op : Operation) (client : Client) (t : Target) (openings : Nat)
    {e : Error} (h : (op.prepare client t openings).copy = .error e) : e.isBuildError = true := by
  unfold Error.isBuildError
  rcases prepare_code op client t openings h with hcode | hcode | hcode <;>
    · rw [hcode]
      rfl

/-- Each target is prepared by itself. -/
theorem prepareAll_getElem? (op : Operation) (client : Client) {targets : List Target}
    {openings i : Nat} {p : Preparation}
    (hp : (op.prepareAll client openings targets)[i]? = some p) :
    ∃ t number, targets[i]? = some t ∧ p = op.prepare client t number := by
  induction targets generalizing openings i with
  | nil => simp [prepareAll] at hp
  | cons t rest ih =>
    cases i with
    | zero => exact ⟨t, openings, rfl, (Option.some.inj hp).symm⟩
    | succ i => exact ih (by simpa [prepareAll] using hp)

theorem prepareAll_failure (op : Operation) (client : Client) (targets : List Target)
    (openings : Nat) : ∀ p ∈ op.prepareAll client openings targets, ∀ e, p.copy = .error e →
      e.isBuildError = true := by
  intro p hp e he
  obtain ⟨i, hi⟩ := List.mem_iff_getElem?.mp hp
  obtain ⟨t, number, _, rfl⟩ := prepareAll_getElem? op client hi
  exact prepare_failure op client t number he

/-- Preparations are made for the targets in order. -/
theorem prepareAll_target (op : Operation) (client : Client) (targets : List Target)
    (openings : Nat) :
    (op.prepareAll client openings targets).map Preparation.target = targets := by
  induction targets generalizing openings with
  | nil => rfl
  | cons t rest ih => simp [prepareAll, ih, prepare_target]

@[simp] theorem prepareAll_length (op : Operation) (client : Client) (targets : List Target)
    (openings : Nat) : (op.prepareAll client openings targets).length = targets.length := by
  rw [← List.length_map Preparation.target, prepareAll_target]

end Operation

namespace Engine

open Operation

variable (client : Client) (policy : RetryPolicy)

/-! ## §1 Placing one target -/

/-- The batch with further outcomes at the end of its channel. -/
def enqueue (b : Batch) (outcomes : List Outcome) : Batch :=
  { b with channel := { b.channel with queue := b.channel.queue ++ outcomes } }

theorem enqueue_nil (b : Batch) : enqueue b [] = b := by simp [enqueue]

theorem enqueue_enqueue (b : Batch) (xs ys : List Outcome) :
    enqueue (enqueue b xs) ys = enqueue b (xs ++ ys) := by
  simp [enqueue]

/-- What is done for one target at its position, with the outcome that it posts. -/
structure PlacedAt (position : Nat) (effects : List Effect) (posted : List Outcome) (d : Doings) :
    Prop where
  here : d.effectsAt position = effects
  elsewhere : ∀ other, other ≠ position → d.effectsAt other = []
  posted : d.posted = posted
  consumed : d.consumed = []
  dispatching : ∀ x ∈ d, x.2.isDispatching = true
  placed : ∀ x ∈ d, x.2.posted? ≠ none → x.1 = some position

/-- Placing a target puts its failure into the channel, if it has one, and changes nothing else. -/
theorem place_spec (position : Nat) (b : Batch) (p : Preparation)
    (hopen : b.channel.isOpen = true) (hroom : b.channel.queue.length < b.channel.capacity) :
    (place client policy position b p).1 = enqueue b p.failure?.toList ∧
      PlacedAt position (p.doings client policy) p.failure?.toList
        (place client policy position b p).2 := by
  have hposting : b.channel.posting = .delivered := by simp [Channel.posting, hopen, hroom]
  unfold place Preparation.failure? Preparation.doings
  cases hcopy : p.copy with
  -- A worker is started: nothing is posted.
  | ok copy =>
    refine ⟨by simp [enqueue_nil], ?_, ?_, ?_, ?_, ?_, ?_⟩
    · simp [Doings.effectsAt, List.filterMap_map]
    · intro other hother
      exact Doings.effectsAt_here_ne (Ne.symm hother) _
    all_goals
      cases p.intercepted <;> cases p.opened <;>
        simp [Doings.posted, Doings.consumed, Effect.posted?, Effect.consumed?,
          Effect.isDispatching]
  -- The failure is posted at once, and there is room for it.
  | error e =>
    refine ⟨by simp [Batch.post, Channel.post, hposting, enqueue], ?_, ?_, ?_, ?_, ?_, ?_⟩
    · simp [Doings.effectsAt, List.filterMap_map, Batch.post, hposting]
    · intro other hother
      have hne : ¬ position = other := Ne.symm hother
      simp [Doings.effectsAt, List.filterMap_map, Batch.post, hne]
    all_goals
      cases p.intercepted <;> cases p.opened <;>
        simp [Doings.posted, Doings.consumed, Batch.post, hposting, Effect.posted?,
          Effect.consumed?, Effect.isDispatching]

/-! ## §2 Placing all targets -/

/-- What is done for a list of targets from a position on, with the outcomes that are posted. -/
structure PlacedFrom (client : Client) (policy : RetryPolicy) (position : Nat)
    (preparations : List Preparation) (d : Doings) : Prop where
  here : ∀ i p, preparations[i]? = some p → d.effectsAt (position + i) = p.doings client policy
  elsewhere : ∀ other, (other < position ∨ position + preparations.length ≤ other) →
    d.effectsAt other = []
  posted : d.posted = preparations.filterMap Preparation.failure?
  consumed : d.consumed = []
  dispatching : ∀ x ∈ d, x.2.isDispatching = true
  placed : ∀ x ∈ d, x.2.posted? ≠ none → ∃ i < preparations.length, x.1 = some (position + i)

/-- Placing a list of targets puts their failures into the channel, in order. -/
theorem placeAll_spec (preparations : List Preparation) (position : Nat) (b : Batch)
    (hopen : b.channel.isOpen = true)
    (hroom : b.channel.queue.length + preparations.length ≤ b.channel.capacity) :
    (placeAll client policy position b preparations).1 =
        enqueue b (preparations.filterMap Preparation.failure?) ∧
      PlacedFrom client policy position preparations
        (placeAll client policy position b preparations).2 := by
  -- The induction is on the targets; the batch and the position move on with each of them.
  induction preparations generalizing position b with
  | nil =>
    exact ⟨by simp [placeAll, enqueue_nil], by simp, fun _ _ => rfl, rfl, rfl, by simp [placeAll],
      by simp [placeAll]⟩
  | cons p rest ih =>
    have hlt : b.channel.queue.length < b.channel.capacity := by
      simp only [List.length_cons] at hroom; omega
    obtain ⟨hfirst, hplaced⟩ := place_spec client policy position b p hopen hlt
    have hfailure : p.failure?.toList.length ≤ 1 := by cases p.failure? <;> simp
    obtain ⟨hothers, hrest⟩ := ih (position + 1) (place client policy position b p).1
      (by rw [hfirst]; exact hopen)
      (by rw [hfirst]; simp only [enqueue, List.length_append, List.length_cons] at hroom ⊢; omega)
    refine ⟨?_, ?_, ?_, ?_, ?_, ?_, ?_⟩
    · calc (placeAll client policy position b (p :: rest)).1
          = enqueue (place client policy position b p).1
              (rest.filterMap Preparation.failure?) := hothers
        _ = enqueue b (p.failure?.toList ++ rest.filterMap Preparation.failure?) := by
            rw [hfirst, enqueue_enqueue]
        _ = enqueue b ((p :: rest).filterMap Preparation.failure?) := by
            cases hcase : p.failure? <;> simp [hcase]
    · intro i q hq
      simp only [placeAll, Doings.effectsAt_append]
      -- The first target is the one placed now, and the others are shifted by one.
      cases i with
      | zero =>
        obtain rfl : p = q := by simpa using hq
        simp [hplaced.here, hrest.elsewhere position (.inl (by omega))]
      | succ i =>
        rw [hplaced.elsewhere _ (by omega), List.nil_append,
          ← hrest.here i q (by simpa using hq)]
        congr 1
        omega
    · intro other hother
      simp only [placeAll, Doings.effectsAt_append, List.length_cons] at hother ⊢
      rw [hplaced.elsewhere other (by omega), hrest.elsewhere other (by omega)]
      rfl
    · simp only [placeAll, Doings.posted_append, hplaced.posted, hrest.posted]
      cases hcase : p.failure? <;> simp [hcase]
    · simp [placeAll, hplaced.consumed, hrest.consumed]
    · intro x hx
      rcases List.mem_append.mp hx with hx | hx
      · exact hplaced.dispatching x hx
      · exact hrest.dispatching x hx
    · intro x hx hposted
      rcases List.mem_append.mp hx with hx | hx
      -- The failure is this target's own, or one of the others'.
      · exact ⟨0, by simp, hplaced.placed x hx hposted⟩
      · obtain ⟨i, hi, hposition⟩ := hrest.placed x hx hposted
        exact ⟨i + 1, by simpa using hi, by rw [hposition]; congr 1; omega⟩

/-! ## §3 New batches -/

/-- A batch whose dispatch is over: its workers are those of the preparations, the channel has room
    for one outcome per target and holds the failures, and nothing was taken from it yet. -/
structure Newborn (e : Engine) (targets : List Target) (b : Batch) (d : Doings)
    (preparations : List Preparation) : Prop where
  prepared : preparations.map Preparation.target = targets
  failure : ∀ p ∈ preparations, ∀ e, p.copy = .error e → e.isBuildError = true
  workers : b.workers = preparations.map workerOf
  capacity : b.channel.capacity = max targets.length 1
  isOpen : b.channel.isOpen = true
  queue : b.channel.queue = preparations.filterMap Preparation.failure?
  cancelled : b.cancelled = false
  released : b.released = false
  stage : b.stage = .kept ∨ ∃ goal, b.stage = .reducing goal Progress.start
  here : ∀ i p, preparations[i]? = some p →
    d.effectsAt i = p.doings e.client b.plan.retryPolicy
  elsewhere : ∀ i, targets.length ≤ i → d.effectsAt i = []
  posted : d.posted = preparations.filterMap Preparation.failure?
  consumed : d.consumed = []
  dispatching : ∀ x ∈ d, x.2.isDispatching = true
  placed : ∀ x ∈ d, x.2.posted? ≠ none → ∃ i < targets.length, x.1 = some i

theorem workerOf_target (p : Preparation) : (workerOf p).target = p.target := by
  unfold workerOf
  cases p.copy <;> rfl

/-- The workers of a new batch carry its targets. -/
theorem Newborn.targets {e : Engine} {targets : List Target} {b : Batch} {d : Doings}
    {preparations : List Preparation} (h : Newborn e targets b d preparations) :
    b.workers.map Worker.target = targets := by
  rw [h.workers, ← h.prepared, List.map_map]
  exact List.map_congr_left fun p _ => workerOf_target p

/-- What is told outside the targets does not show in the views of a batch. -/
theorem views_of_told {told : Doings} (htold : ∀ x ∈ told, ∃ event, x = (none, .logged event)) :
    (∀ i, told.effectsAt i = []) ∧ told.posted = [] ∧ told.consumed = [] := by
  have hconcluding : ∀ x ∈ told, x.2.isConcluding = true := by
    intro x hx
    obtain ⟨event, rfl⟩ := htold x hx
    rfl
  refine ⟨fun i => ?_, Doings.posted_of_concluding hconcluding,
    Doings.consumed_of_concluding hconcluding⟩
  refine List.filterMap_eq_nil_iff.mpr fun x hx => ?_
  obtain ⟨event, rfl⟩ := htold x hx
  rfl

/-- What the dispatch changes in a fresh batch: the failures wait in its channel. -/
theorem begun_enqueue (e : Engine) (op : Operation) (targets : List Target) :
    (e.begun op targets).1 =
        enqueue (e.fresh op (op.prepareAll e.client e.openings targets))
          ((op.prepareAll e.client e.openings targets).filterMap Preparation.failure?) ∧
      PlacedFrom e.client (op.retryPolicyFor e.client) 0
        (op.prepareAll e.client e.openings targets) (e.begun op targets).2 :=
  placeAll_spec e.client (op.retryPolicyFor e.client)
    (op.prepareAll e.client e.openings targets) 0
    (e.fresh op (op.prepareAll e.client e.openings targets)) rfl
    (Nat.le_trans (Nat.le_of_eq (Nat.zero_add _)) (Nat.le_max_left _ _))

/-- The batch that an operation begins is new, whatever was told before. -/
theorem begun_newborn (e : Engine) (op : Operation) (targets : List Target) {told : Doings}
    (htold : ∀ x ∈ told, ∃ event, x = (none, .logged event)) :
    Newborn e targets (e.begun op targets).1
      (told ++ (none, .dispatched targets.length) :: (e.begun op targets).2)
      (op.prepareAll e.client e.openings targets) := by
  have hlength := prepareAll_length op e.client targets e.openings
  obtain ⟨hbatch, hplaced⟩ := begun_enqueue e op targets
  obtain ⟨hat, hposted, hconsumed⟩ := views_of_told htold
  rw [hbatch]
  refine ⟨prepareAll_target _ _ _ _, prepareAll_failure _ _ _ _, rfl, ?_, rfl,
    by simp [enqueue, fresh, Channel.forTargets], rfl, rfl, .inl rfl, ?_, ?_, ?_, ?_, ?_, ?_⟩
  · simp [enqueue, fresh, Channel.forTargets]
  · intro i p hp
    have h := hplaced.here i p hp
    rw [Nat.zero_add] at h
    rw [Doings.effectsAt_append, hat, List.nil_append, Doings.effectsAt_cons_none]
    exact h
  · intro i hi
    simpa [hat] using hplaced.elsewhere i (.inr (by omega))
  · simpa [hposted, Effect.posted?] using hplaced.posted
  · simpa [hconsumed, Effect.consumed?] using hplaced.consumed
  · intro x hx
    rcases List.mem_append.mp hx with hx | hx
    · obtain ⟨event, rfl⟩ := htold x hx
      rfl
    · rcases List.mem_cons.mp hx with rfl | hx
      · rfl
      · exact hplaced.dispatching x hx
  -- Neither what was told nor the beginning of the batch is a post.
  · intro x hx hpost
    rcases List.mem_append.mp hx with hx | hx
    · obtain ⟨event, rfl⟩ := htold x hx
      exact absurd rfl hpost
    · rcases List.mem_cons.mp hx with rfl | hx
      · exact absurd rfl hpost
      · obtain ⟨i, hi, hposition⟩ := hplaced.placed x hx hpost
        exact ⟨i, hlength ▸ hi, by simpa using hposition⟩

/-- Beginning to reduce a new batch leaves it new. -/
theorem Newborn.begin {e : Engine} {targets : List Target} {b : Batch} {d : Doings}
    {preparations : List Preparation} (h : Newborn e targets b d preparations) (goal : Goal) :
    Newborn e targets (b.begin goal) d preparations := by
  unfold Batch.begin
  split
  · exact ⟨h.prepared, h.failure, h.workers, h.capacity, h.isOpen, h.queue, h.cancelled, h.released,
      .inr ⟨goal, rfl⟩, h.here, h.elsewhere, h.posted, h.consumed, h.dispatching,
      h.placed⟩
  · exact h

/-- So is the batch of a replicated operation, whose handler is dropped. -/
theorem replicate_newborn (e : Engine) (op : Operation) (targets : List Target)
    (threshold : Threshold) (acceptance : Acceptance) :
    Newborn e targets
      ((e.begun { op with handler := none } targets).1.begin (.decide threshold acceptance))
      (ignored op ++ (none, .dispatched targets.length) ::
        (e.begun { op with handler := none } targets).2)
      ({ op with handler := none }.prepareAll e.client e.openings targets) := by
  refine (begun_newborn e { op with handler := none } targets ?_).begin _
  intro x hx
  unfold ignored at hx
  split at hx
  · exact ⟨_, List.mem_singleton.mp hx⟩
  · simp at hx

/-- The operation of the batch that an event begins; a replicated one has no handler. -/
def Event.operation? : Event → Option Operation
  | .dispatch op _ => some op
  | .replicate op _ _ _ => some { op with handler := none }
  | _ => none

theorem Event.exists_targets {event : Event} {op : Operation} (h : event.operation? = some op) :
    ∃ targets, event.targets? = some targets := by
  cases event with
  | dispatch _ targets | replicate _ targets _ _ => exact ⟨targets, rfl⟩
  | _ => cases h

/-- **Every batch begins as a new one**, for the targets of its operation and under its plan. -/
theorem Birth.prepared {e : Engine} {event : Event} {targets : List Target} {b : Batch}
    {d : Doings} (h : Birth e event targets b d) :
    ∃ op, event.operation? = some op ∧ b.plan = (e.fresh op []).plan ∧
      Newborn e targets b d (op.prepareAll e.client e.openings targets) := by
  cases h with
  | dispatch op targets =>
    have hnothing : ∀ x ∈ ([] : Doings), ∃ event, x = (none, .logged event) := by simp
    refine ⟨op, rfl, ?_, begun_newborn e op targets hnothing⟩
    rw [(begun_enqueue e op targets).1]
    rfl
  | replicate op targets threshold acceptance =>
    refine ⟨_, rfl, ?_, replicate_newborn e op targets threshold acceptance⟩
    rw [(Batch.begin_keeps _ _).plan, (begun_enqueue e { op with handler := none } targets).1]
    rfl

theorem Birth.targets? {e : Engine} {event : Event} {targets : List Target} {b : Batch}
    {d : Doings} (h : Birth e event targets b d) : event.targets? = some targets := by
  cases h <;> rfl

theorem Birth.newborn {e : Engine} {event : Event} {targets : List Target} {b : Batch}
    {d : Doings} (h : Birth e event targets b d) :
    ∃ preparations, Newborn e targets b d preparations :=
  let ⟨_, _, _, hnew⟩ := h.prepared
  ⟨_, hnew⟩

end Engine

end Replicast
