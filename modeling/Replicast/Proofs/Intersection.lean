import Mathlib.Data.Finset.Card
import Mathlib.Data.List.Perm.Basic
import Replicast.Proofs.Replication
/-!
# Quorum intersection

No target is counted twice in a report.  When the thresholds of two reports over the same targets
together exceed their number, and both are met, some replica accepted both operations.

## Overview

* `Worker.owed` is what a worker has yet to post, and `Batch.Accounted` says that every target is
  posted or owed exactly once.
* `QuorumReport.Fair` says that a report accepts each index once and none that was not asked.
* `Engine.run_intersects` is the result.
-/

namespace Replicast

/-! ## §1 Each target once -/

/-- The target that a worker has yet to post. -/
def Worker.owed (w : Worker) : List Target := if w.isLive then [w.target] else []

/-- Replacing a worker exchanges what is owed. -/
theorem Worker.owed_set {workers : List Worker} {i : Nat} {w : Worker} (hw : workers[i]? = some w)
    (v : Worker) :
    (w.owed ++ (workers.set i v).flatMap owed).Perm (v.owed ++ workers.flatMap owed) := by
  induction workers generalizing i with
  | nil => simp at hw
  | cons head rest ih =>
    cases i with
    | zero =>
      obtain rfl : head = w := by simpa using hw
      simpa using List.perm_append_comm_assoc head.owed v.owed (rest.flatMap owed)
    | succ i =>
      -- The worker lies further on, behind what the first one owes.
      have hrest := (ih (i := i) (by simpa using hw)).append_left head.owed
      have hfront := List.perm_append_comm_assoc w.owed head.owed ((rest.set i v).flatMap owed)
      have hback := List.perm_append_comm_assoc head.owed v.owed (rest.flatMap owed)
      simpa using (hfront.trans hrest).trans hback

/-- The targets that were posted and those that are owed are all targets of the batch, each of them
    once. -/
def Batch.Accounted (b : Batch) (d : Doings) : Prop :=
  (d.posted.map Outcome.target ++ b.workers.flatMap Worker.owed).Perm
    (b.workers.map Worker.target)

namespace Batch

variable {b after : Batch} {d k : Doings}

theorem accounted_workerOf (preparations : List Operation.Preparation) :
    ((preparations.filterMap Operation.Preparation.failure?).map Outcome.target ++
        (preparations.map Engine.workerOf).flatMap Worker.owed).Perm
      ((preparations.map Engine.workerOf).map Worker.target) := by
  -- Each preparation leads to a failure or to a live worker of its target.
  induction preparations with
  | nil => rfl
  | cons p rest ih =>
    cases hcopy : p.copy with
    | ok copy =>
      have hfailure : p.failure? = none := by simp [Operation.Preparation.failure?, hcopy]
      have howed : (Engine.workerOf p).owed = [p.target] := by
        simp [Engine.workerOf, hcopy, Worker.owed, Worker.isLive]
      have htarget : (Engine.workerOf p).target = p.target := Engine.workerOf_target p
      simpa [hfailure, howed, htarget] using
        (List.perm_append_comm_assoc _ [p.target] _).trans (ih.cons p.target)
    | error e =>
      have hfailure : p.failure? = some (Outcome.failed p.target p.head e) := by
        simp [Operation.Preparation.failure?, hcopy]
      have howed : (Engine.workerOf p).owed = [] := by
        simp [Engine.workerOf, hcopy, Worker.owed, Worker.isLive]
      have htarget : (Engine.workerOf p).target = p.target := Engine.workerOf_target p
      simpa [hfailure, howed, htarget, Outcome.failed] using ih.cons p.target

theorem accounted_of_newborn {e : Engine} {targets : List Target}
    {preparations : List Operation.Preparation}
    (h : Engine.Newborn e targets b d preparations) : Accounted b d := by
  rw [Accounted, h.posted, h.workers]
  exact accounted_workerOf preparations

/-- A move that posts nothing and touches no worker. -/
theorem Accounted.keep (h : Accounted b d) (hworkers : after.workers = b.workers)
    (hposted : k.posted = []) : Accounted after (d ++ k) := by
  rw [Accounted, Doings.posted_append, hposted, List.append_nil, hworkers]
  exact h

/-- A worker posts the target that it owes, and owes it no longer. -/
theorem Accounted.signal (h : Accounted b d) (e : Engine) (i : Nat) (s : Signal) :
    Accounted (b.signal e.toClock e.tokens e.openings i s).1
      (d ++ Doings.here i (b.signal e.toClock e.tokens e.openings i s).2) := by
  cases hw : b.workers[i]? with
  | none => simpa [signal_of_none e hw s, Doings.here] using h
  | some w =>
    have hm := (Worker.step_transition b.plan (b.stopFor e w) e.openings w s).lawful
    have htargets := (signal_persists b e i s).targets
    have hposted := hm.posted b.channel.posting
    rw [signal_eq e hw s] at htargets ⊢
    rw [Worker.Move.doings] at hposted
    generalize w.step b.plan (b.stopFor e w) e.openings s = m at hm htargets hposted ⊢
    have hset := Worker.owed_set hw m.worker
    rw [Accounted, htargets, Doings.posted_append, Doings.posted_here, hposted, List.map_append]
    rcases hm.progress with ⟨hnone, hlive⟩ | ⟨o, hends⟩
    · -- The worker owes what it owed.
      have hsame : m.worker.owed = w.owed := by rw [Worker.owed, Worker.owed, hlive, hm.target]
      rw [hsame] at hset
      simpa [hnone] using (((List.perm_append_left_iff _).mp hset).append_left _).trans h
    · have howed : w.owed = [o.target] := by simp [Worker.owed, hends.wasLive, hends.target]
      have hpaid : m.worker.owed = [] := by simp [Worker.owed, hends.ended]
      rw [howed, hpaid] at hset
      simpa [hends.outcome] using (hset.append_left (d.posted.map Outcome.target)).trans h

theorem Accounted.move {e : Engine} (h : Accounted b d) (hmove : b.Move e after k) :
    Accounted after (d ++ k) := by
  cases hmove with
  | rest => exact h.keep rfl rfl
  | signal position s => exact h.signal e position s
  | cancel => exact h.keep (release_keeps b).workers rfl
  | begin goal => exact h.keep (begin_keeps b goal).workers rfl
  | drop =>
    exact h.keep (drop_keeps b).workers
      (Doings.posted_of_concluding (Doings.unplaced_concluding (drop_concluding b)))
  | poll hturn =>
    refine h.keep hturn.keeps.workers ?_
    rcases hturn.effects_cases with hconcluding | ⟨o, rest, rfl, hconcluding⟩
    · exact Doings.posted_of_concluding (Doings.unplaced_concluding hconcluding)
    · rw [Engine.unplaced_cons, Doings.posted_cons,
        Doings.posted_of_concluding (Doings.unplaced_concluding hconcluding)]
      rfl

/-- A reducer takes each target once at most. -/
theorem Accounted.consumed (h : Accounted b d) (hledger : Ledger b d) :
    (d.consumed.map Outcome.target).Subperm (b.workers.map Worker.target) := by
  have htaken := (hledger.taken.sublist.map Outcome.target).subperm
  have hposted := (List.sublist_append_left (d.posted.map Outcome.target)
    (b.workers.flatMap Worker.owed)).subperm
  exact htaken.trans (hposted.trans h.subperm)

end Batch

/-! ## §2 Fair reports -/

/-- A report for distinct indices that counts none of them twice. -/
structure QuorumReport.Fair (r : QuorumReport) (threshold : Threshold) (indices : List Nat) :
    Prop where
  nodup : r.accepted.Nodup
  subset : r.accepted ⊆ indices
  enough : r.isMet = true → threshold.requiredFor indices.length ≤ r.accepted.length

/-- An exact report about targets of distinct indices is fair. -/
theorem QuorumReport.Exact.fair {r : QuorumReport} {threshold : Threshold}
    {acceptance : Acceptance} {received : List Outcome} {targets : List Target}
    (h : r.Exact threshold acceptance targets.length received)
    (hreceived : (received.map Outcome.target).Subperm targets)
    (hdistinct : (targets.map Target.index).Nodup) :
    r.Fair threshold (targets.map Target.index) := by
  -- What is accepted is part of what was received, and this is part of the targets.
  have hindices : (received.map fun o => o.target.index).Subperm (targets.map Target.index) := by
    obtain ⟨part, hperm, hpart⟩ := hreceived
    have hmapped := hperm.map Target.index
    rw [List.map_map] at hmapped
    exact ⟨_, hmapped, hpart.map Target.index⟩
  have haccepted : r.accepted.Subperm (targets.map Target.index) := by
    rw [h.accepted]
    have hfiltered := (List.filter_sublist (p := acceptance) (l := r.outcomes)).map
      fun o => o.target.index
    exact hfiltered.subperm.trans ((h.outcomes.map _).subperm.trans hindices)
  obtain ⟨part, hperm, hpart⟩ := id haccepted
  refine ⟨hperm.nodup_iff.mp (hpart.nodup hdistinct), haccepted.subset, fun hmet => ?_⟩
  have henough := h.isMet.mp hmet
  rw [h.required, h.achieved, h.replicas] at henough
  simpa using henough

/-- Fair reports with overlapping thresholds that are both met have an index in common. -/
theorem QuorumReport.Fair.inter {r₁ r₂ : QuorumReport} {t₁ t₂ : Threshold} {indices : List Nat}
    (h₁ : r₁.Fair t₁ indices) (h₂ : r₂.Fair t₂ indices)
    (hoverlap : indices.length < t₁.requiredFor indices.length + t₂.requiredFor indices.length)
    (hmet₁ : r₁.isMet = true) (hmet₂ : r₂.isMet = true) :
    ∃ index, index ∈ r₁.accepted ∧ index ∈ r₂.accepted := by
  have henough₁ := h₁.enough hmet₁
  have henough₂ := h₂.enough hmet₂
  have hcard : indices.toFinset.card <
      r₁.accepted.toFinset.card + r₂.accepted.toFinset.card := by
    rw [List.toFinset_card_of_nodup h₁.nodup, List.toFinset_card_of_nodup h₂.nodup]
    have hle := List.toFinset_card_le indices
    omega
  have hsubset {accepted : List Nat} (h : accepted ⊆ indices) :
      accepted.toFinset ⊆ indices.toFinset := fun index hindex =>
    List.mem_toFinset.mpr (h (List.mem_toFinset.mp hindex))
  -- Too many indices were accepted to be all different.
  obtain ⟨index, hindex⟩ := Finset.inter_nonempty_of_card_lt_card_add_card
    (hsubset h₁.subset) (hsubset h₂.subset) hcard
  simp only [Finset.mem_inter, List.mem_toFinset] at hindex
  exact ⟨index, hindex⟩

/-- Two majorities overlap, whatever the number of replicas. -/
theorem Threshold.majority_overlaps (n : Nat) :
    n < Threshold.majority.requiredFor n + Threshold.majority.requiredFor n := by
  simp only [Threshold.requiredFor]
  omega

/-! ## §3 Two runs -/

namespace Engine

/-- A report that a replicated operation on some targets has returned, in some run of some
    client. -/
inductive Reported (targets : List Target) (threshold : Threshold) (report : QuorumReport) :
    Prop where
  | run (client : Client) (now : Instant) (before after : List Event) (op : Operation)
      (acceptance : Acceptance) (b : Batch) :
      ((start client now).run (before ++ .replicate op targets threshold acceptance ::
        after)).1.batches[((start client now).run before).1.batches.length]? = some b →
      b.stage = .reduced (.reported report) → Reported targets threshold report

/-- In every run, every target of a batch is posted or owed exactly once. -/
theorem run_accounted {client : Client} {now : Instant} (events : List Event) {number : Nat}
    {b : Batch} (hb : ((start client now).run events).1.batches[number]? = some b) :
    b.Accounted (((start client now).run events).2.of number) :=
  run_invariant (fun _ _ _ _ _ hbirth =>
      let ⟨_, hnew⟩ := hbirth.newborn
      Batch.accounted_of_newborn hnew)
    (fun _ _ _ _ _ h hmove => h.move hmove) events hb

theorem Reported.fair {targets : List Target} {threshold : Threshold} {report : QuorumReport}
    (h : Reported targets threshold report) (hdistinct : (targets.map Target.index).Nodup) :
    report.Fair threshold (targets.map Target.index) := by
  obtain ⟨client, now, before, after, op, acceptance, b, hb, hreturned⟩ := h
  obtain ⟨b', hb', hdeciding, htargets⟩ := run_deciding client now before after op targets
    threshold acceptance
  obtain rfl := Option.some.inj (hb.symm.trans hb')
  have hsize : b.size = targets.length := by
    rw [← htargets, List.length_map]
    rfl
  obtain ⟨_, hsame, hexact, _⟩ := hdeciding.exact hreturned
  obtain rfl := Reduction.reported.inj hsame
  have hconsumed := (run_accounted _ hb).consumed hdeciding.ledger
  exact QuorumReport.Exact.fair (hsize ▸ hexact) (htargets ▸ hconsumed) hdistinct

/-- **Quorums intersect.**  When two replicated operations over the same targets, whose indices are
    pairwise distinct, have both met their thresholds, and the thresholds together exceed the number
    of targets, then both reports have accepted some index.  The runs, the clients, the requests and
    the strategies of acceptance may all differ.  Two majorities always exceed that number. -/
theorem run_intersects {targets : List Target} {t₁ t₂ : Threshold} {r₁ r₂ : QuorumReport}
    (hdistinct : (targets.map Target.index).Nodup)
    (h₁ : Reported targets t₁ r₁) (h₂ : Reported targets t₂ r₂)
    (hoverlap : targets.length < t₁.requiredFor targets.length + t₂.requiredFor targets.length ∨
      (t₁ = .majority ∧ t₂ = .majority))
    (hmet₁ : r₁.isMet = true) (hmet₂ : r₂.isMet = true) :
    ∃ index, index ∈ r₁.accepted ∧ index ∈ r₂.accepted := by
  have hmore : (targets.map Target.index).length <
      t₁.requiredFor (targets.map Target.index).length +
        t₂.requiredFor (targets.map Target.index).length := by
    rw [List.length_map]
    rcases hoverlap with hmore | ⟨rfl, rfl⟩
    · exact hmore
    · exact Threshold.majority_overlaps targets.length
  exact (h₁.fair hdistinct).inter (h₂.fair hdistinct) hmore hmet₁ hmet₂

/-- A reducer that has received every outcome returns its report at its next turn. -/
theorem reported_of_complete (client : Client) (now : Instant) (before after : List Event)
    (op : Operation) {targets : List Target} {threshold : Threshold} {acceptance : Acceptance}
    {b : Batch} {progress : Progress}
    (hb : ((start client now).run (before ++ .replicate op targets threshold acceptance ::
      after)).1.batches[((start client now).run before).1.batches.length]? = some b)
    (hstage : b.stage = .reducing (.decide threshold acceptance) progress)
    (hall : b.size ≤ progress.consumed.length) :
    Reported targets threshold (.ofOutcomes threshold acceptance b.size progress.consumed) := by
  refine .run client now before
    (after ++ [.poll ((start client now).run before).1.batches.length]) op acceptance
    (b.finish (.decide threshold acceptance) progress false).1 ?_ rfl
  obtain ⟨hafter, _⟩ := step_share hb (.poll ((start client now).run before).1.batches.length)
  rw [← List.cons_append, ← List.append_assoc, run_concat, hafter]
  simp [Batch.react, Batch.poll, hstage, hall]

/-- Three targets, for two operations of which each misses another one. -/
def threeTargets : List Target := [⟨0, "http://a"⟩, ⟨1, "http://b"⟩, ⟨2, "http://c"⟩]

/-- The worker at a position ends with a response. -/
def answered (position : Nat) : List Event :=
  [.signal 0 position .turn, .signal 0 position .turn,
    .signal 0 position (.answer (.response ⟨Status.ok, .http11, Header.Map.empty⟩)),
    .signal 0 position .bodyEnd]

/-- The worker at a position is torn down. -/
def tornDown (position : Nat) : List Event :=
  [.signal 0 position .turn, .signal 0 position .turn, .signal 0 position .panic]

/-- The reducer takes three outcomes. -/
def takenAll : List Event := [.poll 0, .poll 0, .poll 0]

/-- What a plain client reports once its reducer has received everything, and enough of it is
    accepted. -/
theorem reported_of_accepted (after : List Event) (threshold : Threshold) (acceptance : Acceptance)
    (hfacts : ((plain.run (.replicate (.new .get "x") threeTargets threshold acceptance ::
      after)).1.batches[0]?.any fun b => match b.stage with
        | .reducing _ progress => decide (b.size ≤ progress.consumed.length) &&
            decide (threshold.requiredFor b.size ≤ progress.consumed.countP acceptance)
        | _ => false) = true) :
    ∃ r, Reported threeTargets threshold r ∧ r.isMet = true := by
  obtain ⟨b, hb, hdeciding, _⟩ := run_deciding (ClientBuilder.ofConfig .standard).build ⟨0⟩
    [] after (.new .get "x") threeTargets threshold acceptance
  have hthere : (plain.run (.replicate (.new .get "x") threeTargets threshold acceptance ::
    after)).1.batches[0]? = some b := hb
  rw [hthere, Option.any_some] at hfacts
  split at hfacts
  · rename_i goal progress hstage
    simp only [Bool.and_eq_true, decide_eq_true_eq] at hfacts
    obtain ⟨rfl, _⟩ := hdeciding.pending hstage
    exact ⟨_, reported_of_complete _ _ [] after _ hb hstage hfacts.1,
      (QuorumReport.ofOutcomes_isMet _ _ _ _).mpr hfacts.2⟩
  · cases hfacts

/-- Two majorities of `threeTargets`, for operations that miss a different target each. -/
theorem run_intersects_majorities :
    ∃ r₁ r₂, (threeTargets.map Target.index).Nodup ∧ Reported threeTargets .majority r₁ ∧
      Reported threeTargets .majority r₂ ∧ r₁.isMet = true ∧ r₂.isMet = true ∧
      ∃ index, index ∈ r₁.accepted ∧ index ∈ r₂.accepted := by
  have hdistinct : (threeTargets.map Target.index).Nodup := by decide
  obtain ⟨r₁, h₁, hmet₁⟩ := reported_of_accepted
    (answered 0 ++ answered 1 ++ tornDown 2 ++ takenAll) .majority .ok (by decide +kernel)
  obtain ⟨r₂, h₂, hmet₂⟩ := reported_of_accepted
    (tornDown 0 ++ answered 2 ++ answered 1 ++ takenAll) .majority (fun o => o.error.isNone)
    (by decide +kernel)
  exact ⟨r₁, r₂, hdistinct, h₁, h₂, hmet₁, hmet₂,
    run_intersects hdistinct h₁ h₂ (.inr ⟨rfl, rfl⟩) hmet₁ hmet₂⟩

end Engine

end Replicast
