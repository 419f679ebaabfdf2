import Replicast.Proofs.Consumption
import Replicast.Proofs.Counters
import Replicast.Proofs.Interruption
/-!
# Replicated operations

The report of a replicated operation says exactly what its reducer has received: the outcomes in the
order of their target indices, the replicas that accepted among them, and the verdict.

## Overview

* `QuorumReport.Exact` is what a report has to say, and `QuorumReport.ofOutcomes_exact` that it
  does.
* `Batch.Deciding` describes the batch of a replicated operation at every time.
* `Engine.run_returns` brings reducers to their end.
* `Engine.run_replicates` is the result.
-/

namespace Replicast

/-! ## §1 Reports -/

namespace Tally

@[simp] theorem recordAll_required (t : Tally) (votes : List Bool) :
    (t.recordAll votes).required = t.required := by
  unfold recordAll
  induction votes generalizing t with
  | nil => rfl
  | cons vote rest ih => rw [List.foldl_cons, ih, record_required]

/-- A tally counts the votes in favour. -/
@[simp] theorem recordAll_achieved (t : Tally) (votes : List Bool) :
    (t.recordAll votes).achieved = t.achieved + votes.count true := by
  unfold recordAll
  induction votes generalizing t with
  | nil => rfl
  | cons vote rest ih =>
    rw [List.foldl_cons, ih, record_achieved]
    cases vote with
    | false => simp
    | true =>
      rw [List.count_cons_self, Bool.toNat_true]
      omega

end Tally

namespace QuorumReport

/-- A report about some received outcomes, for a threshold and a strategy of acceptance, that is
    right in everything it says. -/
structure Exact (r : QuorumReport) (threshold : Threshold) (acceptance : Acceptance)
    (size : Nat) (received : List Outcome) : Prop where
  replicas : r.replicas = size
  outcomes : r.outcomes.Perm received
  ordered : r.outcomes.Pairwise fun a b => a.target.index ≤ b.target.index
  accepted : r.accepted = (r.outcomes.filter acceptance).map (·.target.index)
  achieved : r.tally.achieved = r.accepted.length
  accepted_le : r.accepted.length ≤ r.outcomes.length
  outcomes_le : r.outcomes.length ≤ r.replicas
  required : r.tally.required = threshold.requiredFor r.replicas
  isMet : r.isMet = true ↔ r.tally.required ≤ r.tally.achieved

theorem inOrder_perm (outcomes : List Outcome) : (inOrder outcomes).Perm outcomes :=
  List.mergeSort_perm outcomes _

theorem inOrder_ordered (outcomes : List Outcome) :
    (inOrder outcomes).Pairwise fun a b => a.target.index ≤ b.target.index := by
  have hsorted : (inOrder outcomes).Pairwise fun a b =>
      decide (a.target.index ≤ b.target.index) = true := by
    apply List.pairwise_mergeSort
    · intro a b c hab hbc
      simp only [decide_eq_true_eq] at hab hbc ⊢
      omega
    · intro a b
      simp only [Bool.or_eq_true, decide_eq_true_eq]
      omega
  exact hsorted.imp fun h => by simpa using h

/-- The votes in favour are those of the outcomes that the strategy accepts. -/
theorem count_votes (acceptance : Acceptance) (outcomes : List Outcome) :
    (outcomes.map acceptance).count true = outcomes.countP acceptance := by
  rw [List.count_eq_countP, List.countP_map]
  exact List.countP_congr fun o _ => by simp

/-- **A report is exact** when no more was received than there are replicas. -/
theorem ofOutcomes_exact (threshold : Threshold) (acceptance : Acceptance) {replicas : Nat}
    {received : List Outcome} (hle : received.length ≤ replicas) :
    (ofOutcomes threshold acceptance replicas received).Exact threshold acceptance replicas
      received := by
  refine ⟨rfl, inOrder_perm received, inOrder_ordered received, rfl, ?_, ?_, ?_, ?_, ?_⟩
  · have hvotes := count_votes acceptance (inOrder received)
    rw [List.countP_eq_length_filter] at hvotes
    simpa [ofOutcomes, Tally.start] using hvotes
  · simpa [ofOutcomes] using List.length_filter_le acceptance (inOrder received)
  · simpa [ofOutcomes, (inOrder_perm received).length_eq] using hle
  · simp [ofOutcomes, Tally.start]
  · simp [QuorumReport.isMet, Tally.isMet]

/-- The verdict does not depend on the order in which the outcomes were received. -/
theorem ofOutcomes_isMet (threshold : Threshold) (acceptance : Acceptance) (replicas : Nat)
    (received : List Outcome) :
    (ofOutcomes threshold acceptance replicas received).isMet = true ↔
      threshold.requiredFor replicas ≤ received.countP acceptance := by
  have hvotes : ((inOrder received).map acceptance).count true = received.countP acceptance :=
    (count_votes acceptance (inOrder received)).trans ((inOrder_perm received).countP_eq _)
  simp [ofOutcomes, isMet, Tally.isMet, Tally.start, hvotes]

end QuorumReport

/-! ## §2 Deciding batches -/

/-- The verdict that an effect announces. -/
def Effect.decision? : Effect → Option Bool
  | .decided met => some met
  | _ => none

/-- Whether an effect is an answer of a handler. -/
def Effect.isJudgement : Effect → Bool
  | .judged _ _ _ => true
  | _ => false

/-- The verdicts that a batch has announced. -/
def Doings.decisions (d : Doings) : List Bool := d.filterMap fun x => x.2.decision?

@[simp] theorem Doings.decisions_append (d k : Doings) :
    (d ++ k).decisions = d.decisions ++ k.decisions :=
  List.filterMap_append

@[simp] theorem Doings.decisions_unplaced (effects : List Effect) :
    Doings.decisions (Engine.unplaced effects) = effects.filterMap Effect.decision? := by
  simp [Doings.decisions, Engine.unplaced, List.filterMap_map]

/-- Whether an effect neither announces a verdict nor answers for a handler. -/
def Effect.isSilent (x : Effect) : Bool := x.decision?.isNone && !x.isJudgement

theorem Effect.isSilent_of_isOwn {x : Effect} (h : x.isOwn = true) : x.isSilent = true := by
  cases x <;> first | rfl | cases h

theorem Effect.isSilent_of_isDispatching {x : Effect} (h : x.isDispatching = true) :
    x.isSilent = true := by
  cases x <;> first | rfl | cases h

theorem Doings.decisions_of_silent {d : Doings} (h : ∀ x ∈ d, x.2.isSilent = true) :
    d.decisions = [] := by
  refine List.filterMap_eq_nil_iff.mpr fun x hx => ?_
  have hsilent := h x hx
  simp only [Effect.isSilent, Bool.and_eq_true, Option.isNone_iff_eq_none] at hsilent
  exact hsilent.1

namespace Batch

variable {threshold : Threshold} {acceptance : Acceptance} {b after : Batch} {d k : Doings}

/-- How far a decision has come: it is open, it was given up, or it was announced once and
    returned. -/
inductive Decision (threshold : Threshold) (acceptance : Acceptance) (b : Batch) (d : Doings) :
    Prop where
  | pending {progress : Progress} :
      b.stage = .reducing (.decide threshold acceptance) progress → d.decisions = [] →
      Decision threshold acceptance b d
  | dropped : b.stage = .dropped → d.decisions = [] → Decision threshold acceptance b d
  | reported {r : QuorumReport} :
      r = .ofOutcomes threshold acceptance b.size d.consumed →
      b.stage = .reduced (.reported r) → d.decisions = [r.isMet] →
      Decision threshold acceptance b d

/-- The batch of a replicated operation: it has no handler, nothing was put to one, and the
    decision has come as far as its stage says. -/
structure Deciding (threshold : Threshold) (acceptance : Acceptance) (b : Batch) (d : Doings) :
    Prop where
  ledger : Ledger b d
  handler : b.handler = none
  unjudged : ∀ x ∈ d, x.2.isJudgement = false
  decision : Decision threshold acceptance b d

theorem unjudged_append (h : ∀ x ∈ d, x.2.isJudgement = false)
    (hk : ∀ x ∈ k, x.2.isSilent = true) : ∀ x ∈ d ++ k, x.2.isJudgement = false := by
  intro x hx
  rcases List.mem_append.mp hx with hx | hx
  · exact h x hx
  · have hsilent := hk x hx
    simp only [Effect.isSilent, Bool.and_eq_true, Bool.not_eq_true'] at hsilent
    exact hsilent.2

/-- While the batch is reduced, the goal is the decision, and no verdict was announced yet. -/
theorem Deciding.pending {goal : Goal} {progress : Progress}
    (h : Deciding threshold acceptance b d) (hstage : b.stage = .reducing goal progress) :
    goal = .decide threshold acceptance ∧ d.decisions = [] := by
  cases h.decision with
  | pending hreducing hnone =>
    rw [hstage] at hreducing
    cases hreducing
    exact ⟨rfl, hnone⟩
  | dropped hdropped _ => rw [hstage] at hdropped; cases hdropped
  | reported _ hreduced _ => rw [hstage] at hreduced; cases hreduced

/-- A move that says nothing about the decision and leaves the stage as it is. -/
theorem Deciding.silent {e : Engine} (h : Deciding threshold acceptance b d)
    (hmove : b.Move e after k) (hstage : after.stage = b.stage) (hconsumed : k.consumed = [])
    (hsilent : ∀ x ∈ k, x.2.isSilent = true) : Deciding threshold acceptance after (d ++ k) := by
  have hkept := hmove.persists
  have hdecisions : (d ++ k).decisions = d.decisions := by
    rw [Doings.decisions_append, Doings.decisions_of_silent hsilent, List.append_nil]
  refine ⟨h.ledger.move hmove, hkept.handler.trans h.handler,
    unjudged_append h.unjudged hsilent, ?_⟩
  -- The decision stands as it did.
  cases h.decision with
  | pending hreducing hnone =>
    exact .pending (hstage.trans hreducing) (hdecisions.trans hnone)
  | dropped hdropped hnone => exact .dropped (hstage.trans hdropped) (hdecisions.trans hnone)
  | reported hr hreduced hmet =>
    refine .reported ?_ (hstage.trans hreduced) (hdecisions.trans hmet)
    rw [hr, hkept.size, Doings.consumed_append, hconsumed, List.append_nil]

/-- Closing a batch is told, at most. -/
theorem close_effects (b : Batch) (stage : Stage) :
    ∀ x ∈ (b.close stage).2, ∃ event, x = .logged event := by
  simp only [close]
  split <;> simp

/-- What a reducer does when it returns its report: it announces the verdict, once. -/
theorem finish_decide (threshold : Threshold) (acceptance : Acceptance) (b : Batch)
    (progress : Progress) (interrupted : Bool) :
    let r := QuorumReport.ofOutcomes threshold acceptance b.size progress.consumed
    let ending := b.finish (.decide threshold acceptance) progress interrupted
    ending.1.stage = .reduced (.reported r) ∧
      ending.2.filterMap Effect.decision? = [r.isMet] ∧
      ∀ x ∈ ending.2, x.isJudgement = false := by
  intro r ending
  have hclose : (b.close (.reduced (.reported r))).2.filterMap Effect.decision? = [] := by
    refine List.filterMap_eq_nil_iff.mpr fun x hx => ?_
    obtain ⟨event, rfl⟩ := close_effects b _ x hx
    rfl
  have hevents : ((r.events acceptance).map Effect.logged).filterMap Effect.decision? = [] := by
    refine List.filterMap_eq_nil_iff.mpr fun x hx => ?_
    obtain ⟨event, _, rfl⟩ := List.mem_map.mp hx
    rfl
  have heffects : ending.2 = (b.close (.reduced (.reported r))).2 ++
      (r.events acceptance).map Effect.logged ++
        [Effect.decided r.isMet, Effect.returned (.reported r)] := rfl
  refine ⟨rfl, ?_, fun x hx => ?_⟩
  · rw [heffects, List.filterMap_append, List.filterMap_append, hclose, hevents]
    rfl
  · rw [heffects] at hx
    rcases List.mem_append.mp hx with hx | hx
    · rcases List.mem_append.mp hx with hx | hx
      · obtain ⟨event, rfl⟩ := close_effects b _ x hx
        rfl
      · obtain ⟨event, _, rfl⟩ := List.mem_map.mp hx
        rfl
    · simp only [List.mem_cons, List.not_mem_nil, or_false] at hx
      rcases hx with rfl | rfl <;> rfl

/-- A reducer that returns its report has decided by all that it has received. -/
theorem Deciding.finish {e : Engine} {progress : Progress} {interrupted : Bool}
    (h : Deciding threshold acceptance b d) (told : List Log.Event)
    (hstage : b.stage = .reducing (.decide threshold acceptance) progress)
    (hmove : b.Move e (b.finish (.decide threshold acceptance) progress interrupted).1
      (Engine.unplaced (told.map .logged ++
        (b.finish (.decide threshold acceptance) progress interrupted).2))) :
    Deciding threshold acceptance (b.finish (.decide threshold acceptance) progress interrupted).1
      (d ++ Engine.unplaced (told.map .logged ++
        (b.finish (.decide threshold acceptance) progress interrupted).2)) := by
  obtain ⟨hreported, hdecided, hunjudged⟩ :=
    finish_decide threshold acceptance b progress interrupted
  have hsize := (b.finish_keeps (.decide threshold acceptance) progress interrupted).size
  obtain ⟨_, hpending⟩ := h.pending hstage
  have htold : (told.map Effect.logged).filterMap Effect.decision? = [] := by
    refine List.filterMap_eq_nil_iff.mpr fun x hx => ?_
    obtain ⟨event, _, rfl⟩ := List.mem_map.mp hx
    rfl
  refine ⟨h.ledger.move hmove, hmove.persists.handler.trans h.handler, fun x hx => ?_, ?_⟩
  · rcases List.mem_append.mp hx with hx | hx
    · exact h.unjudged x hx
    obtain ⟨effect, heffect, rfl⟩ := List.mem_map.mp hx
    rcases List.mem_append.mp heffect with heffect | heffect
    · obtain ⟨event, _, rfl⟩ := List.mem_map.mp heffect
      rfl
    · exact hunjudged effect heffect
  · -- What the reducer had in its progress is what it has received.
    have hconsumed := (h.ledger.reducing _ _ hstage).2
    have hnothing : Doings.consumed (Engine.unplaced (told.map .logged ++
        (b.finish (.decide threshold acceptance) progress interrupted).2)) = [] := by
      refine Doings.consumed_of_concluding (Doings.unplaced_concluding fun x hx => ?_)
      rcases List.mem_append.mp hx with hx | hx
      · obtain ⟨event, _, rfl⟩ := List.mem_map.mp hx
        rfl
      · exact finish_concluding b _ _ _ x hx
    refine .reported ?_ hreported ?_
    · rw [hsize, Doings.consumed_append, hnothing, List.append_nil, hconsumed]
    · rw [Doings.decisions_append, hpending, Doings.decisions_unplaced, List.filterMap_append,
        htold, hdecided]
      rfl

/-- Such a batch is never kept: its reducer begins with it. -/
theorem Deciding.begun (h : Deciding threshold acceptance b d) : b.stage ≠ .kept := by
  cases h.decision with
  | pending hstage _ | dropped hstage _ | reported _ hstage _ => simp [hstage]

/-- Dropping a batch is told, at most. -/
theorem drop_effects (b : Batch) : ∀ x ∈ b.drop.2, ∃ event, x = .logged event := by
  intro x hx
  unfold drop at hx
  split at hx
  · exact close_effects b _ x hx
  · exact close_effects b _ x hx
  · cases hx
  · cases hx

/-- A reducer that is dropped will not announce anything any more. -/
theorem Deciding.drop {e : Engine} (h : Deciding threshold acceptance b d)
    (hmove : b.Move e b.drop.1 (Engine.unplaced b.drop.2)) :
    Deciding threshold acceptance b.drop.1 (d ++ Engine.unplaced b.drop.2) := by
  have hsilent : ∀ x ∈ Engine.unplaced b.drop.2, x.2.isSilent = true := by
    intro x hx
    obtain ⟨effect, heffect, rfl⟩ := List.mem_map.mp hx
    obtain ⟨event, rfl⟩ := drop_effects b effect heffect
    rfl
  cases hstage : b.stage with
  | kept => exact absurd hstage h.begun
  | reducing goal progress =>
    have hdropped : b.drop.1.stage = .dropped := by simp [Batch.drop, hstage]
    refine ⟨h.ledger.move hmove, hmove.persists.handler.trans h.handler,
      unjudged_append h.unjudged hsilent, .dropped hdropped ?_⟩
    rw [Doings.decisions_append, (h.pending hstage).2, Doings.decisions_of_silent hsilent]
    rfl
  | reduced _ | dropped =>
    have hstays : b.drop = (b, []) := by simp [Batch.drop, hstage]
    rw [hstays]
    simpa [Engine.unplaced] using h

/-- A turn of the reducer waits, takes an outcome or decides. -/
theorem Deciding.turn {e : Engine} {effects : List Effect} (h : Deciding threshold acceptance b d)
    (hturn : b.Turn e.toClock e.tokens after effects)
    (hmove : b.Move e after (Engine.unplaced effects)) :
    Deciding threshold acceptance after (d ++ Engine.unplaced effects) := by
  cases hturn with
  | idle => exact h.silent hmove rfl rfl (by simp [Engine.unplaced])
  | @complete goal progress hstage _ =>
    obtain ⟨rfl, _⟩ := h.pending hstage
    exact h.finish [] hstage hmove
  | @cutShort goal progress hstage _ _ =>
    obtain ⟨rfl, _⟩ := h.pending hstage
    exact h.finish _ hstage hmove
  | @take goal progress o rest hstage _ _ _ =>
    obtain ⟨rfl, hnone⟩ := h.pending hstage
    -- Taking an outcome says nothing by itself: it only goes on.
    refine ⟨h.ledger.move hmove, hmove.persists.handler.trans h.handler,
      unjudged_append h.unjudged ?_, .pending rfl ?_⟩
    · simp [consume, Engine.unplaced, Effect.isSilent, Effect.decision?, Effect.isJudgement]
    · rw [Doings.decisions_append, hnone]
      rfl

/-- Every move leaves the batch of a replicated operation what it is. -/
theorem Deciding.move {e : Engine} (h : Deciding threshold acceptance b d)
    (hmove : b.Move e after k) : Deciding threshold acceptance after (d ++ k) := by
  have hsame := hmove
  cases hmove with
  | rest => exact h.silent hsame rfl rfl (by simp)
  | signal position s =>
    refine h.silent hsame (signal_stage b e position s) ?_ ?_
    · rw [Doings.consumed_here]
      refine List.filterMap_eq_nil_iff.mpr fun x hx => ?_
      rcases signal_effects hx with hown | ⟨o, posting, rfl⟩
      · exact Effect.consumed?_of_isOwn hown
      · rfl
    · intro x hx
      obtain ⟨effect, heffect, rfl⟩ := List.mem_map.mp hx
      rcases signal_effects heffect with hown | ⟨o, posting, rfl⟩
      · exact Effect.isSilent_of_isOwn hown
      · rfl
  | cancel =>
    refine h.silent hsame (release_stage b) rfl ?_
    simp [Effect.isSilent, Effect.decision?, Effect.isJudgement]
  | begin goal =>
    have hstage : (b.begin goal).stage = b.stage := by
      unfold begin
      split
      · exact absurd ‹_› h.begun
      · rfl
    exact h.silent hsame hstage rfl (by simp)
  | drop => exact h.drop hsame
  | poll hturn => exact h.turn hturn hsame

/-- What a decided batch has returned is an exact report, and its verdict was announced. -/
theorem Deciding.exact {r : Reduction} (h : Deciding threshold acceptance b d)
    (hr : b.stage = .reduced r) :
    ∃ report : QuorumReport, r = .reported report ∧
      report.Exact threshold acceptance b.size d.consumed ∧ d.decisions = [report.isMet] := by
  cases h.decision with
  | pending hstage _ | dropped hstage _ => rw [hr] at hstage; cases hstage
  | @reported report hreport hstage hdecisions =>
    rw [hr] at hstage
    obtain rfl := Stage.reduced.inj hstage
    refine ⟨report, rfl, ?_, hdecisions⟩
    rw [hreport]
    exact QuorumReport.ofOutcomes_exact threshold acceptance h.ledger.consumed_le

/-- A batch that has returned nothing has announced nothing. -/
theorem Deciding.undecided (h : Deciding threshold acceptance b d)
    (hopen : ∀ r, b.stage ≠ .reduced r) : d.decisions = [] := by
  cases h.decision with
  | pending _ hnone | dropped _ hnone => exact hnone
  | reported _ hstage _ => exact absurd hstage (hopen _)

/-- The batch that a replicated operation begins is of this kind. -/
theorem deciding_of_birth {e : Engine} {op : Operation} {targets ts : List Target}
    (hbirth : Engine.Birth e (.replicate op targets threshold acceptance) ts b d) :
    Deciding threshold acceptance b d := by
  obtain ⟨preparations, hnew⟩ := hbirth.newborn
  have hsilent : ∀ x ∈ d, x.2.isSilent = true := fun x hx =>
    Effect.isSilent_of_isDispatching (hnew.dispatching x hx)
  have hunjudged := unjudged_append (d := []) (by simp) hsilent
  cases hbirth with
  | replicate =>
    obtain ⟨hbatch, _⟩ := e.begun_enqueue { op with handler := none } targets
    have hhandler := (begin_keeps (e.begun { op with handler := none } targets).1
      (.decide threshold acceptance)).handler
    have hreducing : ((e.begun { op with handler := none } targets).1.begin
        (.decide threshold acceptance)).stage =
          .reducing (.decide threshold acceptance) Progress.start := by
      rw [hbatch]
      rfl
    refine ⟨ledger_of_newborn hnew, ?_, hunjudged,
      .pending hreducing (Doings.decisions_of_silent hsilent)⟩
    rw [hhandler, hbatch]
    rfl

/-! ## §3 Reducers return -/

/-- A reducer waits only for a live worker, and until it is woken. -/
theorem next_ne_pending {c : Clock} {tokens : List String}
    (hready : b.hasLive = false ∨ b.isAlarmed c tokens = true) :
    b.next c tokens ≠ .pending := by
  intro hpending
  rcases next_cases b c tokens with
    ⟨hnext | hnext, _⟩ | ⟨hcalm, ⟨_, _, hnext, _⟩ | ⟨_, _, hlive⟩ | ⟨hnext, _⟩⟩
  case inr.inr.inl =>
    rcases hready with hnobody | hstop
    · rw [hlive] at hnobody
      cases hnobody
    · rw [hcalm] at hstop
      cases hstop
  all_goals rw [hnext] at hpending; cases hpending

/-- A turn of a reducer that need not wait returns or takes an outcome. -/
theorem poll_advances {c : Clock} {tokens : List String} {goal : Goal} {progress : Progress}
    (hstage : b.stage = .reducing goal progress) (hready : b.next c tokens ≠ .pending) :
    (∃ r, (b.poll c tokens).1.stage = .reduced r) ∨
      ∃ next : Progress, (b.poll c tokens).1.stage = .reducing goal next ∧
        next.consumed.length = progress.consumed.length + 1 ∧
        progress.consumed.length < b.size := by
  have hfinish (interrupted : Bool) :
      ∃ r, (b.finish goal progress interrupted).1.stage = .reduced r :=
    ⟨_, by rw [finish_eq_close, close_stage]⟩
  unfold poll
  simp only [hstage]
  by_cases hdone : b.size ≤ progress.consumed.length
  · simpa only [hdone, if_true] using .inl (hfinish false)
  simp only [hdone, if_false]
  rcases next_cases b c tokens with ⟨hnext | hnext, _⟩ | ⟨hcalm, hfound⟩
  · simpa only [hnext] using .inl (hfinish true)
  · simpa only [hnext] using .inl (hfinish true)
  rcases hfound with ⟨o, rest, hnext, _⟩ | ⟨hnext, _⟩ | ⟨hnext, _⟩
  · simp only [hnext]
    rcases consume_taken { b with channel := rest, stage := .reducing goal progress } goal progress
      o with ⟨hconsumed, hafter, _⟩ | ⟨_, _, hafter, _, _⟩
    · exact .inr ⟨_, hafter, by rw [hconsumed, List.length_append]; rfl, by omega⟩
    · exact .inl ⟨_, hafter⟩
  · exact absurd hnext hready
  · simpa only [hnext] using .inl (hfinish true)

end Batch

namespace Engine

variable {client : Client} {now : Instant}

/-- Turns bring a reducer that has nothing to wait for to its end. -/
theorem run_returns {e : Engine} {number : Nat} {b : Batch} {goal : Goal} {progress : Progress}
    (hb : e.batches[number]? = some b) (hstage : b.stage = .reducing goal progress)
    (hready : b.hasLive = false ∨ b.isAlarmed e.toClock e.tokens = true) :
    ∃ turns later r, (e.run (List.replicate turns (.poll number))).1.batches[number]? = some later ∧
      later.stage = .reduced r := by
  -- Every turn takes one of the outcomes that are left, if it does not return.
  induction hleft : b.size - progress.consumed.length using Nat.strongRecOn
    generalizing e b progress with
  | ind left ih =>
    obtain ⟨hafter, _⟩ := step_share hb (.poll number)
    have hreact : (b.react e number (.poll number)).1 = (b.poll e.toClock e.tokens).1 := by
      simp [Batch.react]
    rw [hreact] at hafter
    rcases Batch.poll_advances hstage (Batch.next_ne_pending hready) with
      ⟨r, hreduced⟩ | ⟨next, hnext, hmore, hlt⟩
    · exact ⟨1, _, r, hafter, hreduced⟩
    · have hkept := Batch.poll_keeps e.toClock e.tokens b
      have hready' : (b.poll e.toClock e.tokens).1.hasLive = false ∨
          (b.poll e.toClock e.tokens).1.isAlarmed (e.step (.poll number)).1.toClock
            (e.step (.poll number)).1.tokens = true := by
        refine hready.imp (fun hnobody => ?_) fun halarm =>
          Batch.alarmed_step halarm hkept.persists (.poll number)
        rw [Batch.hasLive, hkept.workers]
        exact hnobody
      have hless : (b.poll e.toClock e.tokens).1.size - next.consumed.length < left := by
        rw [hkept.size]
        omega
      obtain ⟨turns, later, r, hlater, hreduced⟩ := ih _ hless hafter hnext hready' rfl
      exact ⟨turns + 1, later, r, by simpa [List.replicate_succ, run] using hlater, hreduced⟩

/-- Every reducer comes to its end when it waits for the timer for the deadline. -/
theorem run_returns_after_wait {e : Engine} {number : Nat} {b : Batch} {goal : Goal}
    {progress : Progress} (hb : e.batches[number]? = some b)
    (hstage : b.stage = .reducing goal progress) :
    ∃ wait turns later r, (e.run (.advance wait :: .tick ::
        List.replicate turns (.poll number))).1.batches[number]? = some later ∧
      later.stage = .reduced r := by
  obtain ⟨hthere, hfired⟩ := run_wait hb b.plan.deadline
  obtain ⟨turns, later, r, hlater, hreduced⟩ :=
    run_returns hthere hstage (.inr (by simp [Batch.isAlarmed, hfired]))
  exact ⟨_, turns, later, r, hlater, hreduced⟩

/-! ## §4 Handlers are ignored -/

/-- A handler of a replicated operation makes no difference but for what is told about it. -/
theorem step_replicate (e : Engine) (op : Operation) (handler : Option Handler)
    (targets : List Target) (threshold : Threshold) (acceptance : Acceptance) :
    e.step (.replicate { op with handler } targets threshold acceptance) =
      ((e.step (.replicate { op with handler := none } targets threshold acceptance)).1,
        e.records e.batches.length (ignored { op with handler }) ++
          (e.step (.replicate { op with handler := none } targets threshold acceptance)).2) := by
  cases handler <;> rfl

/-- In a run, too: from the beginning of the batch on, nothing depends on the handler. -/
theorem run_replicate (e : Engine) (op : Operation) (handler : Option Handler)
    (targets : List Target) (threshold : Threshold) (acceptance : Acceptance)
    (after : List Event) :
    let begun := e.step (.replicate { op with handler := none } targets threshold acceptance)
    e.run (.replicate { op with handler } targets threshold acceptance :: after) =
      ((begun.1.run after).1, e.records e.batches.length (ignored { op with handler }) ++
        (begun.2 ++ (begun.1.run after).2)) := by
  intro begun
  rw [run, step_replicate]
  simp only [List.append_assoc]
  rfl

/-! ## §5 Replicated runs -/

/-- What an effect decides is counted as met or as missed. -/
theorem sum_decisions (d : Doings) (way : Bool) :
    d.sum (Effect.ofDecision way) = d.decisions.count way := by
  unfold Doings.decisions
  induction d with
  | nil => rfl
  | cons x rest ih =>
    rw [Doings.sum_cons, ih]
    cases hx : x.2 with
    | decided met => by_cases hway : met = way <;> simp [hx, Effect.decision?, Effect.ofDecision,
        hway, Int.add_comm]
    | _ => simp [hx, Effect.decision?, Effect.ofDecision]

/-- The decisions of one batch, on top of those of the others. -/
theorem ofHistory_decisions (history : History) (number : Nat) :
    (Metrics.ofHistory history).quorumsMet =
        (Metrics.ofHistory (history.filter fun r => r.batch ≠ number)).quorumsMet +
          (history.of number).decisions.count true ∧
      (Metrics.ofHistory history).quorumsMissed =
        (Metrics.ofHistory (history.filter fun r => r.batch ≠ number)).quorumsMissed +
          (history.of number).decisions.count false := by
  constructor
  · have hsplit := history.sum_split (Effect.ofDecision true) number
    rw [sum_decisions, ← Metrics.reads_quorumsMet.ofHistory,
      ← Metrics.reads_quorumsMet.ofHistory] at hsplit
    omega
  · have hsplit := history.sum_split (Effect.ofDecision false) number
    rw [sum_decisions, ← Metrics.reads_quorumsMissed.ofHistory,
      ← Metrics.reads_quorumsMissed.ofHistory] at hsplit
    omega

/-- So it is with the counters that a client shows, if it counts at all. -/
theorem shown_decisions {history : History} {number : Nat} {decisions : List Bool} {enabled : Bool}
    (h : (history.of number).decisions = decisions) (hcounts : decisions = [] ∨ enabled = true) :
    let m := (Metrics.ofHistory history).shown enabled
    let others := (Metrics.ofHistory (history.filter fun r => r.batch ≠ number)).shown enabled
    m.quorumsMet = others.quorumsMet + decisions.count true ∧
      m.quorumsMissed = others.quorumsMissed + decisions.count false := by
  intro m others
  cases enabled with
  | true =>
    simp only [m, others, Metrics.shown_enabled, ← h]
    exact ofHistory_decisions history number
  | false =>
    -- A client that does not count shows the same for every history.
    rw [hcounts.resolve_right (by decide)]
    exact ⟨rfl, rfl⟩

/-- The batch of a replicated operation is of its kind in every run, and carries the targets. -/
theorem run_deciding (client : Client) (now : Instant) (before after : List Event)
    (op : Operation) (targets : List Target) (threshold : Threshold) (acceptance : Acceptance) :
    ∃ b, ((start client now).run (before ++ .replicate op targets threshold acceptance ::
        after)).1.batches[((start client now).run before).1.batches.length]? = some b ∧
      b.Deciding threshold acceptance (((start client now).run (before ++
        .replicate op targets threshold acceptance :: after)).2.of
          ((start client now).run before).1.batches.length) ∧
      b.workers.map Worker.target = targets := by
  refine run_of_birth (P := fun b d => b.Deciding threshold acceptance d ∧
    b.workers.map Worker.target = targets) before after rfl (fun b d hbirth => ?_)
    fun e b d later k hkept hmove => ?_
  · obtain ⟨preparations, hnew⟩ := hbirth.newborn
    exact ⟨Batch.deciding_of_birth hbirth, hnew.targets⟩
  · exact ⟨hkept.1.move hmove, hmove.persists.targets.trans hkept.2⟩

/-- What a replicated operation returns is a report. -/
theorem run_reported (client : Client) (now : Instant) (before after : List Event)
    (op : Operation) (targets : List Target) (threshold : Threshold) (acceptance : Acceptance)
    {more : List Event} {later : Batch} {r : Reduction} :
    let number := ((start client now).run before).1.batches.length
    let events := before ++ .replicate op targets threshold acceptance :: after
    (((start client now).run events).1.run more).1.batches[number]? = some later →
      later.stage = .reduced r →
      ∃ report, ((start client now).run (events ++ more)).1.batches[number]? = some later ∧
        later.stage = .reduced (.reported report) := by
  intro number events hlater hreduced
  obtain ⟨b, hb, hdeciding, _⟩ := run_deciding client now before (after ++ more) op targets
    threshold acceptance
  rw [← List.cons_append, ← List.append_assoc, run_append] at hb
  obtain rfl := Option.some.inj (hlater.symm.trans hb)
  obtain ⟨report, rfl, _⟩ := hdeciding.exact hreduced
  refine ⟨report, ?_, hreduced⟩
  rw [run_append]
  exact hlater

/-- **The quorum report is exact.**  In every run with a replicated operation, for all targets,
    thresholds and strategies of acceptance: what its reducer returns is a report that is exact
    about the outcomes that it has received; the verdict was announced once, and with counting
    enabled it adds one to the counter that agrees with it and nothing to the other; before the
    report nothing was announced or counted.  A reducer that has nothing to wait for comes to its
    report, and every reducer does so when it has waited for the timer for the deadline.  A response
    handler is never asked, and with another handler or none the same happens,
    but for the event that tells about it. -/
theorem run_replicates (client : Client) (now : Instant) (before after : List Event)
    (op : Operation) (targets : List Target) (threshold : Threshold) (acceptance : Acceptance) :
    let number := ((start client now).run before).1.batches.length
    let events := before ++ .replicate op targets threshold acceptance :: after
    let e := ((start client now).run events).1
    let history := ((start client now).run events).2
    let doings := history.of number
    let m := (Metrics.ofHistory history).shown client.metricsEnabled
    let others := (Metrics.ofHistory (history.filter fun r => r.batch ≠ number)).shown
      client.metricsEnabled
    ∃ b, e.batches[number]? = some b ∧
      (∀ r, b.stage = .reduced r → ∃ report : QuorumReport, r = .reported report ∧
        report.Exact threshold acceptance targets.length doings.consumed ∧
        doings.decisions = [report.isMet] ∧
        (client.metricsEnabled = true →
          m.quorumsMet = others.quorumsMet + report.isMet.toNat ∧
          m.quorumsMissed = others.quorumsMissed + (!report.isMet).toNat)) ∧
      ((∀ r, b.stage ≠ .reduced r) →
        doings.decisions = [] ∧ m.quorumsMet = others.quorumsMet ∧
          m.quorumsMissed = others.quorumsMissed) ∧
      (∀ goal progress, b.stage = .reducing goal progress →
        (b.hasLive = false ∨ b.isAlarmed e.toClock e.tokens = true →
          ∃ turns later report, ((start client now).run (events ++ List.replicate turns
              (.poll number))).1.batches[number]? = some later ∧
            later.stage = .reduced (.reported report)) ∧
        ∃ wait turns later report, ((start client now).run (events ++ .advance wait :: .tick ::
            List.replicate turns (.poll number))).1.batches[number]? = some later ∧
          later.stage = .reduced (.reported report)) ∧
      (∀ place index accepted cancel, (place, Effect.judged index accepted cancel) ∉ doings) ∧
      ∃ rest, ∀ handler, (start client now).run
          (before ++ .replicate { op with handler } targets threshold acceptance :: after) =
        (e, ((start client now).run before).2 ++
          ((start client now).run before).1.records number (ignored { op with handler }) ++
            rest) := by
  intro number events e history doings m others
  obtain ⟨b, hb, hdeciding, htargets⟩ := run_deciding client now before after op
    targets threshold acceptance
  have hsize : b.size = targets.length := by
    rw [← htargets, List.length_map]
    rfl
  refine ⟨b, hb, fun r hr => ?_, fun hopen => ?_, fun goal progress hstage =>
    ⟨fun hready => ?_, ?_⟩, ?_, ?_⟩
  · obtain ⟨report, rfl, hexact, hdecisions⟩ := hdeciding.exact hr
    refine ⟨report, rfl, hsize ▸ hexact, hdecisions, fun hmetrics => ?_⟩
    have hcounted : m.quorumsMet = others.quorumsMet + [report.isMet].count true ∧
        m.quorumsMissed = others.quorumsMissed + [report.isMet].count false :=
      shown_decisions hdecisions (.inr hmetrics)
    cases hmet : report.isMet <;> simpa [hmet] using hcounted
  · have hnone : doings.decisions = [] := hdeciding.undecided hopen
    exact ⟨hnone, shown_decisions hnone (.inl rfl)⟩
  · obtain ⟨turns, later, r, hlater, hreduced⟩ := run_returns hb hstage hready
    exact ⟨turns, later, run_reported client now before after op targets threshold acceptance
      hlater hreduced⟩
  · obtain ⟨wait, turns, later, r, hlater, hreduced⟩ := run_returns_after_wait hb hstage
    exact ⟨wait, turns, later, run_reported client now before after op targets threshold acceptance
      hlater hreduced⟩
  · intro place index accepted cancel hjudged
    have hunjudged := hdeciding.unjudged _ hjudged
    cases hunjudged
  · let first := ((start client now).run before).1
    let begun := first.step (.replicate { op with handler := none } targets threshold acceptance)
    have hrun (handler : Option Handler) : (start client now).run
          (before ++ .replicate { op with handler } targets threshold acceptance :: after) =
        ((begun.1.run after).1, ((start client now).run before).2 ++
          first.records number (ignored { op with handler }) ++
          (begun.2 ++ (begun.1.run after).2)) := by
      rw [run_append, run_replicate, List.append_assoc]
    -- The run with the handler of the operation is one of them.
    have hown : e = (begun.1.run after).1 := congrArg (·.1) (hrun op.handler)
    exact ⟨begun.2 ++ (begun.1.run after).2, fun handler => hown ▸ hrun handler⟩

/-- A request with a handler that refuses everything. -/
def refusedOperation : Operation := { Operation.new .get "x" with handler := some Handler.reject }

/-- Two targets of one index, and one between them whose request cannot be built. -/
def repeatedTargets : List Target := [⟨1, "http://a"⟩, ⟨0, "::"⟩, ⟨1, "http://b"⟩]

/-- Both workers end with a response, and the reducer takes all outcomes. -/
def decidedEvents : List Event :=
  [.signal 0 2 .turn, .signal 0 2 .turn, .signal 0 0 .turn, .signal 0 0 .turn, .poll 0,
    .signal 0 2 (.answer (.response ⟨Status.ok, .http11, Header.Map.empty⟩)), .signal 0 2 .bodyEnd,
    .signal 0 0 (.answer (.response ⟨Status.ok, .http11, Header.Map.empty⟩)), .signal 0 0 .bodyEnd,
    .poll 0, .poll 0, .poll 0]

/-- The operation on `repeatedTargets` is decided, whatever the handler would say, and counted. -/
theorem run_replicates_decided :
    let run := (start countingClient ⟨0⟩).run
      (.replicate refusedOperation repeatedTargets .majority .ok :: decidedEvents)
    let m := (Metrics.ofHistory run.2).shown countingClient.metricsEnabled
    ∃ b report, run.1.batches[0]? = some b ∧ b.stage = .reduced (.reported report) ∧
      report.Exact .majority .ok 3 (run.2.of 0).consumed ∧
      (run.2.of 0).decisions = [report.isMet] ∧
      m.quorumsMet = report.isMet.toNat ∧ m.quorumsMissed = (!report.isMet).toNat := by
  intro run m
  obtain ⟨b, hb, hreduced, -⟩ := run_replicates countingClient ⟨0⟩ [] decidedEvents
    refusedOperation repeatedTargets .majority .ok
  have hreported : (run.1.batches[0]?.any fun b => match b.stage with
      | .reduced (.reported _) => true
      | _ => false) = true := by decide +kernel
  have hlength : run.1.batches.length = 1 := by decide +kernel
  -- There is no other batch that could have been counted.
  have hothers : (run.2.filter fun r => r.batch ≠ 0) = [] := by
    refine List.filter_eq_nil_iff.mpr fun r hr => ?_
    have hlt := run_batch_lt _ r hr
    rw [hlength] at hlt
    simp only [ne_eq, decide_not, Bool.not_eq_true', decide_eq_false_iff_not, not_not]
    omega
  have hthere : run.1.batches[0]? = some b := hb
  rw [hthere, Option.any_some] at hreported
  split at hreported
  · rename_i report hstage
    obtain ⟨report', hsame, hexact, hdecisions, hcounted⟩ := hreduced _ hstage
    obtain rfl := Reduction.reported.inj hsame
    obtain ⟨hmet, hmissed⟩ := hcounted rfl
    let others := (Metrics.ofHistory (run.2.filter fun r => r.batch ≠ 0)).shown true
    change _ = others.quorumsMet + _ at hmet
    change _ = others.quorumsMissed + _ at hmissed
    simp only [others, hothers] at hmet hmissed
    exact ⟨b, report, hthere, hstage, hexact, hdecisions, hmet.trans (Nat.zero_add _),
      hmissed.trans (Nat.zero_add _)⟩
  · cases hreported

end Engine

end Replicast
