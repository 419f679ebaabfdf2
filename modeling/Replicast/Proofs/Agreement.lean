import Replicast.Proofs.Agreement.Course
import Replicast.Proofs.Attempts
import Replicast.Proofs.Independence.Undisturbed
import Replicast.Proofs.Promptness
/-!
# Rounds that agree

The verdict on a motion is up to what its targets get, and not to the order in which they report.

## Overview

* `Motion.AllReport` says that every target reports before the batch is interrupted, and
  `Motion.Arrived.consumed` that the reducer has received all reports then.
* `Motion.postedAt_agrees` is the agreement of two rounds about one target, and
  `Doings.posted_perm` brings the targets together.
* `QuorumReport.Exact.agrees` says that ties do not matter to a report.
* `Motion.verdicts_agree` is the result, and `Motion.Disagree` describes rounds without it.
-/

namespace Replicast

/-! ## §1 Posts by targets -/

namespace Doings

variable {d k : Doings} {size : Nat}

/-- How often an outcome was posted is spread among the targets. -/
theorem count_posted (hplaced : ∀ x ∈ d, x.2.posted? ≠ none → ∃ i < size, x.1 = some i)
    (o : Outcome) :
    d.posted.count o = ((List.range size).map fun i => (d.postedAt i).count o).sum := by
  have hspread := d.countP_effectsAt (p := fun x => x.posted? == some o) fun x hx hposted =>
    hplaced x hx (by rw [beq_iff_eq.mp hposted]; exact Option.some_ne_none o)
  have hcount {α : Type} (xs : List α) (f : α → Option Outcome) :
      (xs.filterMap f).count o = xs.countP fun x => f x == some o := by
    rw [List.count_eq_countP, List.countP_filterMap]
    refine List.countP_congr fun x _ => ?_
    cases f x <;> simp
  simp only [posted, postedAt, hcount]
  exact hspread

/-- When the same was posted for each target, the same was posted, if not in the same order. -/
theorem posted_perm (hd : ∀ x ∈ d, x.2.posted? ≠ none → ∃ i < size, x.1 = some i)
    (hk : ∀ x ∈ k, x.2.posted? ≠ none → ∃ i < size, x.1 = some i)
    (hsame : ∀ i < size, d.postedAt i = k.postedAt i) : d.posted.Perm k.posted := by
  refine List.perm_iff_count.mpr fun o => ?_
  rw [count_posted hd, count_posted hk]
  congr 1
  exact List.map_congr_left fun i hi => by rw [hsame i (List.mem_range.mp hi)]

end Doings

/-! ## §2 Rounds in which all report -/

open Engine Operation Batch

/-- A round that goes on. -/
def Round.more (r : Round) (events : List Event) : Round :=
  { r with after := r.after ++ events }

namespace Motion

variable {m : Motion} {r : Round} {report : QuorumReport}

theorem run_more (m : Motion) (r : Round) (events : List Event) :
    m.run (r.more events) =
      (((m.run r).1.run events).1, (m.run r).2 ++ ((m.run r).1.run events).2) := by
  rw [Motion.run, Round.more, ← List.cons_append, ← List.append_assoc, run_append]
  rfl

/-- What the batch of a round has done. -/
def doings (m : Motion) (r : Round) : Doings := (m.run r).2.of (m.number r)

/-- A round has come to a report. -/
def Reports (m : Motion) (r : Round) (report : QuorumReport) : Prop :=
  ((m.run r).1.batches[m.number r]?.bind Batch.reduction?) = some (.reported report)

theorem reports_iff {b : Batch} (hb : (m.run r).1.batches[m.number r]? = some b) :
    m.Reports r report ↔ b.stage = .reduced (.reported report) := by
  rw [Reports, hb, Option.bind_some, reduction?_eq_some]

/-- The reports of all targets reach the reducer. -/
inductive Arrived (m : Motion) (r : Round) : Prop where
  /-- The reducer has received every report. -/
  | received : (m.doings r).consumed.length = m.targets.length → Arrived m r
  /-- Every report is posted up to an instant before the reducer is woken, and time passes only when
      the reducer has nothing to do. -/
  | posted (time : Instant) :
      (m.engine r).now ≤ time →
      (m.engine r).abides (yields (m.number r)) (m.event :: r.after) = true →
      (m.engine r).abides (spares (m.number r) time) (m.event :: r.after) = true →
      ((m.run r).2.postedBy (m.number r) time).length = m.targets.length → Arrived m r

/-- Every target reports before the batch is interrupted: its report arrives, and it does not say
    that the batch was interrupted. -/
structure AllReport (m : Motion) (r : Round) : Prop where
  arrived : m.Arrived r
  calm : ∀ o ∈ (m.doings r).posted, o.isInterrupted = false

/-- The batch of a round, and the ledger and the decision of its reducer. -/
theorem exists_deciding (m : Motion) (r : Round) :
    ∃ b, (m.run r).1.batches[m.number r]? = some b ∧
      b.Deciding m.threshold m.acceptance (m.doings r) ∧ b.size = m.targets.length := by
  obtain ⟨b, hb, hdeciding, htargets⟩ := run_deciding m.client r.now r.before r.after m.op
    m.targets m.threshold m.acceptance
  refine ⟨b, hb, hdeciding, ?_⟩
  rw [← htargets, List.length_map]
  rfl

/-- When all report, everything was posted. -/
theorem Arrived.posted_length (h : m.Arrived r) :
    (m.doings r).posted.length = m.targets.length := by
  obtain ⟨b, _, hdeciding, hsize⟩ := m.exists_deciding r
  have hle := hdeciding.ledger.posted_le
  cases h with
  | received hall =>
    have htaken := hdeciding.ledger.taken.length_le
    omega
  | posted time _ _ _ hall =>
    have hinitial : (m.run r).2.postedBy (m.number r) time <+: (m.doings r).posted :=
      (run_postedBy m.client r.now (m.number r) time _).1
    have hposted := hinitial.length_le
    omega

/-- The reducer of a new batch has missed nothing. -/
theorem keeps_up_first {time : Instant} (hstart : (m.engine r).now ≤ time) :
    ∃ b, ((start m.client r.now).run (r.before ++ [m.event])).1.batches[m.number r]? = some b ∧
      b.KeepsUp (.decide m.threshold m.acceptance)
        (((start m.client r.now).run (r.before ++ [m.event])).2.of (m.number r))
        (((start m.client r.now).run (r.before ++ [m.event])).2.postedBy (m.number r) time)
        (time < ((start m.client r.now).run (r.before ++ [m.event])).1.now) := by
  have htargets : m.event.targets? = some m.targets := rfl
  obtain ⟨b, d, hbirth, hbatches, _⟩ := step_of_targets (m.engine r) htargets
  obtain ⟨preparations, hnew⟩ := hbirth.newborn
  have hdeciding := deciding_of_birth hbirth
  have hb : ((start m.client r.now).run (r.before ++ [m.event])).1.batches[m.number r]? =
      some b := by
    rw [run_concat]
    exact hbatches ▸ List.getElem?_concat_length
  refine ⟨b, hb, ?_⟩
  rcases hnew.stage with hkept | ⟨goal, hreducing⟩
  · exact absurd hkept hdeciding.begun
  · obtain ⟨rfl, _⟩ := hdeciding.pending hreducing
    refine .reducing hreducing (fun hfirst => by cases hfirst) fun hpassed => ?_
    rw [run_concat, step_now _ fun ms h => by cases h] at hpassed
    exact absurd hpassed (Nat.not_lt_of_le hstart)

/-- The reducer has received all reports when it returns its own. -/
theorem Arrived.consumed (h : m.Arrived r) (hr : m.Reports r report) :
    (m.doings r).consumed.length = m.targets.length := by
  cases h with
  | received hall => exact hall
  | posted time hstart hyields hspares hall =>
    obtain ⟨first, hfirst, hkeeps⟩ := keeps_up_first hstart
    simp only [abides, Bool.and_eq_true] at hyields hspares
    have hbegun : ((m.engine r).step m.event).1 =
        ((start m.client r.now).run (r.before ++ [m.event])).1 := by rw [run_concat]; rfl
    rw [hbegun] at hyields hspares
    obtain ⟨b, hb, hkeeps⟩ := run_goes_on hfirst hkeeps r.after hyields.2 hspares.2
    rw [← List.append_cons] at hb hkeeps
    obtain ⟨b', hb', hdeciding, hsize⟩ := m.exists_deciding r
    obtain rfl := Option.some.inj (hb.symm.trans hb')
    rw [reports_iff hb'] at hr
    obtain ⟨report', hsame, hexact, _⟩ := hdeciding.exact hr
    obtain rfl := Reduction.reported.inj hsame
    cases hkeeps with
    | reducing hstage _ _ | dropped hstage => rw [hr] at hstage; cases hstage
    | accepted hgoal _ _ => cases hgoal
    | finished progress interrupted hstage _ hdue _ =>
      -- The report is about all that was due, and about nothing that was not received.
      rw [hr] at hstage
      obtain rfl := Reduction.reported.inj (Stage.reduced.inj hstage)
      have hdue : m.targets.length ≤ progress.consumed.length := hall ▸ hdue.length_le
      have hordered : (QuorumReport.ofOutcomes m.threshold m.acceptance b.size
          progress.consumed).outcomes.length = progress.consumed.length :=
        (QuorumReport.inOrder_perm progress.consumed).length_eq
      have hreceived := hexact.outcomes.length_eq
      have hle := hexact.outcomes_le
      rw [hexact.replicas] at hle
      omega

/-- Nothing is received after everything was. -/
theorem consumed_more (hall : (m.doings r).consumed.length = m.targets.length)
    (events : List Event) : (m.doings (r.more events)).consumed = (m.doings r).consumed := by
  obtain ⟨b, _, hdeciding, hsize⟩ := m.exists_deciding (r.more events)
  have hle := hdeciding.ledger.consumed_le
  obtain ⟨later, hlater⟩ : ∃ later, m.doings (r.more events) = m.doings r ++ later :=
    ⟨_, by rw [doings, run_more, History.of_append]; rfl⟩
  rw [hlater, Doings.consumed_append] at hle ⊢
  rw [List.length_append, hall, hsize] at hle
  have hnothing : later.consumed = [] := List.eq_nil_of_length_eq_zero (by omega)
  rw [hnothing, List.append_nil]

/-- When everything was received, it is all that was posted. -/
theorem posted_of_consumed (hall : (m.doings r).consumed.length = m.targets.length) :
    (m.doings r).posted = (m.doings r).consumed := by
  obtain ⟨b, _, hdeciding, _⟩ := m.exists_deciding r
  refine (hdeciding.ledger.taken.eq_of_length ?_).symm
  rw [hall, (Arrived.received hall).posted_length]

theorem AllReport.of_received (hall : (m.doings r).consumed.length = m.targets.length)
    (hcalm : ∀ o ∈ (m.doings r).consumed, o.isInterrupted = false) (events : List Event) :
    m.AllReport (r.more events) := by
  have hsame := consumed_more hall events
  have hmore : (m.doings (r.more events)).consumed.length = m.targets.length :=
    (congrArg List.length hsame).trans hall
  refine ⟨.received hmore, ?_⟩
  rw [posted_of_consumed hmore, hsame]
  exact hcalm

/-! ## §3 Two rounds -/

/-- The answers that the target at a position gets, and whatever else its worker waits for. -/
def answers (m : Motion) (r : Round) (position : Nat) : List Signal :=
  (m.supplied r position).filterMap Supply.signal?

/-- What becomes of the copies of the body that are opened for the target at a position. -/
def copies (m : Motion) (r : Round) (position : Nat) : List (Option Error) :=
  (m.supplied r position).filterMap Supply.copy?

variable {r₁ r₂ : Round} {position : Nat}

theorem plan_eq (m : Motion) (r₁ r₂ : Round) :
    m.plan r₂ = { m.plan r₁ with deadline := (m.plan r₂).deadline } := by
  simp only [plan, fresh, engine_client]

variable {p₁ p₂ : Preparation}

/-- One target is prepared in both rounds, if not with the same number of openings. -/
theorem exists_prepare (hp₁ : (m.preparations r₁)[position]? = some p₁)
    (hp₂ : (m.preparations r₂)[position]? = some p₂) :
    ∃ t first second, p₁ = m.unhandled.prepare m.client t first ∧
      p₂ = m.unhandled.prepare m.client t second := by
  obtain ⟨t, first, ht, rfl⟩ := prepareAll_getElem? _ _ hp₁
  obtain ⟨t', second, ht', rfl⟩ := prepareAll_getElem? _ _ hp₂
  obtain rfl := Option.some.inj (ht.symm.trans ht')
  exact ⟨t, first, second, rfl, rfl⟩

/-- What a target gets when its request is built is the same in both rounds, and its later copies of
    the body open alike as before. -/
theorem supplies_agree (hp₁ : (m.preparations r₁)[position]? = some p₁)
    (hp₂ : (m.preparations r₂)[position]? = some p₂)
    (hcopies : m.op.body.IsRepeatable ∨ Alike (m.copies r₁ position) (m.copies r₂ position)) :
    p₁.supplies = p₂.supplies ∧
      (m.op.body.IsRepeatable ∨
        Alike ((m.suppliedLater r₁ position r₁.after).filterMap Supply.copy?)
          ((m.suppliedLater r₂ position r₂.after).filterMap Supply.copy?)) := by
  obtain ⟨t, first, second, hfirst, hsecond⟩ := exists_prepare hp₁ hp₂
  rcases hcopies with hbody | halike
  · have hput : m.unhandled.body.IsRepeatable := hbody
    rw [hfirst, hsecond, prepare_openings hput m.client t first second]
    exact ⟨rfl, .inl hbody⟩
  · have hlength : (p₁.supplies.filterMap Supply.copy?).length =
        (p₂.supplies.filterMap Supply.copy?).length := by
      rw [p₁.supplies_copies_length, p₂.supplies_copies_length, hfirst, hsecond]
      exact prepare_supplies_length _ _ _ _ _
    rw [copies, copies, supplied_eq hp₁, supplied_eq hp₂, List.filterMap_append,
      List.filterMap_append] at halike
    obtain ⟨hcopies, hlater⟩ := halike.of_append hlength
    refine ⟨?_, .inr hlater⟩
    rw [← p₁.supplies_copies, hcopies, p₂.supplies_copies]

/-- When the reducer has received everything, all workers have ended. -/
theorem ended_of_consumed {b : Batch} {w : Worker}
    (hall : (m.doings r).consumed.length = m.targets.length)
    (hb : (m.upTo r r.after).1.batches[m.number r]? = some b) (hw : w ∈ b.workers) :
    w.isLive = false := by
  obtain ⟨b', hb', hdeciding, hsize⟩ := m.exists_deciding r
  rw [Motion.run, run_before] at hb'
  obtain rfl := Option.some.inj (hb.symm.trans hb')
  have hposted := (Arrived.received hall).posted_length
  simpa using List.any_eq_false.mp
    (hdeciding.ledger.hasLive_eq_false (hposted.trans hsize.symm).ge) w hw

/-- When no outcome says that the batch was interrupted, none of one target does. -/
theorem calm_postedAt (hcalm : ∀ o ∈ (m.doings r).posted, o.isInterrupted = false) :
    ∀ o ∈ ((m.upTo r r.after).2.of (m.number r)).postedAt position, o.isInterrupted = false := by
  intro o ho
  rw [← run_of_number] at ho
  exact hcalm o (Doings.mem_posted_of_postedAt ho)

/-- Two rounds agree about a target that gets the same answers, and whose copies of the body open
    alike. -/
theorem postedAt_agrees (hall₁ : (m.doings r₁).consumed.length = m.targets.length)
    (hall₂ : (m.doings r₂).consumed.length = m.targets.length)
    (hcalm₁ : ∀ o ∈ (m.doings r₁).posted, o.isInterrupted = false)
    (hcalm₂ : ∀ o ∈ (m.doings r₂).posted, o.isInterrupted = false)
    (hposition : position < m.targets.length)
    (hanswers : Alike (m.answers r₁ position) (m.answers r₂ position))
    (hcopies : m.op.body.IsRepeatable ∨ Alike (m.copies r₁ position) (m.copies r₂ position)) :
    (m.doings r₁).postedAt position = (m.doings r₂).postedAt position := by
  have hthere (r : Round) : ∃ p, (m.preparations r)[position]? = some p :=
    ⟨_, List.getElem?_eq_getElem (by simpa [preparations] using hposition)⟩
  obtain ⟨p₁, hp₁⟩ := hthere r₁
  obtain ⟨p₂, hp₂⟩ := hthere r₂
  obtain ⟨hsupplies, hlater⟩ := supplies_agree hp₁ hp₂ hcopies
  obtain ⟨t, first, second, rfl, rfl⟩ := exists_prepare hp₁ hp₂
  -- Both workers begin at the same origin, and what they get later is alike.
  obtain ⟨hworker, hfailure⟩ := prepare_agrees _ _ _ (m.plan r₁) hsupplies
  rw [answers, answers, supplied_eq hp₁, supplied_eq hp₂, List.filterMap_append,
    List.filterMap_append, Preparation.supplies_signals, Preparation.supplies_signals,
    List.nil_append, List.nil_append] at hanswers
  obtain ⟨b₁, hb₁, w₁, hw₁, hbrought₁⟩ := exists_brought hp₁ (calm_postedAt hcalm₁)
  obtain ⟨b₂, hb₂, w₂, hw₂, hbrought₂⟩ := exists_brought hp₂ (calm_postedAt hcalm₂)
  rw [m.plan_eq r₁ r₂] at hbrought₂
  have hbrought₂ := hbrought₂.of_deadline
  rw [hworker, hfailure] at hbrought₁
  have halike := hbrought₁.fitted.alike hbrought₂.fitted hanswers hlater
  have hsame := hbrought₁.agrees hbrought₂
    (ended_of_consumed hall₁ hb₁ (List.mem_of_getElem? hw₁))
    (ended_of_consumed hall₂ hb₂ (List.mem_of_getElem? hw₂)) halike
  rw [doings, doings, Motion.run, Motion.run, run_of_number, run_of_number]
  exact hsame

/-- Whatever the reducer of a round has returned is a report. -/
theorem exists_report
    (h : ((m.run r).1.batches[m.number r]?.bind Batch.reduction?).isSome = true) :
    ∃ report, m.Reports r report := by
  obtain ⟨b, hb, hdeciding, _⟩ := m.exists_deciding r
  obtain ⟨result, hresult⟩ := Option.isSome_iff_exists.mp h
  rw [hb, Option.bind_some, reduction?_eq_some] at hresult
  obtain ⟨report, rfl, _⟩ := hdeciding.exact hresult
  exact ⟨report, (reports_iff hb).mpr hresult⟩

/-- A report is exact about what the reducer has received. -/
theorem Reports.exact (hr : m.Reports r report) :
    report.Exact m.threshold m.acceptance m.targets.length (m.doings r).consumed := by
  obtain ⟨b, hb, hdeciding, hsize⟩ := m.exists_deciding r
  rw [reports_iff hb] at hr
  obtain ⟨report', hsame, hexact, _⟩ := hdeciding.exact hr
  obtain rfl := Reduction.reported.inj hsame
  exact hsize ▸ hexact

/-- Two rounds in which everything was received agree about what was received, if not about its
    order. -/
theorem consumed_perm (hall₁ : (m.doings r₁).consumed.length = m.targets.length)
    (hall₂ : (m.doings r₂).consumed.length = m.targets.length)
    (hcalm₁ : ∀ o ∈ (m.doings r₁).posted, o.isInterrupted = false)
    (hcalm₂ : ∀ o ∈ (m.doings r₂).posted, o.isInterrupted = false)
    (hanswers : ∀ i < m.targets.length, Alike (m.answers r₁ i) (m.answers r₂ i))
    (hcopies : m.op.body.IsRepeatable ∨
      ∀ i < m.targets.length, Alike (m.copies r₁ i) (m.copies r₂ i)) :
    (m.doings r₁).consumed.Perm (m.doings r₂).consumed := by
  have hplaced (r : Round) : ∀ x ∈ m.doings r, x.2.posted? ≠ none →
      ∃ i < m.targets.length, x.1 = some i := by
    obtain ⟨b, _, hdeciding, hsize⟩ := m.exists_deciding r
    exact hsize ▸ hdeciding.ledger.placed
  rw [← posted_of_consumed hall₁, ← posted_of_consumed hall₂]
  exact Doings.posted_perm (hplaced r₁) (hplaced r₂) fun i hi =>
    postedAt_agrees hall₁ hall₂ hcalm₁ hcalm₂ hi (hanswers i hi) (hcopies.imp id fun h => h i hi)

end Motion

namespace QuorumReport.Exact

variable {r r₁ r₂ : QuorumReport} {threshold : Threshold} {acceptance : Acceptance} {size : Nat}
  {received received₁ received₂ : List Outcome} {indices : List Nat}

/-- The replicas that accepted are those of the received outcomes that the strategy accepts. -/
theorem accepted_perm (h : r.Exact threshold acceptance size received) :
    r.accepted.Perm ((received.filter acceptance).map (·.target.index)) := by
  rw [h.accepted]
  exact (h.outcomes.filter _).map _

theorem accepted_ordered (h : r.Exact threshold acceptance size received) :
    r.accepted.Pairwise (· ≤ ·) := by
  rw [h.accepted, List.pairwise_map]
  exact h.ordered.sublist List.filter_sublist

/-- Ties make no difference to the indices, once they are in order. -/
theorem accepted_eq (h : r.Exact threshold acceptance size received)
    (hperm : ((received.filter acceptance).map (·.target.index)).Perm indices)
    (hordered : indices.Pairwise (· ≤ ·)) : r.accepted = indices :=
  List.Perm.eq_of_pairwise (fun _ _ _ _ => Nat.le_antisymm) h.accepted_ordered hordered
    (h.accepted_perm.trans hperm)

/-- **Exact reports about the same outcomes say the same**, in whichever order they were
    received. -/
theorem agrees (h₁ : r₁.Exact threshold acceptance size received₁)
    (h₂ : r₂.Exact threshold acceptance size received₂) (hperm : received₁.Perm received₂) :
    r₁.tally.achieved = r₂.tally.achieved ∧ r₁.tally.required = r₂.tally.required ∧
      r₁.accepted = r₂.accepted ∧ r₁.isMet = r₂.isMet := by
  have hrequired : r₁.tally.required = r₂.tally.required := by
    rw [h₁.required, h₂.required, h₁.replicas, h₂.replicas]
  have haccepted : r₁.accepted = r₂.accepted :=
    h₁.accepted_eq (((hperm.filter _).map _).trans h₂.accepted_perm.symm) h₂.accepted_ordered
  have hachieved : r₁.tally.achieved = r₂.tally.achieved := by
    rw [h₁.achieved, h₂.achieved, haccepted]
  refine ⟨hachieved, hrequired, haccepted, Bool.eq_iff_iff.mpr ?_⟩
  rw [h₁.isMet, h₂.isMet, hachieved, hrequired]

end QuorumReport.Exact

namespace Motion

variable {m : Motion}

/-- **The verdict does not depend on the order of arrival.**  A round in which all targets report
    comes to a report of its own by turns of the reducer, unless it is dropped.  And any two reports
    say the same about how many replicas accepted, how many are required, which ones accepted, and
    whether the quorum is met, when all targets report before the interruption, every target gets
    the same answers, as far as it gets any, and copies of the body open alike: they always do for a
    repeatable body. -/
theorem verdicts_agree (m : Motion) :
    (∀ r, m.AllReport r → ∃ b, (m.run r).1.batches[m.number r]? = some b ∧
      (b.stage = .dropped ∨
        ∃ turns report, m.Reports (r.more (List.replicate turns (.poll (m.number r)))) report)) ∧
    ∀ r₁ r₂ report₁ report₂, m.Reports r₁ report₁ → m.Reports r₂ report₂ →
      m.AllReport r₁ → m.AllReport r₂ →
      (∀ i < m.targets.length, Alike (m.answers r₁ i) (m.answers r₂ i)) →
      (m.op.body.IsRepeatable ∨ ∀ i < m.targets.length, Alike (m.copies r₁ i) (m.copies r₂ i)) →
      report₁.tally.achieved = report₂.tally.achieved ∧
        report₁.tally.required = report₂.tally.required ∧
        report₁.accepted = report₂.accepted ∧ report₁.isMet = report₂.isMet := by
  constructor
  · intro r hall
    obtain ⟨b, hb, hdeciding, hsize⟩ := m.exists_deciding r
    refine ⟨b, hb, ?_⟩
    cases hdeciding.decision with
    | dropped hstage _ => exact .inl hstage
    | @reported report _ hstage _ =>
      have hnone : r.more [] = r := by simp [Round.more]
      exact .inr ⟨0, report, hnone.symm ▸ (reports_iff hb).mpr hstage⟩
    | @pending progress hstage _ =>
      -- All workers have ended, so that the reducer has nothing to wait for.
      have hended :=
        hdeciding.ledger.hasLive_eq_false (hall.arrived.posted_length.trans hsize.symm).ge
      obtain ⟨turns, later, result, hlater, hreduced⟩ := run_returns hb hstage (.inl hended)
      have hthere : (m.run (r.more (List.replicate turns (.poll (m.number r))))).1.batches[
          m.number r]? = some later := by
        rw [run_more]
        exact hlater
      obtain ⟨report, hreport⟩ := exists_report (m := m)
        (r := r.more (List.replicate turns (.poll (m.number r)))) (by
          rw [show m.number (r.more _) = m.number r from rfl, hthere, Option.bind_some,
            reduction?_eq_some.mpr hreduced]
          rfl)
      exact .inr ⟨turns, report, hreport⟩
  · intro r₁ r₂ report₁ report₂ hr₁ hr₂ hall₁ hall₂ hanswers hcopies
    exact hr₁.exact.agrees hr₂.exact (consumed_perm (hall₁.arrived.consumed hr₁)
      (hall₂.arrived.consumed hr₂) hall₁.calm hall₂.calm hanswers hcopies)

/-- What a worker hears, signal by signal. -/
def hearing (number position : Nat) (signals : List Signal) : List Event :=
  signals.map (.signal number position)

/-- A response without headers. -/
def bareAnswer (status : Status) : Signal :=
  .answer (.response ⟨status, .http11, Header.Map.empty⟩)

/-- 503: the server cannot serve the request now. -/
def unavailable : Status := ⟨503, by decide⟩

/-- The answers to three targets: one accepts, one accepts when it is asked again, and the worker of
    the third one panics. -/
def threeAnswers : List (List Signal) :=
  [[.turn, .turn, bareAnswer .ok, .bodyEnd],
    [.turn, .turn, bareAnswer unavailable, .turn, bareAnswer .ok, .bodyEnd],
    [.turn, .turn, .panic]]

/-- A motion that is put to them.  Two of them have the same index. -/
def threeReplicas : Motion where
  client := (ClientBuilder.ofConfig .standard).build
  op := { Operation.new .put "x" with body := .buffered [1, 2] }
  targets := [⟨1, "http://a"⟩, ⟨0, "http://b"⟩, ⟨1, "http://c"⟩]
  threshold := .majority
  acceptance := .ok

/-- They report one after the other. -/
def inTurn : Round where
  now := ⟨0⟩
  before := []
  after := hearing 0 0 threeAnswers[0] ++ [.poll 0, .advance (.ofMillis 5)] ++
    hearing 0 1 threeAnswers[1] ++ [.poll 0, .advance (.ofMillis 5)] ++
    hearing 0 2 threeAnswers[2] ++ [.poll 0]

/-- They report at once and the other way round, after another batch was begun. -/
def inReverse : Round where
  now := ⟨7⟩
  before := [.dispatch (.new .get "y") [⟨0, "http://d"⟩], .advance (.ofMillis 3)]
  after := hearing 1 2 threeAnswers[2] ++ hearing 1 1 threeAnswers[1] ++
    hearing 1 0 threeAnswers[0] ++ [.poll 1, .poll 1, .poll 1]

/-- Both rounds come to a report, and the same replicas have accepted. -/
theorem verdicts_agree_reversed :
    ∃ report₁ report₂, threeReplicas.Reports (inTurn.more [.poll 0]) report₁ ∧
      threeReplicas.Reports (inReverse.more [.poll 1, .cancel 1]) report₂ ∧
      threeReplicas.AllReport (inTurn.more [.poll 0]) ∧
      threeReplicas.AllReport (inReverse.more [.poll 1, .cancel 1]) ∧
      threeReplicas.op.body.IsRepeatable ∧ report₁.accepted = [0, 1] ∧
      report₁.accepted = report₂.accepted ∧ report₁.isMet = report₂.isMet := by
  obtain ⟨report₁, hr₁⟩ : ∃ report, threeReplicas.Reports (inTurn.more [.poll 0]) report :=
    exists_report (by decide +kernel)
  obtain ⟨report₂, hr₂⟩ :
      ∃ report, threeReplicas.Reports (inReverse.more [.poll 1, .cancel 1]) report :=
    exists_report (by decide +kernel)
  have hfirst : (threeReplicas.doings inTurn).consumed.length = 3 := by decide +kernel
  have hsecond : (threeReplicas.doings inReverse).consumed.length = 3 := by decide +kernel
  have hall₁ := AllReport.of_received hfirst (by decide +kernel) [.poll 0]
  have hall₂ := AllReport.of_received hsecond (by decide +kernel) [.poll 1, .cancel 1]
  have hbody : threeReplicas.op.body.IsRepeatable := fun _ _ => rfl
  have hanswers : ∀ i < 3, Alike (threeReplicas.answers (inTurn.more [.poll 0]) i)
      (threeReplicas.answers (inReverse.more [.poll 1, .cancel 1]) i) := by decide +kernel
  obtain ⟨_, _, haccepted, hmet⟩ :=
    threeReplicas.verdicts_agree.2 _ _ _ _ hr₁ hr₂ hall₁ hall₂ hanswers (.inl hbody)
  have hindices : ((threeReplicas.doings inTurn).consumed.filter threeReplicas.acceptance).map
      (·.target.index) = [1, 0] := by decide +kernel
  refine ⟨report₁, report₂, hr₁, hr₂, hall₁, hall₂, hbody, ?_, haccepted, hmet⟩
  refine hr₁.exact.accepted_eq ?_ (by decide)
  rw [consumed_more hfirst, hindices]
  decide

/-- Two rounds in which all targets report and get the same answers, as far as they get any, accept
    one replica each, and not the same one. -/
structure Disagree (m : Motion) (r₁ r₂ : Round) : Prop where
  answers : ∀ i < m.targets.length, Alike (m.answers r₁ i) (m.answers r₂ i)
  reported : m.AllReport r₁ ∧ m.AllReport r₂
  verdicts : ∃ report₁ report₂, m.Reports r₁ report₁ ∧ m.Reports r₂ report₂ ∧
    report₁.accepted = [0] ∧ report₂.accepted = [1]

/-- What has to be evaluated for it. -/
theorem disagree_of_received {events : List Event}
    (hanswers : ∀ i < m.targets.length,
      Alike (m.answers (r₁.more events) i) (m.answers (r₂.more events) i))
    (hall₁ : (m.doings r₁).consumed.length = m.targets.length)
    (hall₂ : (m.doings r₂).consumed.length = m.targets.length)
    (hcalm₁ : ∀ o ∈ (m.doings r₁).consumed, o.isInterrupted = false)
    (hcalm₂ : ∀ o ∈ (m.doings r₂).consumed, o.isInterrupted = false)
    (hreturned₁ : ((m.run (r₁.more events)).1.batches[m.number r₁]?.bind
      Batch.reduction?).isSome = true)
    (hreturned₂ : ((m.run (r₂.more events)).1.batches[m.number r₂]?.bind
      Batch.reduction?).isSome = true)
    (haccepted₁ : ((m.doings r₁).consumed.filter m.acceptance).map (·.target.index) = [0])
    (haccepted₂ : ((m.doings r₂).consumed.filter m.acceptance).map (·.target.index) = [1]) :
    m.Disagree (r₁.more events) (r₂.more events) := by
  obtain ⟨report₁, hr₁⟩ := exists_report hreturned₁
  obtain ⟨report₂, hr₂⟩ := exists_report hreturned₂
  refine ⟨hanswers, ⟨.of_received hall₁ hcalm₁ events, .of_received hall₂ hcalm₂ events⟩, report₁,
    report₂, hr₁, hr₂, hr₁.exact.accepted_eq ?_ (List.pairwise_singleton _ _),
    hr₂.exact.accepted_eq ?_ (List.pairwise_singleton _ _)⟩
  · rw [consumed_more hall₁, haccepted₁]
  · rw [consumed_more hall₂, haccepted₂]

/-- A write to two replicas, with a body that is made afresh for every copy. -/
def contest (openings : Nat → Except String Stream) (acceptance : Acceptance) : Motion where
  client := (ClientBuilder.ofConfig .standard).build
  op := { Operation.new .put "x" with body := .factory openings }
  targets := [⟨0, "http://a"⟩, ⟨1, "http://b"⟩]
  threshold := .majority
  acceptance

/-- Both replicas are unavailable at first, one a millisecond before the other, and then they
    serve the request if it is sent again. -/
def contestRound (first second : Nat) : Round where
  now := ⟨0⟩
  before := []
  after := hearing 0 first [.turn, .turn] ++ hearing 0 second [.turn, .turn] ++
    .advance (.ofMillis 1) :: hearing 0 first [bareAnswer unavailable, .turn] ++
    .advance (.ofMillis 1) :: hearing 0 second [bareAnswer unavailable, .turn] ++
    hearing 0 first [bareAnswer .ok, .bodyEnd] ++ hearing 0 second [bareAnswer .ok, .bodyEnd] ++
    [.poll 0, .poll 0]

/-- A body that can be made three times. -/
def threeCopies (number : Nat) : Except String Stream :=
  if number < 3 then .ok [] else .error "spent"

/-- A body that can be made twice, and then it cannot be made for one reason or another. -/
def twoCopies (number : Nat) : Except String Stream :=
  if number < 2 then .ok [] else if number = 2 then .error "busy" else .error "gone"

/-- Accept outcomes for which there was no copy of the body for some reason. -/
def uncopied (cause : String) : Acceptance := fun o =>
  o.error == some (.bodyReplay o.request.method o.request.redactedUri cause)

/-- Where copies of the body do not open alike, the order of arrival decides: the third copy is for
    the replica that answers first.  So it is when there is no copy for the other one, and also when
    there is none for either of them and both get exactly the same answers. -/
theorem copies_decide :
    let first := (contestRound 0 1).more [.poll 0]
    let second := (contestRound 1 0).more [.poll 0]
    (contest threeCopies .ok).Disagree first second ∧
      (contest twoCopies (uncopied "busy")).Disagree first second ∧
      ∀ i < 2, (contest twoCopies (uncopied "busy")).answers first i =
        (contest twoCopies (uncopied "busy")).answers second i := by
  intro first second
  refine ⟨disagree_of_received ?_ ?_ ?_ ?_ ?_ ?_ ?_ ?_ ?_,
    disagree_of_received ?_ ?_ ?_ ?_ ?_ ?_ ?_ ?_ ?_, ?_⟩
  all_goals decide +kernel

end Motion

end Replicast
