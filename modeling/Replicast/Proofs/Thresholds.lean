import Mathlib.Data.List.Induction
import Replicast.Proofs.Replication
/-!
# One run under several thresholds

What a threshold decides is the verdict and nothing else: under another threshold the same events
lead to the same outcomes, in the same turn.  So thresholds can be compared on whole runs.

## Overview

* `QuorumReport.under`, `Batch.under` and `Engine.under` put another threshold in the place of that
  of one replicated operation.
* `Batch.react_under` and `Engine.step_under` say that this commutes with every event.
* `Replication` is a run with the threshold of an operation left open, and `Replication.run_under`
  says what one of its runs tells about another.
* `Replication.thresholds_ordered` is the result.
-/

namespace Replicast

/-! ## §1 Verdicts -/

/-- A tally of votes from its beginning. -/
theorem Tally.recordAll_start (required : Nat) (votes : List Bool) :
    (start required).recordAll votes = ⟨votes.count true, required⟩ := by
  have hachieved := recordAll_achieved (start required) votes
  have hrequired := recordAll_required (start required) votes
  cases hall : (start required).recordAll votes with
  | mk achieved required' =>
    rw [hall] at hachieved hrequired
    simp_all [start]

/-- The same report with another threshold. -/
def QuorumReport.under (t : Threshold) (r : QuorumReport) : QuorumReport :=
  { r with tally := ⟨r.tally.achieved, t.requiredFor r.replicas⟩ }

theorem QuorumReport.ofOutcomes_under (t t' : Threshold) (acceptance : Acceptance) (replicas : Nat)
    (received : List Outcome) :
    (ofOutcomes t acceptance replicas received).under t' =
      ofOutcomes t' acceptance replicas received := by
  simp only [under, ofOutcomes, Tally.recordAll_start]

/-! ## §2 Batches -/

/-- The same stage of a decision with another threshold. -/
def Stage.under (t : Threshold) : Stage → Stage
  | .reducing (.decide _ acceptance) progress => .reducing (.decide t acceptance) progress
  | .reduced (.reported r) => .reduced (.reported (r.under t))
  | s => s

namespace Batch

/-- The same batch of a replicated operation with another threshold. -/
def under (t : Threshold) (b : Batch) : Batch := { b with stage := b.stage.under t }

variable {t : Threshold} {acceptance : Acceptance} {b : Batch} {d : Doings}

/-- Signals do not look at the stage. -/
theorem signal_under (t : Threshold) (b : Batch) (e : Engine) (position : Nat) (s : Signal) :
    (b.under t).signal e.toClock e.tokens e.openings position s =
      ((b.signal e.toClock e.tokens e.openings position s).1.under t,
        (b.signal e.toClock e.tokens e.openings position s).2) := by
  cases hw : b.workers[position]? with
  | none =>
    have hw' : (b.under t).workers[position]? = none := hw
    rw [signal_of_none e hw s, signal_of_none e hw' s]
  | some w =>
    have hw' : (b.under t).workers[position]? = some w := hw
    rw [signal_eq e hw s, signal_eq e hw' s]
    rfl

theorem release_under (t : Threshold) (b : Batch) :
    (b.under t).release = (b.release.1.under t, b.release.2) := by
  unfold release
  change (if b.released then _ else _) = _
  split <;> rfl

theorem close_under (t : Threshold) (b : Batch) (stage : Stage) :
    ((b.under t).close (stage.under t)).1 = (b.close stage).1.under t := by
  simp only [close, release_under]
  rfl

/-- A decision that was begun does not begin again. -/
theorem Deciding.begin_under (h : Deciding t acceptance b d) (t' : Threshold) (goal : Goal) :
    (b.under t').begin goal = (b.begin goal).under t' := by
  have hbegun := h.begun
  unfold begin under
  cases h.decision with
  | pending hstage _ | dropped hstage _ | reported _ hstage _ => simp [hstage, Stage.under]

theorem drop_under (t : Threshold) (b : Batch) (hbegun : b.stage ≠ .kept) :
    (b.under t).drop.1 = b.drop.1.under t := by
  have hstage : (b.under t).stage = b.stage.under t := rfl
  unfold drop
  cases hb : b.stage with
  | kept => exact absurd hb hbegun
  | reducing goal progress =>
    have hclose := close_under t b .dropped
    rw [hstage, hb]
    cases goal <;> exact hclose
  | reduced r =>
    rw [hstage, hb]
    cases r <;> rfl
  | dropped =>
    rw [hstage, hb]
    rfl

/-- A reducer finds the same, and decides by it. -/
theorem Deciding.poll_under (h : Deciding t acceptance b d) (t' : Threshold) (c : Clock)
    (tokens : List String) :
    ((b.under t').poll c tokens).1 = (b.poll c tokens).1.under t' := by
  have hstage : (b.under t').stage = b.stage.under t' := rfl
  have hnext : (b.under t').next c tokens = b.next c tokens := rfl
  have hsize : (b.under t').size = b.size := rfl
  cases h.decision with
  | dropped hdropped _ => simp [poll, hstage, hdropped, Stage.under]
  | reported _ hreduced _ => simp [poll, hstage, hreduced, Stage.under]
  | @pending progress hreducing _ =>
    have hfinish (interrupted : Bool) :
        ((b.under t').finish (.decide t' acceptance) progress interrupted).1 =
          (b.finish (.decide t acceptance) progress interrupted).1.under t' := by
      rw [finish_eq_close, finish_eq_close, ← close_under]
      simp only [resultOf, Stage.under, QuorumReport.ofOutcomes_under, hsize]
    simp only [poll, hstage, hreducing, Stage.under, hnext, hsize]
    split
    · exact hfinish false
    · split
      · simp [under, hreducing, Stage.under]
      · rfl
      all_goals exact hfinish true

end Batch

/-! ## §3 Clients -/

namespace Engine

variable {t : Threshold} {acceptance : Acceptance} {e : Engine} {number : Nat} {b : Batch}
  {d : Doings}

/-- The same client with another threshold of the batch with a number. -/
def under (number : Nat) (t : Threshold) (e : Engine) : Engine :=
  { e with batches := e.batches.modify number (Batch.under t) }

theorem under_batches (number : Nat) (t : Threshold) (e : Engine) (n : Nat) :
    (e.under number t).batches[n]? =
      if n = number then e.batches[n]?.map (Batch.under t) else e.batches[n]? := by
  by_cases hn : n = number
  · simp [under, hn]
  · simp [under, hn, Ne.symm hn]

/-- To put a changed batch back commutes with another threshold. -/
theorem set_modify (batches : List Batch) (number n : Nat) (t : Threshold) (after : Batch) :
    (batches.modify number (Batch.under t)).set n
        (if n = number then after.under t else after) =
      (batches.set n after).modify number (Batch.under t) := by
  refine List.ext_getElem? fun i => ?_
  simp only [List.getElem?_set, List.getElem?_modify, List.length_modify]
  by_cases hi : n = i
  · subst hi
    by_cases hlt : n < batches.length <;> by_cases hn : n = number
    · simp [hn]
    · simp [hlt, hn, Ne.symm hn]
    · simp [hlt]
    · simp [hlt]
  · simp [hi]

/-- A change of a batch commutes with another threshold of it, if it does so for this batch. -/
theorem change_under (hb : e.batches[number]? = some b) (n : Nat)
    (f : Batch → Batch × List Placed) (hf : n = number → (f (b.under t)).1 = (f b).1.under t) :
    ((e.under number t).change n f).1 = (e.change n f).1.under number t := by
  unfold change
  rw [under_batches]
  by_cases hn : n = number
  · subst hn
    have hset := set_modify e.batches n n t (f b).1
    rw [if_pos rfl] at hset
    simp only [hb, if_true, Option.map_some, hf rfl]
    exact congrArg (fun batches => ({ e with batches } : Engine)) hset
  · rw [if_neg hn]
    cases hother : e.batches[n]? with
    | none => rfl
    | some other =>
      have hset := set_modify e.batches number n t (f other).1
      rw [if_neg hn] at hset
      exact congrArg (fun batches => ({ e with batches } : Engine)) hset

/-- A signal commutes with another threshold: it opens as many copies of a body. -/
theorem signal_under (hb : e.batches[number]? = some b) (n position : Nat) (s : Signal) :
    ((e.under number t).signal n position s).1 = (e.signal n position s).1.under number t := by
  unfold signal
  rw [under_batches]
  by_cases hn : n = number
  · subst hn
    have hset := set_modify e.batches n n t (b.signal e.toClock e.tokens e.openings position s).1
    have hsignal : (b.under t).signal (e.under n t).toClock (e.under n t).tokens
        (e.under n t).openings position s = _ := Batch.signal_under t b e position s
    rw [if_pos rfl] at hset
    simp only [hb, if_true, Option.map_some, hsignal]
    exact congrArg (fun batches => ({ e with
      batches
      openings := e.openings + countOpenings b.plan.body
        (b.signal e.toClock e.tokens e.openings position s).2 } : Engine)) hset
  · rw [if_neg hn]
    cases hother : e.batches[n]? with
    | none => rfl
    | some other =>
      have hset := set_modify e.batches number n t
        (other.signal e.toClock e.tokens e.openings position s).1
      rw [if_neg hn] at hset
      exact congrArg (fun batches => ({ e with
        batches
        openings := e.openings + countOpenings other.plan.body
          (other.signal e.toClock e.tokens e.openings position s).2 } : Engine)) hset

/-- Another batch begins as it would. -/
theorem dispatch_under (hlt : number < e.batches.length) (op : Operation) (targets : List Target) :
    ((e.under number t).dispatch op targets).1 = (e.dispatch op targets).1.under number t := by
  have happend (b : Batch) : e.batches.modify number (Batch.under t) ++ [b] =
      (e.batches ++ [b]).modify number (Batch.under t) := by
    refine List.ext_getElem? fun i => ?_
    simp only [List.getElem?_append, List.getElem?_modify, List.length_modify]
    by_cases hi : i < e.batches.length
    · simp [hi]
    · have hne : number ≠ i := by omega
      simp [hi, hne]
  exact congrArg (fun batches => ({ (e.dispatch op targets).1 with batches } : Engine)) (happend _)

/-- The clock is a variable here, so that it is never computed. -/
theorem clock_under (t : Threshold) (e : Engine) (c : Clock) :
    { e.under number t with toClock := c } = ({ e with toClock := c } : Engine).under number t := rfl

/-- **A threshold changes nothing of what an event does**, but the verdict. -/
theorem step_under (hb : e.batches[number]? = some b) {t' : Threshold}
    (h : b.Deciding t' acceptance d) (t : Threshold) (event : Event) :
    ((e.under number t).step event).1 = (e.step event).1.under number t := by
  have hlt : number < e.batches.length := (List.getElem?_eq_some_iff.mp hb).1
  cases event with
  | dispatch op targets => exact dispatch_under hlt op targets
  | replicate op targets threshold acceptance =>
    -- The batch that begins here is another one, and its threshold stays.
    have hthere : (e.dispatch { op with handler := none } targets).1.batches[number]? = some b := by
      simp [dispatch, List.getElem?_append_left hlt, hb]
    have hchange := change_under (t := t) hthere e.batches.length
      (fun b => (b.begin (.decide threshold acceptance), [])) fun heq => by omega
    rw [← dispatch_under hlt] at hchange
    have hlength : (e.under number t).batches.length = e.batches.length := List.length_modify ..
    simpa only [step, hlength] using hchange
  | signal n position s => exact signal_under hb n position s
  | cancel n => exact change_under hb n _ fun _ => by simp [Batch.release_under]
  | reduce n goal => exact change_under hb n _ fun _ => h.begin_under t goal
  | poll n => exact change_under hb n _ fun _ => h.poll_under t e.toClock e.tokens
  | drop n => exact change_under hb n _ fun _ => Batch.drop_under t b h.begun
  | cancelToken name => rfl
  | advance d =>
    rw [step_advance, step_advance]
    exact clock_under t e (e.toClock.pass d)
  | tick =>
    rw [step_tick, step_tick]
    exact clock_under t e e.toClock.tick

/-- The batch of a replicated operation, when it begins under another threshold. -/
theorem replicate_under (e : Engine) (op : Operation) (targets : List Target)
    (acceptance : Acceptance) (t t' : Threshold) :
    (e.step (.replicate op targets t' acceptance)).1 =
      (e.step (.replicate op targets t acceptance)).1.under e.batches.length t' := by
  let b := (e.begun { op with handler := none } targets).1
  have hstep (t : Threshold) : (e.step (.replicate op targets t acceptance)).1 =
      { (e.dispatch { op with handler := none } targets).1 with
        batches := e.batches ++ [b.begin (.decide t acceptance)] } := by
    simp [step, change, dispatch, begun, b]
  have hkept : b.stage = .kept := by
    simp only [b, (e.begun_enqueue { op with handler := none } targets).1]
    rfl
  have hbegin : b.begin (.decide t' acceptance) = (b.begin (.decide t acceptance)).under t' := by
    simp [Batch.begin, hkept, Batch.under, Stage.under]
  have happend : (e.batches ++ [b.begin (.decide t acceptance)]).modify e.batches.length
      (Batch.under t') = e.batches ++ [(b.begin (.decide t acceptance)).under t'] := by
    simp [List.modify_eq_set_getElem?]
  rw [hstep, hstep, hbegin, under, happend]

/-- **Two runs that differ in the threshold of an operation** differ in its verdict and in nothing
    else, however they go on. -/
theorem run_under (client : Client) (now : Instant) (before after : List Event) (op : Operation)
    (targets : List Target) (acceptance : Acceptance) (t t' : Threshold) :
    ((start client now).run (before ++ .replicate op targets t' acceptance :: after)).1 =
      ((start client now).run (before ++ .replicate op targets t acceptance :: after)).1.under
        ((start client now).run before).1.batches.length t' := by
  -- The induction is on the events behind the operation: its batch keeps deciding.
  induction after using List.reverseRecOn with
  | nil =>
    rw [run_concat, run_concat]
    exact replicate_under _ op targets acceptance t t'
  | append_singleton after event ih =>
    obtain ⟨b, hb, hdeciding, _⟩ := run_deciding client now before after op targets t acceptance
    rw [← List.cons_append, ← List.cons_append, ← List.append_assoc, ← List.append_assoc,
      run_concat, run_concat, ih]
    exact step_under hb hdeciding t' event

end Engine

/-! ## §4 Operations without a threshold -/

/-- The report that a batch has returned. -/
def Batch.report? (b : Batch) : Option QuorumReport :=
  match b.stage with
  | .reduced (.reported r) => some r
  | _ => none

theorem Batch.report?_eq_some {b : Batch} {r : QuorumReport} (h : b.report? = some r) :
    b.stage = .reduced (.reported r) := by
  unfold report? at h
  split at h
  · rename_i hstage
    rw [hstage, Option.some.inj h]
  · cases h

/-- Whether a reducer has received every outcome, and enough that are accepted. -/
def Batch.hasReceived (t : Threshold) (acceptance : Acceptance) (b : Batch) : Bool :=
  match b.stage with
  | .reducing _ progress => decide (b.size ≤ progress.consumed.length) &&
      decide (t.requiredFor b.size ≤ progress.consumed.countP acceptance)
  | _ => false

theorem Batch.report?_under (t : Threshold) (b : Batch) :
    (b.under t).report? = b.report?.map (QuorumReport.under t) := by
  unfold report? under
  cases b.stage with
  | kept | dropped => rfl
  | reducing goal progress => cases goal <;> rfl
  | reduced r => cases r <;> rfl

/-- A run in which an operation is replicated, but for its threshold: whatever happens to the client
    before and after, to the transport and to the clock. -/
structure Replication where
  client : Client
  now : Instant
  before : List Engine.Event
  op : Operation
  targets : List Target
  acceptance : Acceptance
  after : List Engine.Event

namespace Replication

/-- The number of the batch of the operation. -/
def number (c : Replication) : Nat :=
  ((Engine.start c.client c.now).run c.before).1.batches.length

/-- The run under a threshold. -/
def run (c : Replication) (t : Threshold) : Engine × History :=
  (Engine.start c.client c.now).run
    (c.before ++ .replicate c.op c.targets t c.acceptance :: c.after)

/-- What the operation reports in the run under a threshold, if it has come to its end. -/
def report? (c : Replication) (t : Threshold) : Option QuorumReport :=
  (c.run t).1.batches[c.number]?.bind Batch.report?

/-- Whether the operation is reported as met in the run under a threshold. -/
def isMet (c : Replication) (t : Threshold) : Bool := (c.report? t).any QuorumReport.isMet

variable {c : Replication} {t : Threshold} {r : QuorumReport}

theorem report?_under (c : Replication) (t t' : Threshold) :
    c.report? t' = (c.report? t).map (QuorumReport.under t') := by
  have hrun : (c.run t').1 = (c.run t).1.under c.number t' :=
    Engine.run_under c.client c.now c.before c.after c.op c.targets c.acceptance t t'
  rw [report?, hrun, Engine.under_batches, if_pos rfl, report?]
  cases (c.run t).1.batches[c.number]? with
  | none => rfl
  | some b => exact b.report?_under t'

/-- A report is exact about what the reducer has received, and its verdict was announced. -/
theorem report?_exact (h : c.report? t = some r) :
    r.Exact t c.acceptance c.targets.length ((c.run t).2.of c.number).consumed ∧
      ((c.run t).2.of c.number).decisions = [r.isMet] := by
  obtain ⟨b, hb, hreport⟩ := Option.bind_eq_some_iff.mp h
  obtain ⟨b', hb', hdeciding, htargets⟩ :=
    Engine.run_deciding c.client c.now c.before c.after c.op c.targets t c.acceptance
  obtain rfl := Option.some.inj (hb.symm.trans hb')
  have hsize : b.size = c.targets.length := by
    rw [← htargets, List.length_map]
    rfl
  obtain ⟨_, hsame, hexact, hdecisions⟩ := hdeciding.exact (Batch.report?_eq_some hreport)
  obtain rfl := Reduction.reported.inj hsame
  exact ⟨hsize ▸ hexact, hdecisions⟩

/-- The verdict under any threshold can be read off the report under any other. -/
theorem isMet_iff (h : c.report? t = some r) (t' : Threshold) :
    c.isMet t' = true ↔ t'.requiredFor c.targets.length ≤ r.accepted.length := by
  obtain ⟨hexact, _⟩ := report?_exact h
  have hverdict : (r.under t').isMet = true ↔ t'.requiredFor r.replicas ≤ r.tally.achieved :=
    decide_eq_true_iff
  rw [isMet, report?_under c t t', h, ← hexact.replicas, ← hexact.achieved]
  exact hverdict

theorem exists_report (h : c.isMet t = true) : ∃ r, c.report? t = some r ∧ r.isMet = true :=
  (Option.any_eq_true _ _).mp h

/-- A report that has accepted an index has an outcome that was accepted. -/
theorem exists_accepted (h : c.report? t = some r) (hsome : 0 < r.accepted.length) :
    ∃ o ∈ r.outcomes, c.acceptance o = true := by
  obtain ⟨hexact, _⟩ := report?_exact h
  rw [hexact.accepted, List.length_map] at hsome
  obtain ⟨o, ho⟩ := List.exists_mem_of_length_pos hsome
  exact ⟨o, List.mem_filter.mp ho⟩

/-- **Thresholds are ordered on whole runs.**  Take any run with a replicated operation, and put one
    threshold after the other in its place.  If the operation reports under one of them, it reports
    under each, with the same outcomes and the same replicas accepted; what is announced is the
    verdict, which is met exactly when enough were accepted.  So a run that is met stays so under
    any threshold that requires no more: under all replicas it is met only if it is met under any
    number of them, and, when there is a target at all, under the majority.  A run that is met
    under the majority has an accepting replica, and so has one that is met under all replicas,
    again if there is a target.  Without a target all replicas have accepted, and the majority has
    not. -/
theorem thresholds_ordered (c : Replication) :
    (∀ t r, c.report? t = some r → ∀ t', ∃ r', c.report? t' = some r' ∧
      r'.outcomes = r.outcomes ∧ r'.accepted = r.accepted ∧ r'.replicas = c.targets.length ∧
      ((c.run t').2.of c.number).decisions = [r'.isMet] ∧
      (r'.isMet = true ↔ t'.requiredFor c.targets.length ≤ r.accepted.length)) ∧
    (∀ t t', t'.requiredFor c.targets.length ≤ t.requiredFor c.targets.length →
      c.isMet t = true → c.isMet t' = true) ∧
    (c.isMet .all = true → (c.targets ≠ [] → c.isMet .majority = true) ∧
      ∀ k ≤ c.targets.length, c.isMet (.atLeast k) = true) ∧
    (∀ t r, t = .majority ∨ (t = .all ∧ c.targets ≠ []) → c.report? t = some r → r.isMet = true →
      ∃ o ∈ r.outcomes, c.acceptance o = true) ∧
    (c.targets = [] → ∀ t r, c.report? t = some r →
      r.outcomes = [] ∧ c.isMet .all = true ∧ c.isMet .majority = false) := by
  -- The acceptances are the same under every threshold, and only their number counts.
  have hordered {t t' : Threshold}
      (hle : t'.requiredFor c.targets.length ≤ t.requiredFor c.targets.length)
      (hmet : c.isMet t = true) : c.isMet t' = true := by
    obtain ⟨r, hr, _⟩ := exists_report hmet
    exact (isMet_iff hr t').mpr (hle.trans ((isMet_iff hr t).mp hmet))
  have hlength (hsome : c.targets ≠ []) : 0 < c.targets.length := List.length_pos_iff.mpr hsome
  refine ⟨fun t r hr t' => ?_, fun t t' => hordered, fun hall => ⟨fun hsome => ?_, fun k hk => ?_⟩,
    fun t r ht hr hmet => ?_, fun hnone t r hr => ?_⟩
  · -- The report under one threshold is that under the other, with its verdict.
    have hr' : c.report? t' = some (r.under t') := by rw [report?_under c t t', hr, Option.map_some]
    obtain ⟨hexact, hdecisions⟩ := report?_exact hr'
    refine ⟨_, hr', rfl, rfl, hexact.replicas, hdecisions, ?_⟩
    rw [← isMet_iff hr t', isMet, hr', Option.any_some]
  · refine hordered ?_ hall
    have hpos := hlength hsome
    simp only [Threshold.requiredFor]
    omega
  · have hle : (Threshold.atLeast k).requiredFor c.targets.length ≤
        Threshold.all.requiredFor c.targets.length := hk
    exact hordered hle hall
  · refine exists_accepted hr ?_
    have henough := (isMet_iff hr t).mp (by rw [isMet, hr]; exact hmet)
    rcases ht with rfl | ⟨rfl, hsome⟩
    · exact Nat.lt_of_lt_of_le (Nat.succ_pos _) henough
    · exact Nat.lt_of_lt_of_le (hlength hsome) henough
  · obtain ⟨hexact, _⟩ := report?_exact hr
    have houtcomes : r.outcomes = [] := by
      have hle := hexact.outcomes_le
      rw [hexact.replicas, hnone] at hle
      exact List.eq_nil_of_length_eq_zero (Nat.le_zero.mp hle)
    have haccepted : r.accepted = [] := by rw [hexact.accepted, houtcomes]; rfl
    refine ⟨houtcomes, (isMet_iff hr .all).mpr ?_, Bool.eq_false_iff.mpr fun hmet => ?_⟩
    · simp [Threshold.requiredFor, hnone]
    · have henough := (isMet_iff hr .majority).mp hmet
      simp [Threshold.requiredFor, hnone, haccepted] at henough

/-- The same run with one more turn of the reducer. -/
def polled (c : Replication) : Replication := { c with after := c.after ++ [.poll c.number] }

/-- A reducer that has received every outcome reports at its next turn. -/
theorem polled_isMet (c : Replication) (t : Threshold)
    (hfacts : (c.run t).1.batches[c.number]?.any (·.hasReceived t c.acceptance) = true) :
    c.polled.isMet t = true := by
  obtain ⟨b, hb, hdeciding, _⟩ :=
    Engine.run_deciding c.client c.now c.before c.after c.op c.targets t c.acceptance
  have hthere : (c.run t).1.batches[c.number]? = some b := hb
  rw [hthere, Option.any_some, Batch.hasReceived] at hfacts
  split at hfacts
  · rename_i goal progress hstage
    simp only [Bool.and_eq_true, decide_eq_true_eq] at hfacts
    obtain ⟨rfl, _⟩ := hdeciding.pending hstage
    have hrun : (c.polled.run t).1 = ((c.run t).1.step (.poll c.number)).1 := by
      change ((Engine.start c.client c.now).run (c.before ++
        (.replicate c.op c.targets t c.acceptance :: (c.after ++ [.poll c.number])))).1 = _
      rw [← List.cons_append, ← List.append_assoc, Engine.run_concat]
      rfl
    have hpoll : b.poll (c.run t).1.toClock (c.run t).1.tokens =
        b.finish (.decide t c.acceptance) progress false := by
      simp [Batch.poll, hstage, hfacts.1]
    obtain ⟨hafter, _⟩ := Engine.step_share hthere (.poll c.number)
    simp only [Batch.react, if_true, hpoll] at hafter
    have hreport : c.polled.report? t =
        some (.ofOutcomes t c.acceptance b.size progress.consumed) := by
      change (c.polled.run t).1.batches[c.number]?.bind Batch.report? = _
      rw [hrun, hafter]
      rfl
    rw [isMet, hreport]
    exact (QuorumReport.ofOutcomes_isMet _ _ _ _).mpr hfacts.2
  · cases hfacts

/-- The worker at a position ends with a response. -/
def served (position : Nat) : List Engine.Event :=
  [.signal 0 position .turn, .signal 0 position .turn,
    .signal 0 position (.answer (.response ⟨Status.ok, .http11, Header.Map.empty⟩)),
    .signal 0 position .bodyEnd]

/-- Two targets that answer, one after the other. -/
def pair : Replication where
  client := (ClientBuilder.ofConfig .standard).build
  now := ⟨0⟩
  before := []
  op := .new .get "x"
  targets := [⟨0, "http://a"⟩, ⟨1, "http://b"⟩]
  acceptance := .ok
  after := served 1 ++ served 0 ++ [.poll 0, .poll 0]

/-- The operation on `pair` is met under every threshold that can be met. -/
theorem thresholds_ordered_pair :
    pair.polled.isMet .all = true ∧ pair.polled.isMet .majority = true ∧
      pair.polled.isMet (.atLeast 1) = true ∧
      ∃ r, pair.polled.report? .majority = some r ∧
        ∃ o ∈ r.outcomes, pair.acceptance o = true := by
  have hall := pair.polled_isMet .all (by decide +kernel)
  obtain ⟨_, _, hthresholds, haccepting, _⟩ := thresholds_ordered pair.polled
  obtain ⟨hmajority, hfixed⟩ := hthresholds hall
  have hmet := hmajority (List.cons_ne_nil _ _)
  obtain ⟨r, hr, hverdict⟩ := exists_report hmet
  exact ⟨hall, hmet, hfixed 1 (by decide), r, hr, haccepting .majority r (.inl rfl) hr hverdict⟩

/-- An operation on no target. -/
def nobody : Replication := { pair with targets := [], after := [] }

/-- Without a target, all replicas have accepted, but neither the majority nor any one of them. -/
theorem thresholds_unordered :
    ¬ ∀ c : Replication,
      (c.isMet .all = true →
        c.isMet .majority = true ∧ ∀ k ≤ c.targets.length, c.isMet (.atLeast k) = true) ∧
      ∀ t r, t = .majority ∨ t = .all → c.report? t = some r → r.isMet = true →
        ∃ o ∈ r.outcomes, c.acceptance o = true := by
  intro hclaim
  have hall := nobody.polled_isMet .all (by decide +kernel)
  obtain ⟨r, hr, _⟩ := exists_report hall
  obtain ⟨hexact, _⟩ := report?_exact hr
  have henough := (isMet_iff hr .majority).mp ((hclaim nobody.polled).1 hall).1
  -- The majority of no targets is one, and no outcome was there to be accepted.
  have haccepted : r.accepted.length ≤ nobody.polled.targets.length :=
    hexact.replicas ▸ hexact.accepted_le.trans hexact.outcomes_le
  exact absurd (henough.trans haccepted) (by decide)

end Replication

end Replicast
