import Mathlib.Algebra.BigOperators.Group.List.Lemmas
import Mathlib.Algebra.Order.BigOperators.Group.List
import Mathlib.Algebra.Order.Ring.Int
import Replicast.Proofs.Engine.Newborn
/-!
# Counters as sums

Every counter of a client adds up something over its history.  A history is the doings of all
batches, mixed, so that each counter is also the sum of what the batches contribute.

## Overview

* `History.sum` and `Doings.sum` add up a weight of effects.
* `Metrics.Reads` says which weight a counter adds up, and `Metrics.Reads.ofHistory` that it does.
* `Metrics.countOf` looks a key up in a table, and `Metrics.Counted` says that the tables and the
  totals of a client count a list of marks.
* `Engine.run_sum` splits a sum over a run into the sums over its batches.
-/

namespace Replicast

/-! ## §1 Sums of weights -/

/-- The sum of a weight over the effects of a history. -/
def History.sum (h : History) (weight : Effect → Int) : Int :=
  (h.map fun r => weight r.effect).sum

/-- The sum of a weight over what one batch does. -/
def Doings.sum (d : Doings) (weight : Effect → Int) : Int :=
  (d.map fun x => weight x.2).sum

section Sums

variable (weight : Effect → Int)

@[simp] theorem History.sum_nil : History.sum [] weight = 0 := rfl

@[simp] theorem History.sum_cons (r : Record) (h : History) :
    History.sum (r :: h) weight = weight r.effect + History.sum h weight := by
  simp [History.sum]

@[simp] theorem History.sum_append (h k : History) :
    History.sum (h ++ k) weight = History.sum h weight + History.sum k weight := by
  simp [History.sum]

@[simp] theorem Doings.sum_nil : Doings.sum [] weight = 0 := rfl

@[simp] theorem Doings.sum_cons (x : Engine.Placed) (d : Doings) :
    Doings.sum (x :: d) weight = weight x.2 + Doings.sum d weight := by
  simp [Doings.sum]

@[simp] theorem Doings.sum_append (d k : Doings) :
    Doings.sum (d ++ k) weight = Doings.sum d weight + Doings.sum k weight := by
  simp [Doings.sum]

@[simp] theorem Doings.sum_here (position : Nat) (effects : List Effect) :
    Doings.sum (Doings.here position effects) weight = (effects.map weight).sum := by
  simp [Doings.sum, Doings.here, Function.comp_def]

/-- Doings without weight add nothing. -/
theorem Doings.sum_eq_zero {d : Doings} (h : ∀ x ∈ d, weight x.2 = 0) : d.sum weight = 0 := by
  refine List.sum_eq_zero fun n hn => ?_
  obtain ⟨x, hx, rfl⟩ := List.mem_map.mp hn
  exact h x hx

theorem History.sum_add (h : History) (first second : Effect → Int) :
    (h.sum fun x => first x + second x) = h.sum first + h.sum second := by
  induction h with
  | nil => rfl
  | cons r rest ih =>
    rw [History.sum_cons, ih, History.sum_cons, History.sum_cons]
    omega

/-- A weight that is nowhere larger adds up to no more. -/
theorem History.sum_le {h : History} (light heavy : Effect → Int)
    (hle : ∀ r ∈ h, light r.effect ≤ heavy r.effect) : h.sum light ≤ h.sum heavy :=
  List.sum_le_sum hle

/-- What one batch contributes to a history, and what the others do. -/
theorem History.sum_split (h : History) (batch : Nat) :
    h.sum weight =
      (h.of batch).sum weight + History.sum (h.filter fun r => r.batch ≠ batch) weight := by
  induction h with
  | nil => rfl
  | cons r rest ih =>
    -- The record belongs to the batch, or it stays among the others.
    by_cases hbatch : r.batch = batch
    · have hof : History.of (r :: rest) batch =
          (r.position, r.effect) :: History.of rest batch := by
        simp [History.of, hbatch]
      rw [History.sum_cons, ih, hof, Doings.sum_cons, List.filter_cons_of_neg (by simp [hbatch]),
        add_assoc]
    · have hof : History.of (r :: rest) batch = History.of rest batch := by
        simp [History.of, hbatch]
      rw [History.sum_cons, ih, hof, List.filter_cons_of_pos (by simp [hbatch]), History.sum_cons]
      omega

/-- A history of batches with numbers below a bound is the sum of their doings. -/
theorem History.sum_of_lt (h : History) (bound : Nat) (hlt : ∀ r ∈ h, r.batch < bound) :
    h.sum weight = ((List.range bound).map fun number => (h.of number).sum weight).sum := by
  -- The bound falls by one: the records of the last batch are split off.
  induction bound generalizing h with
  | zero =>
    have hnone : h = [] :=
      List.eq_nil_iff_forall_not_mem.mpr fun r hr => absurd (hlt r hr) (by simp)
    subst hnone
    rfl
  | succ bound ih =>
    have hothers : ∀ r ∈ h.filter fun r => r.batch ≠ bound, r.batch < bound := by
      intro r hr
      obtain ⟨hmem, hne⟩ := List.mem_filter.mp hr
      have hle := hlt r hmem
      have hne : r.batch ≠ bound := by simpa using hne
      omega
    -- Taking one batch out does not touch the doings of another.
    have hsame : ∀ number ∈ List.range bound,
        History.of (h.filter fun r => r.batch ≠ bound) number = h.of number := by
      intro number hnumber
      have hne : number ≠ bound := Nat.ne_of_lt (List.mem_range.mp hnumber)
      simp only [History.of, List.filterMap_filter]
      refine List.filterMap_congr fun r _ => ?_
      by_cases hbatch : r.batch = number <;> simp [hbatch, hne]
    calc h.sum weight
        = (h.of bound).sum weight + History.sum (h.filter fun r => r.batch ≠ bound) weight :=
          h.sum_split weight bound
      _ = (h.of bound).sum weight +
            ((List.range bound).map fun number => (h.of number).sum weight).sum := by
          rw [ih _ hothers]
          congr 2
          exact List.map_congr_left fun number hnumber => by rw [hsame number hnumber]
      _ = ((List.range (bound + 1)).map fun number => (h.of number).sum weight).sum := by
          rw [List.range_succ, List.map_append, List.sum_append]
          simp [Int.add_comm]

end Sums

/-! ## §2 Counters -/

namespace Metrics

/-- A counter that starts from zero and adds up a weight. -/
structure Reads (counter : Metrics → Int) (weight : Effect → Int) : Prop where
  zero : counter Metrics.zero = 0
  count : ∀ m x, counter (m.count x) = counter m + weight x

theorem ofHistory_concat (h : History) (r : Record) :
    Metrics.ofHistory (h ++ [r]) = (Metrics.ofHistory h).count r.effect := by
  simp [Metrics.ofHistory, List.foldl_append]

/-- A counter adds up its weight over a history. -/
theorem Reads.ofHistory {counter : Metrics → Int} {weight : Effect → Int}
    (hreads : Reads counter weight) (h : History) :
    counter (Metrics.ofHistory h) = h.sum weight := by
  -- The induction is on the history from its end, as it is counted.
  induction h using List.reverseRecOn with
  | nil => exact hreads.zero
  | append_singleton h r ih =>
    rw [ofHistory_concat, hreads.count, ih, History.sum_append, History.sum_cons, History.sum_nil,
      add_zero]

@[simp] theorem shown_enabled (m : Metrics) : m.shown true = m := rfl

/-! ## §3 Tables -/

/-- The count under a key. -/
def countOf {α : Type} [DecidableEq α] (key : α) (table : List (α × Nat)) : Nat :=
  ((table.filter fun entry => entry.1 = key).map (·.2)).sum

theorem total_eq_sum {α : Type} (table : List (α × Nat)) :
    total table = (table.map (·.2)).sum := by
  have hfrom (start : Nat) : table.foldl (fun sum entry => sum + entry.2) start =
      start + (table.map (·.2)).sum := by
    induction table generalizing start with
    | nil => rfl
    | cons entry rest ih => simp [ih, Nat.add_assoc]
  exact (hfrom 0).trans (Nat.zero_add _)

section Tables

variable {α : Type} [LT α] [DecidableLT α] [DecidableEq α]

/-- Adding one under a key adds one in total. -/
theorem total_bump (key : α) (table : List (α × Nat)) :
    total (bump key table) = total table + 1 := by
  simp only [total_eq_sum]
  induction table with
  | nil => rfl
  | cons entry rest ih =>
    obtain ⟨k, n⟩ := entry
    unfold bump
    -- The key is found here, is new here, or lies further on.
    split
    · simp only [List.map_cons, List.sum_cons]
      omega
    · split
      · simp only [List.map_cons, List.sum_cons]
        omega
      · simp only [List.map_cons, List.sum_cons, ih]
        omega

/-- Adding one under a key changes the count of this key alone. -/
theorem countOf_bump (key other : α) (table : List (α × Nat)) :
    countOf other (bump key table) = countOf other table + if key = other then 1 else 0 := by
  induction table with
  | nil => by_cases h : key = other <;> simp [bump, countOf, h]
  | cons entry rest ih =>
    obtain ⟨k, n⟩ := entry
    unfold countOf at ih ⊢
    unfold bump
    split
    · rename_i hkey
      subst hkey
      by_cases h : key = other <;> simp [h]
      omega
    · split
      · by_cases h : key = other <;> by_cases hk : k = other <;> simp [h, hk] <;> omega
      · by_cases hk : k = other
        · simp only [hk, decide_true, List.filter_cons_of_pos, List.map_cons, List.sum_cons, ih]
          omega
        · simpa [hk] using ih

end Tables

end Metrics

/-! ## §4 Marks -/

/-- What the counters take in of an outcome: its status and the word of its error. -/
structure Mark where
  status : Option Nat
  error : Option String
deriving DecidableEq, Repr

def Outcome.mark (o : Outcome) : Mark := ⟨o.statusCode?, o.error.map fun e => e.code.word⟩

/-- Whether an outcome has a status or an error to be counted under. -/
def Outcome.isTold (o : Outcome) : Bool := o.status?.isSome || o.error.isSome

/-- The mark of the outcome that an effect counts: a worker's, or that of a target whose request
    could not be built. -/
def Effect.mark? : Effect → Option Mark
  | .recorded o => some o.mark
  | .buildFailed e => some ⟨none, some e.code.word⟩
  | _ => none

/-- The marks that were counted, in order. -/
def Doings.marks (d : Doings) : List Mark := d.filterMap fun x => x.2.mark?

@[simp] theorem Doings.marks_append (d k : Doings) : (d ++ k).marks = d.marks ++ k.marks :=
  List.filterMap_append

@[simp] theorem Doings.marks_here (position : Nat) (effects : List Effect) :
    (Doings.here position effects).marks = effects.filterMap Effect.mark? := by
  simp [Doings.marks, Doings.here, List.filterMap_map]

def History.marks (h : History) : List Mark := h.filterMap fun r => r.effect.mark?

/-- Counting what a view shows is adding up ones. -/
theorem countP_filterMap {α β : Type} (view : β → Option α) (p : α → Bool) (l : List β) :
    ((l.filterMap view).countP p : Int) = (l.map fun x => if (view x).any p then 1 else 0).sum := by
  induction l with
  | nil => rfl
  | cons x rest ih =>
    rw [List.map_cons, List.sum_cons, ← ih]
    cases hx : view x with
    | none => simp [hx]
    | some a => by_cases hp : p a = true <;> simp [hx, hp, Int.add_comm]

/-- How many of the marks of a history have a property. -/
theorem History.countP_marks (h : History) (p : Mark → Bool) :
    (h.marks.countP p : Int) = h.sum fun x => if x.mark?.any p then 1 else 0 :=
  countP_filterMap (fun r : Record => r.effect.mark?) p h

/-- How many of the marks of a batch have a property. -/
theorem Doings.countP_marks (d : Doings) (p : Mark → Bool) :
    (d.marks.countP p : Int) = d.sum fun x => if x.mark?.any p then 1 else 0 :=
  countP_filterMap (fun x : Engine.Placed => x.2.mark?) p d

namespace Metrics

/-- The counters of a client count these marks: so many in total, and under each status and each
    word as many as have it. -/
structure Counted (m : Metrics) (marks : List Mark) : Prop where
  total : m.outcomesDelivered + m.buildFailures = marks.length
  status : ∀ code, countOf code m.statusCounts = marks.countP (·.status == some code)
  error : ∀ word, countOf word m.errorCounts = marks.countP (·.error == some word)

/-- An outcome counts under its own status and the word of its own error. -/
theorem recordOutcome_tables (m : Metrics) (o : Outcome) :
    (m.recordOutcome o).statusCounts = o.mark.status.elim m.statusCounts (bump · m.statusCounts) ∧
      (m.recordOutcome o).errorCounts =
        o.mark.error.elim m.errorCounts (bump · m.errorCounts) := by
  unfold recordOutcome Outcome.mark Outcome.statusCode?
  cases o.status? <;> cases o.error <;> exact ⟨rfl, rfl⟩

/-- What an outcome adds to the counters outside the tables, and what it leaves alone. -/
structure Adds (m after : Metrics) (o : Outcome) : Prop where
  delivered : after.outcomesDelivered = m.outcomesDelivered + 1
  samples : after.latencySamples = m.latencySamples + 1
  succeeded : after.outcomesSucceeded = m.outcomesSucceeded + o.isSuccess.toNat
  failures : after.buildFailures = m.buildFailures
  targets : after.targetsDispatched = m.targetsDispatched
  inFlight : after.inFlight = m.inFlight
  met : after.quorumsMet = m.quorumsMet
  missed : after.quorumsMissed = m.quorumsMissed

theorem recordOutcome_adds (m : Metrics) (o : Outcome) : Adds m (m.recordOutcome o) o := by
  unfold recordOutcome
  cases o.status? <;> cases o.error <;> exact ⟨rfl, rfl, rfl, rfl, rfl, rfl, rfl, rfl⟩

/-- Counting an effect counts its mark, if it has one. -/
theorem Counted.count {m : Metrics} {marks : List Mark} (h : m.Counted marks) (x : Effect) :
    (m.count x).Counted (marks ++ x.mark?.toList) := by
  have hsame : m.Counted (marks ++ []) := by simpa using h
  cases x with
  | buildFailed e =>
    have htotal := h.total
    refine ⟨?_, fun code => ?_, fun word => ?_⟩
    · show m.outcomesDelivered + (m.buildFailures + 1) =
        (marks ++ [(⟨none, some e.code.word⟩ : Mark)]).length
      rw [List.length_append, List.length_singleton]
      omega
    · show countOf code m.statusCounts = _
      simpa [Effect.mark?] using h.status code
    · show countOf word (bump e.code.word m.errorCounts) = _
      have hbump := countOf_bump e.code.word word m.errorCounts
      simpa [Effect.mark?, h.error word, List.countP_append, List.countP_singleton] using hbump
  | recorded o =>
    obtain ⟨hstatuses, herrors⟩ := recordOutcome_tables m o
    have hadds := recordOutcome_adds m o
    have htotal := h.total
    refine ⟨?_, fun code => ?_, fun word => ?_⟩
    · show (m.recordOutcome o).outcomesDelivered + (m.recordOutcome o).buildFailures =
        (marks ++ [o.mark]).length
      rw [hadds.delivered, hadds.failures, List.length_append, List.length_singleton]
      omega
    · show countOf code (m.recordOutcome o).statusCounts = _
      rw [hstatuses]
      cases hstatus : o.mark.status with
      | none => simpa [Effect.mark?, hstatus, List.countP_append] using h.status code
      | some own =>
        simpa [Effect.mark?, hstatus, h.status code, List.countP_append, List.countP_singleton]
          using countOf_bump own code m.statusCounts
    · show countOf word (m.recordOutcome o).errorCounts = _
      rw [herrors]
      cases herror : o.mark.error with
      | none => simpa [Effect.mark?, herror, List.countP_append] using h.error word
      | some own =>
        simpa [Effect.mark?, herror, h.error word, List.countP_append, List.countP_singleton]
          using countOf_bump own word m.errorCounts
  -- Whatever else is counted touches neither the tables nor these totals.
  | counted c => cases c <;> exact ⟨hsame.total, hsame.status, hsame.error⟩
  | decided met => cases met <;> exact ⟨hsame.total, hsame.status, hsame.error⟩
  | _ => exact ⟨hsame.total, hsame.status, hsame.error⟩

/-- A client counts the marks of its history. -/
theorem ofHistory_counted (h : History) : (Metrics.ofHistory h).Counted h.marks := by
  -- The induction is on the history from its end, as it is counted.
  induction h using List.reverseRecOn with
  | nil => exact ⟨rfl, fun _ => rfl, fun _ => rfl⟩
  | append_singleton h r ih =>
    have hmarks : History.marks (h ++ [r]) = History.marks h ++ r.effect.mark?.toList := by
      cases hmark : r.effect.mark? <;> simp [History.marks, hmark]
    rw [hmarks, ofHistory_concat]
    exact ih.count r.effect

/-! ## §5 What adds to each counter -/

end Metrics

namespace Effect

/-- The targets of a batch that begins. -/
def ofBatch : Effect → Int
  | .dispatched targets => targets
  | _ => 0

/-- One for a request that could not be built. -/
def ofFailure : Effect → Int
  | .buildFailed _ => 1
  | _ => 0

/-- One for a worker that begins, and one less for a worker that ends. -/
def ofPresence : Effect → Int
  | .entered => 1
  | .left => -1
  | _ => 0

/-- A number for each outcome that is recorded. -/
def ofOutcome (number : Outcome → Nat) : Effect → Int
  | .recorded o => number o
  | _ => 0

/-- One for each error that is counted by its word. -/
def ofError : Effect → Int
  | .recorded o => o.error.isSome.toNat
  | .buildFailed _ => 1
  | _ => 0

/-- One for each decision that came out in one way. -/
def ofDecision (way : Bool) : Effect → Int
  | .decided met => if met = way then 1 else 0
  | _ => 0

end Effect

namespace Metrics

theorem reads_targetsDispatched : Reads (fun m => m.targetsDispatched) Effect.ofBatch := by
  refine ⟨rfl, fun m x => ?_⟩
  cases x with
  | recorded o =>
    show ((m.recordOutcome o).targetsDispatched : Int) = m.targetsDispatched + 0
    rw [(recordOutcome_adds m o).targets, Int.add_zero]
  | counted c => cases c <;> rfl
  | decided met => cases met <;> rfl
  | _ => rfl

theorem reads_buildFailures : Reads (fun m => m.buildFailures) Effect.ofFailure := by
  refine ⟨rfl, fun m x => ?_⟩
  cases x with
  | recorded o =>
    show ((m.recordOutcome o).buildFailures : Int) = m.buildFailures + 0
    rw [(recordOutcome_adds m o).failures, Int.add_zero]
  | counted c => cases c <;> rfl
  | decided met => cases met <;> rfl
  | _ => rfl

theorem reads_inFlight : Reads inFlight Effect.ofPresence := by
  refine ⟨rfl, fun m x => ?_⟩
  cases x with
  | recorded o =>
    show (m.recordOutcome o).inFlight = m.inFlight + 0
    rw [(recordOutcome_adds m o).inFlight, Int.add_zero]
  | counted c => cases c <;> exact (add_zero _).symm
  | decided met => cases met <;> exact (add_zero _).symm
  | entered | left => rfl
  | _ => exact (add_zero _).symm

theorem reads_outcomesDelivered :
    Reads (fun m => m.outcomesDelivered) (Effect.ofOutcome fun _ => 1) := by
  refine ⟨rfl, fun m x => ?_⟩
  cases x with
  | recorded o =>
    show ((m.recordOutcome o).outcomesDelivered : Int) = m.outcomesDelivered + (1 : Nat)
    rw [(recordOutcome_adds m o).delivered, Int.natCast_add]
  | counted c => cases c <;> rfl
  | decided met => cases met <;> rfl
  | _ => rfl

theorem reads_latencySamples :
    Reads (fun m => m.latencySamples) (Effect.ofOutcome fun _ => 1) := by
  refine ⟨rfl, fun m x => ?_⟩
  cases x with
  | recorded o =>
    show ((m.recordOutcome o).latencySamples : Int) = m.latencySamples + (1 : Nat)
    rw [(recordOutcome_adds m o).samples, Int.natCast_add]
  | counted c => cases c <;> rfl
  | decided met => cases met <;> rfl
  | _ => rfl

theorem reads_outcomesSucceeded :
    Reads (fun m => m.outcomesSucceeded) (Effect.ofOutcome fun o => o.isSuccess.toNat) := by
  refine ⟨rfl, fun m x => ?_⟩
  cases x with
  | recorded o =>
    show ((m.recordOutcome o).outcomesSucceeded : Int) = m.outcomesSucceeded + o.isSuccess.toNat
    rw [(recordOutcome_adds m o).succeeded, Int.natCast_add]
  | counted c => cases c <;> rfl
  | decided met => cases met <;> rfl
  | _ => rfl

theorem reads_statuses :
    Reads (fun m => total m.statusCounts) (Effect.ofOutcome fun o => o.status?.isSome.toNat) := by
  refine ⟨rfl, fun m x => ?_⟩
  cases x with
  | recorded o =>
    show (total (m.recordOutcome o).statusCounts : Int) =
      total m.statusCounts + o.status?.isSome.toNat
    rw [(recordOutcome_tables m o).1, Outcome.mark, Outcome.statusCode?]
    cases o.status? <;> simp [total_bump]
  | counted c => cases c <;> rfl
  | decided met => cases met <;> rfl
  | _ => rfl

theorem reads_errors : Reads (fun m => total m.errorCounts) Effect.ofError := by
  refine ⟨rfl, fun m x => ?_⟩
  cases x with
  | recorded o =>
    show (total (m.recordOutcome o).errorCounts : Int) = total m.errorCounts + o.error.isSome.toNat
    rw [(recordOutcome_tables m o).2, Outcome.mark]
    cases o.error <;> simp [total_bump]
  | buildFailed e =>
    show (total (bump e.code.word m.errorCounts) : Int) = total m.errorCounts + 1
    rw [total_bump, Int.natCast_add, Int.natCast_one]
  | counted c => cases c <;> rfl
  | decided met => cases met <;> rfl
  | _ => rfl

theorem reads_quorumsMet : Reads (fun m => m.quorumsMet) (Effect.ofDecision true) := by
  refine ⟨rfl, fun m x => ?_⟩
  cases x with
  | recorded o =>
    show ((m.recordOutcome o).quorumsMet : Int) = m.quorumsMet + 0
    rw [(recordOutcome_adds m o).met, Int.add_zero]
  | counted c => cases c <;> rfl
  | decided met => cases met <;> rfl
  | _ => rfl

theorem reads_quorumsMissed : Reads (fun m => m.quorumsMissed) (Effect.ofDecision false) := by
  refine ⟨rfl, fun m x => ?_⟩
  cases x with
  | recorded o =>
    show ((m.recordOutcome o).quorumsMissed : Int) = m.quorumsMissed + 0
    rw [(recordOutcome_adds m o).missed, Int.add_zero]
  | counted c => cases c <;> rfl
  | decided met => cases met <;> rfl
  | _ => rfl

/-- Every success has a status. -/
theorem succeeded_le_statuses (h : History) :
    (Metrics.ofHistory h).outcomesSucceeded ≤ total (Metrics.ofHistory h).statusCounts := by
  have hle := History.sum_le (h := h) (Effect.ofOutcome fun o => o.isSuccess.toNat)
    (Effect.ofOutcome fun o => o.status?.isSome.toNat) fun r _ => ?_
  · rw [← reads_outcomesSucceeded.ofHistory, ← reads_statuses.ofHistory] at hle
    exact_mod_cast hle
  · cases r.effect with
    | recorded o =>
      simp only [Effect.ofOutcome, Outcome.isSuccess]
      cases o.status? with
      | none => simp
      | some status => exact_mod_cast Bool.toNat_le _
    | _ => exact Int.le_refl _

/-- An outcome has one status at most. -/
theorem statuses_le_delivered (h : History) :
    total (Metrics.ofHistory h).statusCounts ≤ (Metrics.ofHistory h).outcomesDelivered := by
  have hle := History.sum_le (h := h) (Effect.ofOutcome fun o => o.status?.isSome.toNat)
    (Effect.ofOutcome fun _ => 1) fun r _ => ?_
  · rw [← reads_statuses.ofHistory, ← reads_outcomesDelivered.ofHistory] at hle
    exact_mod_cast hle
  · cases r.effect with
    | recorded o =>
      simp only [Effect.ofOutcome]
      exact_mod_cast Bool.toNat_le _
    | _ => exact Int.le_refl _

/-- When every outcome has a status or an error, none is missing from the tables. -/
theorem delivered_le_told {h : History}
    (htold : ∀ r ∈ h, ∀ o, r.effect = .recorded o → o.isTold = true) :
    (Metrics.ofHistory h).outcomesDelivered + (Metrics.ofHistory h).buildFailures ≤
      total (Metrics.ofHistory h).statusCounts + total (Metrics.ofHistory h).errorCounts := by
  have hle := History.sum_le (h := h)
    (fun x => Effect.ofOutcome (fun _ => 1) x + x.ofFailure)
    (fun x => Effect.ofOutcome (fun o => o.status?.isSome.toNat) x + x.ofError)
    fun r hr => ?_
  · rw [History.sum_add, History.sum_add, ← reads_outcomesDelivered.ofHistory,
      ← reads_buildFailures.ofHistory, ← reads_statuses.ofHistory, ← reads_errors.ofHistory] at hle
    exact_mod_cast hle
  · cases hx : r.effect with
    | recorded o =>
      have ho := htold r hr o hx
      simp only [Outcome.isTold, Bool.or_eq_true] at ho
      simp only [Effect.ofOutcome, Effect.ofFailure, Effect.ofError]
      rcases ho with ho | ho <;> simp [ho]
    | _ => exact Int.le_refl _

end Metrics

/-! ## §6 Runs -/

namespace Engine

/-- A client that counts. -/
def countingClient : Client :=
  { (ClientBuilder.ofConfig .standard).build with metricsEnabled := true }

variable {client : Client} {now : Instant}

/-- The workers of all batches. -/
def workers (e : Engine) : List Worker := e.batches.flatMap Batch.workers

/-- Everything recorded in a run belongs to a batch of the client. -/
theorem run_batch_lt (events : List Event) :
    ∀ r ∈ ((start client now).run events).2,
      r.batch < ((start client now).run events).1.batches.length := by
  intro r hr
  by_contra hge
  have hnone : ((start client now).run events).1.batches[r.batch]? = none :=
    List.getElem?_eq_none (Nat.le_of_not_lt hge)
  -- Nothing is recorded under the number of a batch that is not there.
  have hmem := History.mem_of hr rfl
  rw [run_unborn events hnone] at hmem
  cases hmem

/-- What the batches contribute is what their workers stand for, and so it is for the client. -/
theorem run_sum {weight : Effect → Int} {value : Worker → Int} (events : List Event)
    (hbatch : ∀ number b, ((start client now).run events).1.batches[number]? = some b →
      (((start client now).run events).2.of number).sum weight = (b.workers.map value).sum) :
    ((start client now).run events).2.sum weight =
      (((start client now).run events).1.workers.map value).sum := by
  rw [History.sum_of_lt weight _ _ (run_batch_lt events), workers, List.flatMap_def,
    List.map_flatten, List.sum_flatten, List.map_map, List.map_map]
  congr 1
  refine List.ext_getElem (by simp) fun number hnumber _ => ?_
  have hlt : number < ((start client now).run events).1.batches.length := by simpa using hnumber
  simpa using hbatch number _ (List.getElem?_eq_getElem hlt)

end Engine

end Replicast
