import Mathlib.Data.List.Basic
import Replicast.Engine
import Replicast.Proofs.Batch.Kinds
/-!
# The doings of one batch

A history mixes the effects of all batches.  Claims about one batch, or about one target of it, are
read off its own part of the history.

## Overview

* `History.of` is the part of one batch, with the position of each effect.
* `Doings.effectsAt` are the effects for the target at one position.
* `Doings.posted` and `Doings.consumed` are the outcomes that were posted to the channel of the
  batch, and those that its reducer took from it, in order.
-/

namespace Replicast

/-- What one batch does, in order. -/
abbrev Doings := List Engine.Placed

/-- The part of one batch in a history. -/
def History.of (h : History) (batch : Nat) : Doings :=
  h.filterMap fun r => if r.batch = batch then some (r.position, r.effect) else none

theorem Engine.unplaced_cons (x : Effect) (effects : List Effect) :
    Engine.unplaced (x :: effects) = (none, x) :: Engine.unplaced effects := rfl

namespace Doings

/-- The effects for the target at a position. -/
def effectsAt (d : Doings) (position : Nat) : List Effect :=
  d.filterMap fun (place, effect) => if place = some position then some effect else none

/-- The outcomes that were posted. -/
def posted (d : Doings) : List Outcome := d.filterMap fun x => x.2.posted?

/-- The outcomes that were posted for the target at a position. -/
def postedAt (d : Doings) (position : Nat) : List Outcome :=
  (d.effectsAt position).filterMap Effect.posted?

/-- The outcomes that the reducer took. -/
def consumed (d : Doings) : List Outcome := d.filterMap fun x => x.2.consumed?

/-! ## §1 Views of parts -/

@[simp] theorem effectsAt_nil (position : Nat) : effectsAt [] position = [] := rfl

@[simp] theorem posted_nil : posted [] = [] := rfl

@[simp] theorem consumed_nil : consumed [] = [] := rfl

@[simp] theorem effectsAt_cons_none (effect : Effect) (d : Doings) (position : Nat) :
    effectsAt ((none, effect) :: d) position = effectsAt d position := rfl

@[simp] theorem posted_cons (x : Engine.Placed) (d : Doings) :
    posted (x :: d) = x.2.posted?.toList ++ posted d := by
  cases h : x.2.posted? <;> simp [posted, h]

@[simp] theorem consumed_cons (x : Engine.Placed) (d : Doings) :
    consumed (x :: d) = x.2.consumed?.toList ++ consumed d := by
  cases h : x.2.consumed? <;> simp [consumed, h]

@[simp] theorem effectsAt_append (d k : Doings) (position : Nat) :
    effectsAt (d ++ k) position = effectsAt d position ++ effectsAt k position :=
  List.filterMap_append

@[simp] theorem posted_append (d k : Doings) : posted (d ++ k) = posted d ++ posted k :=
  List.filterMap_append

@[simp] theorem postedAt_append (d k : Doings) (position : Nat) :
    postedAt (d ++ k) position = postedAt d position ++ postedAt k position := by
  simp [postedAt]

@[simp] theorem consumed_append (d k : Doings) : consumed (d ++ k) = consumed d ++ consumed k :=
  List.filterMap_append

theorem mem_effectsAt {d : Doings} {position : Nat} {x : Effect} :
    x ∈ d.effectsAt position ↔ (some position, x) ∈ d := by
  simp only [effectsAt, List.mem_filterMap, Prod.exists]
  constructor
  · rintro ⟨place, effect, hmem, hx⟩
    split at hx
    · rename_i hplace
      obtain rfl := Option.some.inj hx
      exact hplace ▸ hmem
    · cases hx
  · exact fun hmem => ⟨some position, x, hmem, by simp⟩

/-- What was posted for one target is among what was posted. -/
theorem mem_posted_of_postedAt {d : Doings} {position : Nat} {o : Outcome}
    (h : o ∈ d.postedAt position) : o ∈ d.posted := by
  obtain ⟨x, hx, hposted⟩ := List.mem_filterMap.mp h
  exact List.mem_filterMap.mpr ⟨_, mem_effectsAt.mp hx, hposted⟩

/-- Effects that all belong to one position. -/
def here (position : Nat) (effects : List Effect) : Doings := effects.map (some position, ·)

@[simp] theorem effectsAt_here (position : Nat) (effects : List Effect) :
    effectsAt (here position effects) position = effects := by
  simp [Doings.effectsAt, here, List.filterMap_map]

theorem effectsAt_here_ne {position other : Nat} (h : position ≠ other) (effects : List Effect) :
    effectsAt (here position effects) other = [] := by
  simp [Doings.effectsAt, here, List.filterMap_map, h]

@[simp] theorem effectsAt_unplaced (effects : List Effect) (position : Nat) :
    effectsAt (Engine.unplaced effects) position = [] := by
  simp [Doings.effectsAt, Engine.unplaced, List.filterMap_map]

@[simp] theorem posted_here (position : Nat) (effects : List Effect) :
    posted (here position effects) = effects.filterMap Effect.posted? := by
  simp [posted, here, List.filterMap_map]

@[simp] theorem consumed_here (position : Nat) (effects : List Effect) :
    consumed (here position effects) = effects.filterMap Effect.consumed? := by
  simp [consumed, here, List.filterMap_map]

@[simp] theorem posted_unplaced (effects : List Effect) :
    posted (Engine.unplaced effects) = effects.filterMap Effect.posted? := by
  simp [posted, Engine.unplaced, List.filterMap_map]

@[simp] theorem consumed_unplaced (effects : List Effect) :
    consumed (Engine.unplaced effects) = effects.filterMap Effect.consumed? := by
  simp [consumed, Engine.unplaced, List.filterMap_map]

/-- Judging and returning post nothing. -/
theorem posted_of_concluding {d : Doings} (h : ∀ x ∈ d, x.2.isConcluding = true) :
    d.posted = [] :=
  List.filterMap_eq_nil_iff.mpr fun x hx => Effect.posted?_of_isConcluding (h x hx)

/-- Judging and returning take nothing from the channel. -/
theorem consumed_of_concluding {d : Doings} (h : ∀ x ∈ d, x.2.isConcluding = true) :
    d.consumed = [] :=
  List.filterMap_eq_nil_iff.mpr fun x hx => Effect.consumed?_of_isConcluding (h x hx)

/-- Effects of a batch as a whole are concluding when each of them is. -/
theorem unplaced_concluding {effects : List Effect} (h : ∀ x ∈ effects, x.isConcluding = true) :
    ∀ x ∈ Engine.unplaced effects, x.2.isConcluding = true := by
  intro x hx
  obtain ⟨effect, heffect, rfl⟩ := List.mem_map.mp hx
  exact h effect heffect

end Doings

/-! ## §2 Parts of a history -/

namespace History

@[simp] theorem of_nil (batch : Nat) : of [] batch = [] := rfl

@[simp] theorem of_append (h k : History) (batch : Nat) :
    of (h ++ k) batch = of h batch ++ of k batch :=
  List.filterMap_append

@[simp] theorem of_records (e : Engine) (batch : Nat) (d : Doings) :
    of (e.records batch d) batch = d := by
  simp [of, Engine.records, List.filterMap_map]

theorem of_records_ne {batch other : Nat} (h : batch ≠ other) (e : Engine) (d : Doings) :
    of (e.records batch d) other = [] := by
  simp [of, Engine.records, List.filterMap_map, h]

theorem mem_of {h : History} {batch : Nat} {r : Record} (hr : r ∈ h) (hbatch : r.batch = batch) :
    (r.position, r.effect) ∈ h.of batch :=
  List.mem_filterMap.mpr ⟨r, hr, by simp [hbatch]⟩

/-- A post that passes a check is found by looking for its outcome. -/
theorem exists_post {h : History} {check : Record → Outcome → Bool}
    (hany : (h.any fun r => r.effect.posted?.any (check r)) = true) :
    ∃ r ∈ h, ∃ o posting, r.effect = .posted o posting ∧ check r o = true := by
  obtain ⟨r, hr, hpost⟩ := List.any_eq_true.mp hany
  obtain ⟨o, hposted, hcheck⟩ := (Option.any_eq_true _ _).mp hpost
  obtain ⟨posting, heffect⟩ := Effect.posted?_eq_some.mp hposted
  exact ⟨r, hr, o, posting, heffect, hcheck⟩

end History

end Replicast
