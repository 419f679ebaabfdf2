import Mathlib.Algebra.Group.Nat.Defs
import Replicast.Decimal.Double
/-!
# The length of a double in decimal

However a double looks, its decimal text takes a few dozen characters.

## Overview

* `Shortest.value_lt` says that `Shortest.magnitude` is the exponent of the first digit.
* `Shortest.search_le` and `Shortest.magnitude_mem` bound the digits and the exponent.
* `Shortest.text_length_le` is the result.
-/

namespace Replicast

/-! ## §1 Magnitudes -/

namespace Neighbourhood

variable {n : Neighbourhood} {k : Nat}

theorem nearest?_le (h : n.nearest? = some k) : k ≤ n.value / n.denominator + 1 := by
  simp only [nearest?] at h
  split at h
  · split at h <;> cases h <;> omega
  · cases h; omega
  · cases h; omega
  · cases h

theorem of_denominator_pos (d : Double) : 0 < (of d).denominator :=
  Nat.pow_pos (by decide)

/-- No significand has more than 53 bits, and no exponent is greater than 972. -/
theorem of_value_lt (d : Double) : (of d).value < 2 ^ 1025 := by
  have hfraction : d.fractionField < 2 ^ 52 := Nat.mod_lt _ (by decide)
  have hexponent : d.exponentField < 2048 := Nat.mod_lt _ (by decide)
  have hm : d.parts.1 < 2 ^ 53 := by
    unfold Double.parts
    split <;> simp only [Nat.pow_eq] <;> omega
  have hq : d.parts.2 ≤ 972 := by
    unfold Double.parts
    split <;> simp only <;> omega
  -- The power stays a variable, so that nobody evaluates it.
  have hbelow (power : Nat) (hpower : 55 + (d.parts.2 - 2).toNat ≤ power) :
      (of d).value < 2 ^ power :=
    calc (of d).value = 4 * d.parts.1 * 2 ^ (d.parts.2 - 2).toNat := rfl
      _ < 2 ^ 55 * 2 ^ (d.parts.2 - 2).toNat :=
        Nat.mul_lt_mul_of_pos_right (by omega) (Nat.pow_pos Nat.two_pos)
      _ = 2 ^ (55 + (d.parts.2 - 2).toNat) := (Nat.pow_add 2 55 _).symm
      _ ≤ 2 ^ power := Nat.pow_le_pow_right Nat.two_pos hpower
  exact hbelow 1025 (by omega)

end Neighbourhood

namespace Shortest

variable {n : Neighbourhood}

theorem leadingZeros_le (value denominator fuel : Nat) :
    leadingZeros value denominator fuel ≤ fuel := by
  induction fuel generalizing value with
  | zero => exact Nat.le_refl 0
  | succ fuel ih =>
    unfold leadingZeros
    split
    · exact Nat.zero_le _
    · exact Nat.succ_le_succ (ih (value * 10))

/-- One multiplication less does not reach one. -/
theorem mul_pow_leadingZeros_lt {value denominator : Nat} (h : value < denominator) (fuel : Nat) :
    value * 10 ^ (leadingZeros value denominator fuel - 1) < denominator := by
  induction fuel generalizing value with
  | zero => simpa [leadingZeros] using h
  | succ fuel ih =>
    rw [leadingZeros, if_neg (Nat.not_le.mpr h), Nat.add_sub_cancel]
    cases hzeros : leadingZeros (value * 10) denominator fuel with
    | zero => simpa using h
    | succ zeros =>
      -- A second multiplication comes only where the first one was not enough.
      have hten : value * 10 < denominator := by
        refine Nat.lt_of_not_le fun hreached => ?_
        cases fuel with
        | zero => cases hzeros
        | succ fuel => simp [leadingZeros, hreached] at hzeros
      have hmore := ih hten
      rw [hzeros, Nat.add_sub_cancel] at hmore
      calc value * 10 ^ (zeros + 1) = value * 10 * 10 ^ zeros := by
            rw [Nat.pow_succ', Nat.mul_assoc]
        _ < denominator := hmore

/-- **A double is less than the power of ten behind its magnitude.**  Both sides are free of
    negative exponents. -/
theorem value_lt (hden : 0 < n.denominator) :
    n.value * 10 ^ (-magnitude n - 1).toNat < n.denominator * 10 ^ (magnitude n + 1).toNat := by
  simp only [magnitude]
  split
  · rename_i hwhole
    have hvalue : n.value < n.denominator := (Nat.div_eq_zero_iff_lt hden).mp hwhole
    have hzeros := mul_pow_leadingZeros_lt hvalue 400
    generalize leadingZeros n.value n.denominator 400 = zeros at hzeros ⊢
    have hfirst : (-(-(zeros : Int)) - 1).toNat = zeros - 1 := by omega
    rw [hfirst]
    exact Nat.lt_of_lt_of_le hzeros (Nat.le_mul_of_pos_right _ (Nat.pow_pos (by decide)))
  · rename_i hwhole
    have hlength : 0 < (Nat.toDigits 10 (n.value / n.denominator)).length :=
      Nat.length_toDigits_pos
    have hdigits : n.value / n.denominator <
        10 ^ (Nat.toDigits 10 (n.value / n.denominator)).length :=
      (Nat.length_toDigits_le_iff (by decide) hlength).mp (Nat.le_refl _)
    generalize (Nat.toDigits 10 (n.value / n.denominator)).length = length at hlength hdigits ⊢
    have hfirst : (-((length : Int) - 1) - 1).toNat = 0 := by omega
    have hlast : ((length : Int) - 1 + 1).toNat = length := by omega
    rw [hfirst, hlast, Nat.pow_zero, Nat.mul_one, Nat.mul_comm]
    exact (Nat.div_lt_iff_lt_mul hden).mp hdigits

/-- The magnitude of a double has three digits at most. -/
theorem magnitude_mem (d : Double) :
    -400 ≤ magnitude (.of d) ∧ magnitude (.of d) ≤ 400 := by
  have hzeros := leadingZeros_le (Neighbourhood.of d).value (Neighbourhood.of d).denominator 400
  have hwhole : (Neighbourhood.of d).value / (Neighbourhood.of d).denominator < 10 ^ 400 :=
    calc (Neighbourhood.of d).value / (Neighbourhood.of d).denominator
        ≤ (Neighbourhood.of d).value := Nat.div_le_self _ _
      _ < 2 ^ 1025 := Neighbourhood.of_value_lt d
      _ < 10 ^ 400 := by decide +kernel
  have hdigits := (Nat.length_toDigits_le_iff (by decide) (by decide)).mpr hwhole
  simp only [magnitude]
  split <;> omega

/-! ## §2 Digits -/

/-- On the grid that leaves some digits before the point, the double is less than that power of
    ten. -/
theorem scale_lt (hden : 0 < n.denominator) (count : Nat) :
    (n.scale (count - 1 - magnitude n)).value / (n.scale (count - 1 - magnitude n)).denominator <
      10 ^ count := by
  have hvalue := value_lt hden
  refine (Nat.div_lt_iff_lt_mul (Nat.mul_pos hden (Nat.pow_pos (by decide)))).mpr ?_
  change n.value * 10 ^ (count - 1 - magnitude n).toNat <
    10 ^ count * (n.denominator * 10 ^ (-(count - 1 - magnitude n)).toNat)
  generalize magnitude n = top at hvalue ⊢
  -- Both sides may be multiplied by the power that stands behind the magnitude.
  have hexponents : (count - 1 - top).toNat + (top + 1).toNat =
      (-top - 1).toNat + (count + (-(count - 1 - top)).toNat) := by omega
  refine Nat.lt_of_mul_lt_mul_right (a := 10 ^ (top + 1).toNat) ?_
  generalize (count - 1 - top).toNat = a at *
  generalize (-(count - 1 - top)).toNat = b at *
  generalize (top + 1).toNat = c at *
  generalize (-top - 1).toNat = r at *
  have hregroup (d x y z : Nat) : d * x * (y * z) = y * (d * z) * x := by ac_rfl
  calc n.value * 10 ^ a * 10 ^ c
      = n.value * 10 ^ r * 10 ^ (count + b) := by
        rw [Nat.mul_assoc, ← Nat.pow_add, hexponents, Nat.pow_add, Nat.mul_assoc]
    _ < n.denominator * 10 ^ c * 10 ^ (count + b) :=
        Nat.mul_lt_mul_of_pos_right hvalue (Nat.pow_pos (by decide))
    _ = 10 ^ count * (n.denominator * 10 ^ b) * 10 ^ c := by
        rw [Nat.pow_add]
        exact hregroup _ _ _ _

/-- A search finds no more digits than grids were tried. -/
theorem search_le (hden : 0 < n.denominator) (fuel count : Nat) :
    (search n (magnitude n) fuel count).1 ≤ 10 ^ (fuel + count) := by
  induction fuel generalizing count with
  | zero => exact Nat.zero_le _
  | succ fuel ih =>
    have hgrid : -(magnitude n - (count : Int) + 1) = count - 1 - magnitude n := by omega
    rw [search, hgrid]
    split
    · rename_i k hk
      calc k ≤ (n.scale (count - 1 - magnitude n)).value /
            (n.scale (count - 1 - magnitude n)).denominator + 1 := Neighbourhood.nearest?_le hk
        _ ≤ 10 ^ count := scale_lt hden count
        _ ≤ 10 ^ (fuel + 1 + count) := Nat.pow_le_pow_right (by decide) (by omega)
    · exact Nat.le_trans (ih (count + 1)) (Nat.pow_le_pow_right (by decide) (by omega))

/-- A search ends on a grid that it tried, or without digits. -/
theorem search_exponent (n : Neighbourhood) (top : Int) (fuel count : Nat) :
    (search n top fuel count).2 = 0 ∨
      top - (fuel + count) ≤ (search n top fuel count).2 ∧
        (search n top fuel count).2 ≤ top - count + 1 := by
  induction fuel generalizing count with
  | zero => exact .inl rfl
  | succ fuel ih =>
    rw [search]
    split
    · exact .inr ⟨by simp only; omega, by simp only; omega⟩
    · rcases ih (count + 1) with hnone | ⟨hleast, hmost⟩
      · exact .inl hnone
      · exact .inr ⟨by omega, by omega⟩

theorem trim_le (fuel : Nat) (p : Nat × Int) :
    (trim fuel p).1 ≤ p.1 ∧ p.2 ≤ (trim fuel p).2 ∧ (trim fuel p).2 ≤ p.2 + fuel := by
  induction fuel generalizing p with
  | zero => exact ⟨Nat.le_refl _, Int.le_refl _, by simp [trim]⟩
  | succ fuel ih =>
    rw [trim]
    split
    · obtain ⟨hdigits, hleast, hmost⟩ := ih (p.1 / 10, p.2 + 1)
      exact ⟨Nat.le_trans hdigits (Nat.div_le_self p.1 10), by omega, by omega⟩
    · exact ⟨Nat.le_refl _, Int.le_refl _, by simp only; omega⟩

/-- The digits of a double, and the exponent of the last one. -/
theorem digits_bounds (d : Double) :
    (digits d).1 ≤ 10 ^ 19 ∧ -500 ≤ (digits d).2 ∧ (digits d).2 ≤ 500 := by
  obtain ⟨hsmall, hlarge⟩ := magnitude_mem d
  have hdigits := search_le (Neighbourhood.of_denominator_pos d) 18 1
  have hexponent := search_exponent (.of d) (magnitude (.of d)) 18 1
  obtain ⟨hle, hleast, hmost⟩ := trim_le 20 (search (.of d) (magnitude (.of d)) 18 1)
  refine ⟨Nat.le_trans hle hdigits, ?_, ?_⟩ <;> simp only [digits] <;> omega

/-! ## §3 Text -/

/-- Twenty digits in place, or with a power of ten of three digits. -/
theorem layout_length_le {k : Nat} {e : Int} (hk : k ≤ 10 ^ 19) (hleast : -500 ≤ e)
    (hmost : e ≤ 500) : (layout k e).length ≤ 30 := by
  have hdigits : (Nat.toDigits 10 k).length ≤ 20 :=
    (Nat.length_toDigits_le_iff (by decide) (by decide)).mpr (by omega)
  have hexponent : (Nat.toDigits 10 (e + (Nat.toDigits 10 k).length - 1).natAbs).length ≤ 3 :=
    (Nat.length_toDigits_le_iff (by decide) (by decide)).mpr (by omega)
  have hmark : ".0".toList.length = 2 ∧ "0.".toList.length = 2 := ⟨rfl, rfl⟩
  have hrange : leastInPlace = -5 ∧ mostInPlace = 15 := ⟨rfl, rfl⟩
  simp only [layout, Bool.and_eq_true, decide_eq_true_eq]
  generalize Nat.toDigits 10 k = ds at hdigits hexponent ⊢
  generalize Nat.toDigits 10 (e + ds.length - 1).natAbs = es at hexponent ⊢
  split
  · split
    · simp only [List.length_append, List.length_replicate, hmark.1]
      omega
    · split
      · simp only [List.length_append, List.length_cons, List.length_take, List.length_drop]
        omega
      · simp only [List.length_append, List.length_replicate, hmark.2]
        omega
  · -- A power of ten stands behind one digit and the others.
    simp only [List.length_append, List.length_cons, List.length_take]
    split
    · simp only [List.length_nil]
      omega
    · simp only [List.length_cons, List.length_drop]
      omega

/-- **The text of a double is short.** -/
theorem text_length_le (d : Double) : (text d).length ≤ 31 := by
  obtain ⟨hdigits, hleast, hmost⟩ := digits_bounds d
  have hlayout := layout_length_le hdigits hleast hmost
  have hzero : "0.0".toList.length = 3 := rfl
  simp only [text]
  split <;> split <;> (try rw [List.length_cons]) <;> omega

end Shortest

end Replicast
