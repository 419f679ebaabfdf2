/-!
# Binary floating-point numbers

A double is sixty-four bits: a sign, an exponent and a significand.  This module reads the bits as
an exact value and finds the fewest decimal digits that read back as the same double.

## Overview

* `Double.parts` gives the exact value of a finite double as `m * 2 ^ q`.
* `Shortest.digits` tries one digit, then two, and so on: on each decimal grid only the two
  neighbours of the value can lie in the interval of reals that round to it; the first grid with
  such a neighbour wins, and the nearer of two.
* `Shortest.text` writes the digits, in place for exponents from -5 to 15 and with a power of ten
  otherwise.
-/

namespace Replicast

/-- A double by its bits. -/
structure Double where
  bits : UInt64
deriving DecidableEq, Repr

namespace Double

/-! ## §1 The exact value -/

def ofFloat (x : Float) : Double := ⟨x.toBits⟩

def isNegative (d : Double) : Bool := Nat.pow 2 63 ≤ d.bits.toNat

def exponentField (d : Double) : Nat := d.bits.toNat / Nat.pow 2 52 % 2048

def fractionField (d : Double) : Nat := d.bits.toNat % Nat.pow 2 52

/-- The magnitude of a finite double is `m * 2 ^ q`. -/
def parts (d : Double) : Nat × Int :=
  if d.exponentField = 0 then (d.fractionField, -1074)
  else (Nat.pow 2 52 + d.fractionField, (d.exponentField : Int) - 1075)

/-- Whether the next double below is only half as far away as the next one above. -/
def isLowerEdge (d : Double) : Bool :=
  d.fractionField = 0 && 1 < d.exponentField

end Double

/-- A double with the reals that round to it: its magnitude and the two ends of the interval, over
    one denominator. -/
structure Neighbourhood where
  value : Nat
  lower : Nat
  upper : Nat
  denominator : Nat
  /-- Whether the ends themselves round to the double. -/
  closed : Bool

namespace Neighbourhood

/-- The neighbourhood of a finite double. -/
def of (d : Double) : Neighbourhood :=
  let (m, q) := d.parts
  let lower := if d.isLowerEdge then 4 * m - 1 else 4 * m - 2
  let up := Nat.pow 2 (q - 2).toNat
  ⟨4 * m * up, lower * up, (4 * m + 2) * up, Nat.pow 2 (2 - q).toNat, m % 2 = 0⟩

def scale (n : Neighbourhood) (e : Int) : Neighbourhood :=
  let up := Nat.pow 10 e.toNat
  { n with
    value := n.value * up, lower := n.lower * up, upper := n.upper * up
    denominator := n.denominator * Nat.pow 10 (-e).toNat }

/-- Whether a whole number rounds to the double. -/
def holds (n : Neighbourhood) (k : Nat) : Bool :=
  let x := k * n.denominator
  if n.closed then n.lower ≤ x && x ≤ n.upper else n.lower < x && x < n.upper

/-- The whole number next to the value that rounds to the double, the nearer one if both do. -/
def nearest? (n : Neighbourhood) : Option Nat :=
  let below := n.value / n.denominator
  let above := below + 1
  let gapBelow := n.value - below * n.denominator
  let gapAbove := above * n.denominator - n.value
  match n.holds below, n.holds above with
  | true, true => if gapBelow ≤ gapAbove then some below else some above
  | true, false => some below
  | false, true => some above
  | false, false => none

end Neighbourhood

namespace Shortest

/-! ## §2 The fewest digits -/

/-- The decimal exponent of the first digit of a fraction below one: how often it must be multiplied
    by ten to reach one. -/
def leadingZeros (value denominator : Nat) : Nat → Nat
  | 0 => 0
  | fuel + 1 => if denominator ≤ value then 0 else leadingZeros (value * 10) denominator fuel + 1

/-- The decimal exponent of the first digit. -/
def magnitude (n : Neighbourhood) : Int :=
  let whole := n.value / n.denominator
  if whole = 0 then -(leadingZeros n.value n.denominator 400 : Int)
  else ((Nat.toDigits 10 whole).length : Int) - 1

/-- Try grids from coarse to fine: `k` on the grid of `10 ^ e`. -/
def search (n : Neighbourhood) (top : Int) : Nat → Nat → Nat × Int
  | 0, _ => (0, 0)
  | fuel + 1, count =>
    let e := top - (count : Int) + 1
    match (n.scale (-e)).nearest? with
    | some k => (k, e)
    | none => search n top fuel (count + 1)

/-- Drop trailing zeros of the digits. -/
def trim : Nat → Nat × Int → Nat × Int
  | 0, p => p
  | fuel + 1, (k, e) => if k != 0 && k % 10 == 0 then trim fuel (k / 10, e + 1) else (k, e)

/-- The fewest digits that read back as a finite double other than zero: it rounds from
    `k * 10 ^ e`. -/
def digits (d : Double) : Nat × Int :=
  let n := Neighbourhood.of d
  trim 20 (search n (magnitude n) 18 1)

/-! ## §3 Text -/

/-- Exponents of the first digit from this one on are written in place. -/
def leastInPlace : Int := -5

/-- Exponents of the first digit up to this one are written in place. -/
def mostInPlace : Int := 15

/-- Write digits and exponent; there is always a point or a power of ten. -/
def layout (k : Nat) (e : Int) : List Char :=
  let ds := Nat.toDigits 10 k
  let top := e + ds.length - 1
  if leastInPlace ≤ top && top ≤ mostInPlace then
    if 0 ≤ e then ds ++ List.replicate e.toNat '0' ++ ".0".toList
    else if 0 ≤ top then
      ds.take (top + 1).toNat ++ '.' :: ds.drop (top + 1).toNat
    else "0.".toList ++ List.replicate (-top - 1).toNat '0' ++ ds
  else
    let fraction := if ds.length ≤ 1 then [] else '.' :: ds.drop 1
    let sign := if top < 0 then '-' else '+'
    ds.take 1 ++ fraction ++ 'e' :: sign :: Nat.toDigits 10 top.natAbs

def text (d : Double) : List Char :=
  let body :=
    if d.parts.1 = 0 then "0.0".toList
    else
      let (k, e) := digits d
      layout k e
  if d.isNegative then '-' :: body else body

end Shortest

end Replicast
