import Replicast.Text.Chars
/-!
# Punycode

A label with characters beyond ASCII, written in ASCII: first its ASCII characters, then the
others in the order of their code points, each as the distance from the one before in a
variable-length number whose digit thresholds adapt.

## Overview

* `Punycode.encode` and `Punycode.decode?` are the two directions, without the mark `xn--`.
-/

namespace Replicast.Punycode

/-! ## §1 Digits and thresholds -/

/-- The character of a digit: 26 letters, then ten numerals. -/
def digit (d : Nat) : Char :=
  if d < 26 then Char.ofNat (0x61 + d) else Char.ofNat (0x30 + d - 26)

def digitValue? (c : Char) : Option Nat :=
  if 'a' ≤ c && c ≤ 'z' then some (c.toNat - 0x61)
  else if 'A' ≤ c && c ≤ 'Z' then some (c.toNat - 0x41)
  else if '0' ≤ c && c ≤ '9' then some (c.toNat - 0x30 + 26)
  else none

/-- The threshold of the digit at a position: how far the position is past the bias, kept between
    1 and 26. -/
def threshold (position bias : Nat) : Nat :=
  max 1 (min 26 (position - bias))

theorem one_le_threshold (position bias : Nat) : 1 ≤ threshold position bias :=
  Nat.le_max_left ..

/-- Scale a distance down to the range of the thresholds. -/
def settle (delta position : Nat) : Nat × Nat :=
  if 455 < delta then settle (delta / 35) (position + 36) else (delta, position)
termination_by delta
decreasing_by exact Nat.div_lt_self (by omega) (by omega)

/-- The bias after a distance. -/
def adapt (delta count : Nat) (first : Bool) : Nat :=
  let d := if first then delta / 700 else delta / 2
  let (d, position) := settle (d + d / count) 0
  position + 36 * d / (d + 38)

/-! ## §2 Writing -/

/-- A distance as a variable-length number. -/
def number (bias position n : Nat) : Chars :=
  let t := threshold position bias
  if n < t then [digit n]
  else digit (t + (n - t) % (36 - t)) :: number bias (position + 36) ((n - t) / (36 - t))
termination_by n
decreasing_by
  have h := one_le_threshold position bias
  exact Nat.lt_of_le_of_lt (Nat.div_le_self ..) (by omega)

/-- What is known while the characters are written in order. -/
structure Progress where
  written : Chars
  delta : Nat
  bias : Nat
  handled : Nat

/-- Pass over one character of the label while the characters with code point `n` are written. -/
def visit (basic n : Nat) (p : Progress) (c : Char) : Progress :=
  if c.toNat < n then { p with delta := p.delta + 1 }
  else if c.toNat = n then
    { written := p.written ++ number p.bias 36 p.delta
      delta := 0
      bias := adapt p.delta (p.handled + 1) (p.handled == basic)
      handled := p.handled + 1 }
  else p

/-- Write the characters of each code point in turn; `n` is the least code point not yet passed. -/
def writeAll (label : Chars) (basic : Nat) : List Nat → Nat → Progress → Progress
  | [], _, p => p
  | m :: rest, n, p =>
    let p := { p with delta := p.delta + (m - n) * (p.handled + 1) }
    let p := label.foldl (visit basic m) p
    writeAll label basic rest (m + 1) { p with delta := p.delta + 1 }

/-- A label in ASCII. -/
def encode (label : Chars) : Chars :=
  let basic := label.filter (·.toNat < 0x80)
  let others := ((label.filter (0x80 ≤ ·.toNat)).map Char.toNat).mergeSort.eraseDups
  basic ++ (if basic.isEmpty then [] else ['-'])
    ++ (writeAll label basic.length others 0x80 ⟨[], 0, 72, basic.length⟩).written

/-! ## §3 Reading -/

/-- Read a distance: the index it leads to, and the text behind it. -/
def readNumber? (bias : Nat) : Chars → Nat → Nat → Nat → Option (Nat × Chars)
  | [], _, _, _ => none
  | c :: rest, position, weight, i => do
    let d ← digitValue? c
    let t := threshold position bias
    if d < t then some (i + d * weight, rest)
    else readNumber? bias rest (position + 36) (weight * (36 - t)) (i + d * weight)

/-- Read distances and insert the characters they lead to.  The first argument bounds their
    number. -/
def insertAll? : Nat → Chars → Nat → Nat → Nat → Chars → Option Chars
  | 0, _, _, _, _, _ => none
  | _, [], _, _, _, label => some label
  | fuel + 1, c :: rest, n, i, bias, label => do
    let (j, rest) ← readNumber? bias (c :: rest) 36 1 i
    let length := label.length + 1
    let bias := adapt (j - i) length (i == 0)
    let n := n + j / length
    let place := j % length
    if 0x10FFFF < n || (0xD800 ≤ n && n ≤ 0xDFFF) then none
    else
      insertAll? fuel rest n (place + 1) bias
        (label.take place ++ Char.ofNat n :: label.drop place)

/-- Read a label. -/
def decode? (text : Chars) : Option Chars :=
  if text.any (0x80 ≤ ·.toNat) then none
  else
    let (basic, rest) := Chars.cutLast (· == '-') text
    insertAll? (rest.length + 1) rest 0x80 0 72 (basic.getD [])

end Replicast.Punycode
