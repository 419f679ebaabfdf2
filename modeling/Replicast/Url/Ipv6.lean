import Replicast.Url.Ipv4
/-!
# Addresses of sixteen bytes

Eight numbers of sixteen bits in hexadecimal, with colons between them.  Two colons stand for a
run of zeros, and the last two numbers may be written as an address of four bytes.

## Overview

* `Ipv6.parse?` reads the text between the brackets.
* `Ipv6.text` writes an address: its longest run of zeros, the first of several, as two colons.
-/

namespace Replicast.Ipv6

/-! ## §1 Reading -/

/-- A number of one to four hexadecimal digits. -/
def group? (text : Chars) : Option Nat :=
  if text.isEmpty || 4 < text.length then none else Ipv4.inBase? 16 text

/-- A byte in decimal, without a leading zero. -/
def octet? (text : Chars) : Option Nat :=
  match text with
  | [] => none
  | ['0'] => some 0
  | '0' :: _ => none
  | digits => if 3 < digits.length then none else (Ipv4.inBase? 10 digits).filter (· ≤ 255)

/-- Four bytes as two numbers. -/
def quad? (text : Chars) : Option (List Nat) :=
  match (Chars.pieces (· == '.') text).mapM octet? with
  | some [a, b, c, d] => some [a * 256 + b, c * 256 + d]
  | _ => none

/-- The numbers between colons; only at the very end may four bytes stand for two numbers. -/
def groups? : List Chars → Option (List Nat)
  | [] => some []
  | [piece] => if piece.contains '.' then quad? piece else (group? piece).map ([·])
  | piece :: rest => do
    let n ← group? piece
    let ns ← groups? rest
    some (n :: ns)

/-- One side of the two colons; it may be empty. -/
def side? (text : Chars) : Option (List Nat) :=
  if text.isEmpty then some [] else groups? (Chars.pieces (· == ':') text)

/-- Cut at the first two colons in a row. -/
def cutGap : Chars → Option (Chars × Chars)
  | ':' :: ':' :: rest => some ([], rest)
  | c :: rest => (cutGap rest).map fun (before, after) => (c :: before, after)
  | [] => none

/-- Read an address as eight numbers. -/
def parse? (text : Chars) : Option (List Nat) :=
  match cutGap text with
  | none => (groups? (Chars.pieces (· == ':') text)).filter (·.length == 8)
  | some (before, after) => do
    if before.contains '.' then none
    else
      let front ← side? before
      let back ← side? after
      if front.length + back.length ≤ 7 then
        some (front ++ List.replicate (8 - front.length - back.length) 0 ++ back)
      else none

/-! ## §2 Writing -/

/-- The length of the run of zeros at the beginning. -/
def zeros (groups : List Nat) : Nat :=
  (groups.takeWhile (· == 0)).length

/-- Where the longest run of zeros begins, and its length; the first of several. -/
def longestGap : Nat → List Nat → Nat × Nat
  | _, [] => (0, 0)
  | i, g :: rest =>
    let here := zeros (g :: rest)
    let (j, there) := longestGap (i + 1) rest
    if there ≤ here then (i, here) else (j, there)

/-- Numbers with colons between them. -/
def colons (groups : List Nat) : Chars :=
  Chars.join [':'] (groups.map (Nat.toDigits 16))

/-- An address; a single zero is not worth two colons. -/
def text (groups : List Nat) : Chars :=
  let (start, length) := longestGap 0 groups
  if 2 ≤ length then
    colons (groups.take start) ++ "::".toList ++ colons (groups.drop (start + length))
  else colons groups

end Replicast.Ipv6
