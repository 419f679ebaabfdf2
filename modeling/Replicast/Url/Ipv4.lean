import Replicast.Text.Chars
/-!
# Addresses of four bytes

A host whose last label is a number is an address.  Its one to four parts may be written in decimal,
octal or hexadecimal, and the last one fills all the bytes that are left.

## Overview

* `Ipv4.endsInNumber` tells addresses from names.
* `Ipv4.parse?` reads an address and `Ipv4.text` writes it in four decimal parts.
-/

namespace Replicast.Ipv4

/-! ## §1 Numbers -/

/-- The value of a digit in any base up to sixteen. -/
def digitValue? (base : Nat) (c : Char) : Option Nat :=
  let n := c.toNat
  let value :=
    if 0x30 ≤ n && n ≤ 0x39 then n - 0x30
    else if 0x41 ≤ n && n ≤ 0x46 then n - 0x37
    else if 0x61 ≤ n && n ≤ 0x66 then n - 0x57
    else base
  if value < base then some value else none

/-- A number in a base; without digits it is zero. -/
def inBase? (base : Nat) (digits : Chars) : Option Nat :=
  digits.foldlM (fun n c => (digitValue? base c).map (n * base + ·)) 0

/-- A part of an address: `0x` announces hexadecimal, another leading zero octal. -/
def number? : Chars → Option Nat
  | [] => none
  | '0' :: 'x' :: digits => inBase? 16 digits
  | '0' :: 'X' :: digits => inBase? 16 digits
  | '0' :: c :: digits => inBase? 8 (c :: digits)
  | digits => inBase? 10 digits

/-! ## §2 Addresses -/

/-- The parts of a host between its dots; a single dot at the end counts for nothing. -/
def parts (host : Chars) : List Chars :=
  let all := Chars.pieces (· == '.') host
  if all.getLast? == some [] then all.dropLast else all

/-- Whether the last label of a host is a number. -/
def endsInNumber (host : Chars) : Bool :=
  match (parts host).getLast? with
  | none => false
  | some last => (!last.isEmpty && last.all Char.isDigit) || (number? last).isSome

/-- Put leading parts in front of the last one. -/
def assemble : List Nat → Nat → Nat → Option Nat
  | [], _, last => some last
  | n :: rest, weight, last =>
    if n ≤ 255 then (assemble rest (weight / 256) last).map (n * weight + ·) else none

def parse? (host : Chars) : Option Nat := do
  let ps := parts host
  if 4 < ps.length then none
  else
    let numbers ← ps.mapM number?
    let last ← numbers.getLast?
    if last < Nat.pow 256 (5 - numbers.length) then
      assemble numbers.dropLast (Nat.pow 256 3) last
    else none

/-- An address in four decimal parts. -/
def text (address : Nat) : Chars :=
  Chars.join ['.'] ([3, 2, 1, 0].map fun i => Nat.toDigits 10 (address / Nat.pow 256 i % 256))

end Replicast.Ipv4
