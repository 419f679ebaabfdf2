/-!
# Durations

A span of time in whole nanoseconds, up to the largest one a clock call can name.

## Overview

* `Duration.max` is the longest span: 2^64 - 1 seconds and 999 999 999 nanoseconds.
* `Duration.text` writes a span in the largest unit that leaves a whole part, with as many
  fractional digits as it needs: `30s`, `1.5s`, `120µs`, `0ns`.
* `Duration.decimal` writes seconds with all nine fractional digits.
-/

namespace Replicast

/-- A span of time. -/
structure Duration where
  /-- Its length in nanoseconds. -/
  nanos : Nat
deriving DecidableEq, Repr

namespace Duration

/-! ## §1 Units -/

def nanosPerMilli : Nat := 1000000

def nanosPerSecond : Nat := 1000000000

def ofMillis (ms : Nat) : Duration := ⟨ms * nanosPerMilli⟩

def ofSeconds (s : Nat) : Duration := ⟨s * nanosPerSecond⟩

/-- The longest span. -/
def max : Duration := ⟨(Nat.pow 2 64 - 1) * nanosPerSecond + 999999999⟩

def millis (d : Duration) : Nat := d.nanos / nanosPerMilli

def seconds (d : Duration) : Nat := d.nanos / nanosPerSecond

instance : LE Duration := ⟨fun a b => a.nanos ≤ b.nanos⟩

instance (a b : Duration) : Decidable (a ≤ b) := inferInstanceAs (Decidable (a.nanos ≤ b.nanos))

instance : LT Duration := ⟨fun a b => a.nanos < b.nanos⟩

instance (a b : Duration) : Decidable (a < b) := inferInstanceAs (Decidable (a.nanos < b.nanos))

def longer (a b : Duration) : Duration := ⟨Nat.max a.nanos b.nanos⟩

theorem le_longer_right (a b : Duration) : b ≤ a.longer b := Nat.le_max_right _ _

/-! ## §2 Text -/

/-- A number padded with zeros on the left to a given width. -/
def padded (width n : Nat) : List Char :=
  let digits := Nat.toDigits 10 n
  List.replicate (width - digits.length) '0' ++ digits

/-- The fractional digits of `part / 10 ^ width` without trailing zeros, after a point; nothing when
    the fraction is zero. -/
def fraction (width part : Nat) : List Char :=
  let digits := ((padded width part).reverse.dropWhile (· == '0')).reverse
  if digits.isEmpty then [] else '.' :: digits

/-- A whole part, its fraction of `10 ^ width`, and a unit. -/
def inUnit (nanos width : Nat) (name : String) : String :=
  let unit := Nat.pow 10 width
  String.ofList (Nat.toDigits 10 (nanos / unit) ++ fraction width (nanos % unit)) ++ name

/-- A span in the largest unit that leaves a whole part. -/
def text (d : Duration) : String :=
  if nanosPerSecond ≤ d.nanos then inUnit d.nanos 9 "s"
  else if nanosPerMilli ≤ d.nanos then inUnit d.nanos 6 "ms"
  else if 1000 ≤ d.nanos then inUnit d.nanos 3 "µs"
  else inUnit d.nanos 0 "ns"

/-- Seconds with nine fractional digits. -/
def decimal (d : Duration) : String :=
  String.ofList (Nat.toDigits 10 d.seconds ++ '.' :: padded 9 (d.nanos % nanosPerSecond))

end Duration

end Replicast
