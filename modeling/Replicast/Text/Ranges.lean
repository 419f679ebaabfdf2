/-!
# Tables of code points

Properties of characters are given as tables of code points and ranges, written in hexadecimal.

## Overview

* `Ranges.words` cuts a table into its entries, and `Ranges.read` reads entries that are ranges.
* `Ranges.contains` looks a character up.
-/

namespace Replicast

namespace Ranges

/-- The value of a lower-case hexadecimal digit; other characters count as zero. -/
def digit (c : Char) : Nat :=
  if c.isDigit then c.toNat - 48 else if 'a' ≤ c && c ≤ 'f' then c.toNat - 87 else 0

/-- A number in lower-case hexadecimal. -/
def hex (digits : List Char) : Nat :=
  digits.foldl (fun n c => n * 16 + digit c) 0

/-- One entry: `a` for a single code point, `a-b` for a range. -/
def entry (text : List Char) : Nat × Nat :=
  let first := text.takeWhile (· != '-')
  match text.drop first.length with
  | [] => (hex first, hex first)
  | _ :: last => (hex first, hex last)

/-- The words of the lines of a table, separated by blanks. -/
def words (lines : List String) : List (List Char) :=
  lines.flatMap fun line => (line.toList.splitOnP (· == ' ')).filter (!·.isEmpty)

/-- Read a table of ranges. -/
def read (table : List String) : List (Nat × Nat) :=
  (words table).map entry

def contains (ranges : List (Nat × Nat)) (c : Char) : Bool :=
  ranges.any fun (first, last) => first ≤ c.toNat && c.toNat ≤ last

end Ranges

end Replicast
