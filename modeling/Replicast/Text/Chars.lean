/-!
# Lists of characters

Cutting a text at a character, and trimming it.

## Overview

* `Chars.cut` cuts at the first character of a class and drops that character.
* `Chars.pieces` cuts at every one.
* `Chars.trimStart`, `Chars.trimEnd` and `Chars.trim` drop a class of characters at the ends.
* `Chars.dropLead?` drops a given beginning.
* `Chars.replace` puts one text in the place of another.
-/

namespace Replicast

/-- A text, character by character. -/
abbrev Chars := List Char

namespace Chars

/-! ## §1 Cutting -/

/-- What stands before the first character of a class, and what stands after it if there is one. -/
def cut (p : Char → Bool) : Chars → Chars × Option Chars
  | [] => ([], none)
  | c :: rest =>
    if p c then ([], some rest)
    else
      let (before, after) := cut p rest
      (c :: before, after)

/-- What stands before the last character of a class, if there is one, and what stands after it. -/
def cutLast (p : Char → Bool) (text : Chars) : Option Chars × Chars :=
  let (after, before) := cut p text.reverse
  (before.map List.reverse, after.reverse)

/-- The pieces between the characters of a class; there is always at least one. -/
def pieces (p : Char → Bool) : Chars → List Chars
  | [] => [[]]
  | c :: rest =>
    if p c then [] :: pieces p rest
    else
      match pieces p rest with
      | [] => [[c]]
      | first :: others => (c :: first) :: others

/-- Pieces with a text between them. -/
def join (between : Chars) : List Chars → Chars
  | [] => []
  | [piece] => piece
  | piece :: rest => piece ++ between ++ join between rest

/-! ## §2 Ends -/

/-- Drop a class of characters at the beginning. -/
def trimStart (p : Char → Bool) (text : Chars) : Chars :=
  text.dropWhile p

/-- Drop a class of characters at the end. -/
def trimEnd (p : Char → Bool) (text : Chars) : Chars :=
  (text.reverse.dropWhile p).reverse

/-- Drop a class of characters at both ends. -/
def trim (p : Char → Bool) (text : Chars) : Chars :=
  trimEnd p (trimStart p text)

/-- The rest of a text behind a given beginning. -/
def dropLead? : Chars → Chars → Option Chars
  | [], text => some text
  | _ :: _, [] => none
  | c :: lead, d :: rest => if c == d then dropLead? lead rest else none

def hasLead (lead text : Chars) : Bool :=
  (dropLead? lead text).isSome

def occursIn (needle : Chars) : Chars → Bool
  | [] => needle.isEmpty
  | c :: rest => hasLead needle (c :: rest) || occursIn needle rest

/-- Replace a text wherever it occurs, from left to right; the first argument counts the
    characters of the last occurrence that are still to be dropped. -/
def replaceFrom (needle new : Chars) : Nat → Chars → Chars
  | _, [] => []
  | n + 1, _ :: rest => replaceFrom needle new n rest
  | 0, c :: rest =>
    if hasLead needle (c :: rest) then new ++ replaceFrom needle new (needle.length - 1) rest
    else c :: replaceFrom needle new 0 rest

def replace (needle new text : Chars) : Chars :=
  replaceFrom needle new 0 text

def lower (text : Chars) : Chars :=
  text.map Char.toLower

end Chars

end Replicast
