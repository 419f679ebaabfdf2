import Replicast.Text.Printable
/-!
# Quoted text

The quoted form of a string: double quotes around it, and an escape for every character that would
not stand for itself inside them.

## Overview

* `Quoted.escape` writes one character.  Quotes and backslashes take a backslash, the usual controls
  their letter, and any other character without a printed form, or that would attach to its
  predecessor, its code point in braces.
* `Quoted.text` writes a string.
-/

namespace Replicast.Quoted

/-! ## §1 Characters -/

/-- A code point in braces, in lower-case hexadecimal without leading zeros. -/
def codePoint (c : Char) : List Char :=
  "\\u\x7b".toList ++ Nat.toDigits 16 c.toNat ++ ['\x7d']

/-- How a character is written between the quotes. -/
def escape (c : Char) : List Char :=
  if c == '"' then ['\\', '"']
  else if c == '\\' then ['\\', '\\']
  else if c == '\n' then ['\\', 'n']
  else if c == '\r' then ['\\', 'r']
  else if c == '\t' then ['\\', 't']
  else if c == '\x00' then ['\\', '0']
  else if Printable.isGraphemeExtend c || !Printable.isPrintable c then codePoint c
  else [c]

/-! ## §2 Strings -/

def chars (text : List Char) : List Char :=
  '"' :: text.flatMap escape ++ ['"']

def text (s : String) : String :=
  String.ofList (chars s.toList)

end Replicast.Quoted
