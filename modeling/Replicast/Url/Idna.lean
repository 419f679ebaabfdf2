import Replicast.Url.Idna.Classes
import Replicast.Url.Idna.Composition
import Replicast.Url.Idna.Mapping
import Replicast.Url.Idna.Punycode
/-!
# International host names

A host name in any script as a name in ASCII.

## Overview

* A name of plain ASCII labels is only put into lower case.
* Any other name is mapped, put into normal form and cut into labels; a label that is written in
  Punycode is read.  Each label must then be well formed: it begins with no combining mark, holds
  only characters that stand for themselves, uses joiners where they have an effect, and keeps the
  rules for names in scripts of different directions.
* Labels beyond ASCII are written in Punycode behind the mark `xn--`.
-/

namespace Replicast.Idna

/-! ## §1 Characters that no host may hold -/

/-- Controls, the blank, and the characters that delimit the parts of a URL. -/
def isForbidden (c : Char) : Bool :=
  c.toNat ≤ 0x20 || c.toNat == 0x7F || "%#/:<>?@[\\]^|".toList.contains c

/-- The mark of a label in Punycode. -/
def mark : Chars := ['x', 'n', '-', '-']

def isWide (c : Char) : Bool := 0x80 ≤ c.toNat

/-! ## §2 Well-formed labels -/

/-- Whether a character stands for itself in a name. -/
def isStable (c : Char) : Bool :=
  Mapping.image? c == some [c]

/-- Whether a joiner has an effect between what stands before it and what stands after it: behind a
    sign that suppresses a vowel, or, for the non-joiner, between letters that would join. -/
def joins (joiner : Char) (before after : Chars) : Bool :=
  (match before.getLast? with
    | some c => Composition.markClass c == 9
    | none => false)
  || (joiner == '\u200C' &&
    (match (before.reverse.dropWhile (Ranges.contains Classes.transparent)).head?,
        (after.dropWhile (Ranges.contains Classes.transparent)).head? with
      | some l, some r =>
        Ranges.contains Classes.joinsNext l && Ranges.contains Classes.joinsPrevious r
      | _, _ => false))

/-- Whether each joiner of a label has an effect.  The first argument is what stands before. -/
def joinersFit : Chars → Chars → Bool
  | _, [] => true
  | before, c :: rest =>
    (if c == '\u200C' || c == '\u200D' then joins c before rest else true)
      && joinersFit (before ++ [c]) rest

/-- Whether a label is well formed. -/
def isWellFormed (label : Chars) : Bool :=
  !(label.head?.any Classes.isMark)
    && (label.all fun c => isStable c || c == '\u200C' || c == '\u200D')
    && joinersFit [] label

/-! ## §3 Directions -/

open Classes (Direction direction)

/-- Whether a name holds characters that are written from right to left. -/
def mixesDirections (name : Chars) : Bool :=
  name.any fun c =>
    isWide c && (direction c == Direction.rightToLeft || direction c == Direction.arabicNumber)

/-- The rule for a label of a name that mixes directions: all its characters suit the direction of
    the first one, and it ends in a letter or a number, possibly with marks. -/
def directionsFit (label : Chars) : Bool :=
  let ds := label.map direction
  let ending := (ds.reverse.dropWhile (· == Direction.nonspacing)).head?
  match ds.head? with
  | none => true
  | some .rightToLeft =>
    ds.all (· != Direction.leftToRight)
      && (ending == some .rightToLeft || ending == some .arabicNumber
        || ending == some .europeanNumber)
      && !(ds.contains .arabicNumber && ds.contains .europeanNumber)
  | some .leftToRight =>
    (ds.all fun d => d != Direction.rightToLeft && d != Direction.arabicNumber)
      && (ending == some .leftToRight || ending == some .europeanNumber)
  | some _ => false

/-! ## §4 Names in ASCII -/

def isEncoded (label : Chars) : Bool :=
  Chars.hasLead mark label

/-- Read a label that may be written in Punycode. -/
def readLabel? (label : Chars) : Option Chars :=
  match Chars.dropLead? mark label with
  | none =>
    if label.any isWide then (if isWellFormed label then some label else none) else some label
  | some code => do
    let text ← Punycode.decode? code
    if text.any isWide && isWellFormed text && Composition.normalize text == text then some text
    else none

/-- Write a label in ASCII. -/
def writeLabel (label : Chars) : Chars :=
  if label.any isWide then mark ++ Punycode.encode label else label

/-- A host name in ASCII, if it is one. -/
def toAscii? (name : Chars) : Option Chars :=
  let plain := Chars.lower name
  let labels := Chars.pieces (· == '.') plain
  let result :=
    if name.any isWide || labels.any isEncoded then do
      let mapped ← Mapping.mapped? name
      let labels ← (Chars.pieces (· == '.') (Composition.normalize mapped)).mapM readLabel?
      if mixesDirections labels.flatten && !labels.all directionsFit then none
      else some (Chars.join ['.'] (labels.map writeLabel))
    else some plain
  result.filter fun ascii => !ascii.any isForbidden

end Replicast.Idna
