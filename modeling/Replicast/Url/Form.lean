import Replicast.Url.Percent
/-!
# Form encoding

A list of names and values as one text: pairs are joined by ampersands, a name and its value by an
equals sign, blanks are plus signs, and every byte outside a small alphabet is percent-encoded.

## Overview

* `Form.encode` writes a list of pairs and `Form.decode` reads a text as pairs.
-/

namespace Replicast.Form

/-- A list of names and values. -/
abbrev Pairs := List (Chars × Chars)

/-! ## §1 Writing -/

/-- The bytes that stand for themselves. -/
def isPlain (byte : UInt8) : Bool :=
  (0x30 ≤ byte && byte ≤ 0x39) || (0x41 ≤ byte && byte ≤ 0x5A) || (0x61 ≤ byte && byte ≤ 0x7A)
    || byte == 0x2A || byte == 0x2D || byte == 0x2E || byte == 0x5F

def encodeByte (byte : UInt8) : Chars :=
  if isPlain byte then [Char.ofNat byte.toNat]
  else if byte == 0x20 then ['+']
  else Percent.encodeByte byte

def encodeText (text : Chars) : Chars :=
  (Utf8.encode text).flatMap encodeByte

def encodePair (pair : Chars × Chars) : Chars :=
  encodeText pair.1 ++ '=' :: encodeText pair.2

def encode (pairs : Pairs) : Chars :=
  Chars.join ['&'] (pairs.map encodePair)

/-- Pairs behind a query that is already there. -/
def appendTo (query : Chars) (pairs : Pairs) : Chars :=
  pairs.foldl
    (fun q pair => if q.isEmpty then encodePair pair else q ++ '&' :: encodePair pair) query

/-! ## §2 Reading -/

def decodeText (text : Chars) : Chars :=
  Utf8.decodeLossy (Percent.decode (Utf8.encode (text.map fun c => if c == '+' then ' ' else c)))

/-- A pair; without an equals sign the value is empty. -/
def decodePair (piece : Chars) : Chars × Chars :=
  let (name, value) := Chars.cut (· == '=') piece
  (decodeText name, decodeText (value.getD []))

/-- A list of pairs; empty pieces count for nothing. -/
def decode (text : Chars) : Pairs :=
  ((Chars.pieces (· == '&') text).filter (!·.isEmpty)).map decodePair

end Replicast.Form
