/-!
# UTF-8

Bytes and the text they spell.  `Utf8.scan` cuts any byte sequence into code points and malformed
pieces; strict decoding refuses a malformed piece, lenient decoding shows U+FFFD in its place.

## Overview

* `Utf8.encode` writes code points as bytes.
* `Utf8.step` reads one byte.  Between bytes the reader holds at most one unfinished sequence.
* `Utf8.scan` reads bytes to the end.  A malformed piece is the longest run of bytes that begins a
  well-formed sequence without finishing it, or one byte that begins none.
* `Utf8.decode?` and `Utf8.decodeLossy` are the strict and the lenient reading of the pieces.
-/

namespace Replicast

/-- A body, a frame or a piece of text as it travels. -/
abbrev Bytes := List UInt8

namespace Utf8

/-! ## §1 Writing -/

def encode (text : List Char) : Bytes :=
  text.flatMap String.utf8EncodeChar

def ofString (text : String) : Bytes :=
  encode text.toList

/-! ## §2 Reading -/

/-- A sequence that has begun: the payload read so far, how many bytes are still to come, and the
    range its next byte must lie in. -/
structure Unfinished where
  payload : Nat
  missing : Nat
  least : UInt8
  most : UInt8

/-- What a byte at the start of a sequence says: a code point, the start of a longer sequence, or
    nothing at all.  The ranges of the second byte exclude overlong forms, surrogates and values
    above U+10FFFF. -/
def lead (byte : UInt8) : List (Option Char) × Option Unfinished :=
  if byte < 0x80 then ([some (Char.ofNat byte.toNat)], none)
  else if byte < 0xC2 then ([none], none)
  else if byte < 0xE0 then ([], some ⟨byte.toNat % 32, 1, 0x80, 0xBF⟩)
  else if byte == 0xE0 then ([], some ⟨0, 2, 0xA0, 0xBF⟩)
  else if byte == 0xED then ([], some ⟨13, 2, 0x80, 0x9F⟩)
  else if byte < 0xF0 then ([], some ⟨byte.toNat % 16, 2, 0x80, 0xBF⟩)
  else if byte == 0xF0 then ([], some ⟨0, 3, 0x90, 0xBF⟩)
  else if byte < 0xF4 then ([], some ⟨byte.toNat % 8, 3, 0x80, 0xBF⟩)
  else if byte == 0xF4 then ([], some ⟨4, 3, 0x80, 0x8F⟩)
  else ([none], none)

/-- Read one byte.  A byte that cannot continue the unfinished sequence ends it as malformed and
    starts afresh. -/
def step : Option Unfinished → UInt8 → List (Option Char) × Option Unfinished
  | none, byte => lead byte
  | some u, byte =>
    if u.least ≤ byte && byte ≤ u.most then
      let payload := u.payload * 64 + byte.toNat % 64
      if u.missing ≤ 1 then ([some (Char.ofNat payload)], none)
      else ([], some ⟨payload, u.missing - 1, 0x80, 0xBF⟩)
    else
      let (pieces, next) := lead byte
      (none :: pieces, next)

/-- Read the remaining bytes; an unfinished sequence at the end is malformed. -/
def scanFrom : Option Unfinished → Bytes → List (Option Char)
  | none, [] => []
  | some _, [] => [none]
  | u, byte :: rest =>
    let (pieces, next) := step u byte
    pieces ++ scanFrom next rest

/-- Cut a byte sequence into code points (`some`) and malformed pieces (`none`). -/
def scan (bytes : Bytes) : List (Option Char) :=
  scanFrom none bytes

/-- Strict decoding: every byte must belong to a well-formed sequence. -/
def decode? (bytes : Bytes) : Option (List Char) :=
  (scan bytes).mapM id

/-- Lenient decoding: a malformed piece reads as U+FFFD. -/
def decodeLossy (bytes : Bytes) : List Char :=
  (scan bytes).map (·.getD '\uFFFD')

def textLossy (bytes : Bytes) : String :=
  String.ofList (decodeLossy bytes)

end Utf8

end Replicast
