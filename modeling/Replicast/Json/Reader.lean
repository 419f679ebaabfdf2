import Replicast.Json.Basic
import Replicast.Json.Error
import Replicast.Text.Utf8
/-!
# Reading JSON

A reader that walks a byte sequence once, from left to right, and stops at the first fault.

## Overview

* `Reader` is a state reader over a `Cursor`: the bytes ahead and the place they begin at.  A
  fault is reported either where the reader stands or just past the byte it looks at.
* `number`, `text`, `items` and `fields` read the parts; `document` reads any document.
* `Shape` names the documents a caller may ask for, and `decode` reads one of that shape from a
  whole body.
-/

namespace Replicast.Json

/-- The bytes ahead, and where they begin. -/
structure Cursor where
  rest : Bytes
  position : Position
deriving Repr

/-- A step of reading. -/
abbrev Reader := StateT Cursor (Except ReadError)

namespace Reader

/-! ## §1 Bytes -/

variable {α : Type}

def failHere (fault : Fault) : Reader α := fun c =>
  .error ⟨fault, c.position⟩

def failAt (fault : Fault) (position : Position) : Reader α := fun _ =>
  .error ⟨fault, position⟩

/-- A fault just past the byte ahead, or where the reader stands when no byte is left. -/
def failNext (fault : Fault) : Reader α := fun c =>
  .error ⟨fault, (c.rest.head?.map c.position.past).getD c.position⟩

def peek : Reader (Option UInt8) := fun c =>
  .ok (c.rest.head?, c)

def next : Reader (Option UInt8) := fun c =>
  match c.rest with
  | [] => .ok (none, c)
  | byte :: rest => .ok (some byte, ⟨rest, c.position.past byte⟩)

def skip : Reader Unit := do
  let _ ← next

/-- The bytes that may stand between tokens. -/
def isBlank (byte : UInt8) : Bool :=
  byte == 0x20 || byte == 0x0A || byte == 0x09 || byte == 0x0D

/-- Pass over bytes of a class. -/
def dropWhile (p : UInt8 → Bool) : Bytes → Position → Cursor
  | [], position => ⟨[], position⟩
  | byte :: rest, position =>
    if p byte then dropWhile p rest (position.past byte) else ⟨byte :: rest, position⟩

/-- The byte ahead after any blanks. -/
def token : Reader (Option UInt8) := fun c =>
  let c := dropWhile isBlank c.rest c.position
  .ok (c.rest.head?, c)

/-- The rest of a word whose first letter was taken. -/
def word : List Char → Reader Unit
  | [] => pure ()
  | c :: rest => do
    match ← next with
    | none => failHere .eofInValue
    | some byte => if byte.toNat = c.toNat then word rest else failHere .expectedIdent

/-! ## §2 Numbers -/

def isDigit (byte : UInt8) : Bool := 0x30 ≤ byte && byte ≤ 0x39

def isExponentMark (byte : UInt8) : Bool := byte == 0x65 || byte == 0x45

/-- The largest unsigned number of sixty-four bits. -/
def maxUnsigned : Nat := Nat.pow 2 64 - 1

/-- The largest exponent that is counted exactly. -/
def maxExponent : Nat := Nat.pow 2 31 - 1

/-- Take digits into a number while it stays within a bound; also count them. -/
def absorb (bound : Nat) : Nat → Nat → Bytes → Position → (Nat × Nat) × Cursor
  | n, count, [], position => ((n, count), ⟨[], position⟩)
  | n, count, byte :: rest, position =>
    let n' := n * 10 + (byte.toNat - 0x30)
    if isDigit byte && n' ≤ bound then absorb bound n' (count + 1) rest (position.past byte)
    else ((n, count), ⟨byte :: rest, position⟩)

/-- Digits ahead, as long as the number fits sixty-four bits. -/
def significand (n : Nat) : Reader (Nat × Nat) := fun c =>
  .ok (absorb maxUnsigned n 0 c.rest c.position)

/-- Pass over digits; the first argument counts them. -/
def passDigits : Nat → Bytes → Position → Nat × Cursor
  | count, [], position => (count, ⟨[], position⟩)
  | count, byte :: rest, position =>
    if isDigit byte then passDigits (count + 1) rest (position.past byte)
    else (count, ⟨byte :: rest, position⟩)

/-- Pass over further digits and count them. -/
def skipDigits : Reader Nat := fun c =>
  .ok (passDigits 0 c.rest c.position)

/-- A power of ten up to 10^308. -/
def powerOfTen (e : Nat) : Float := Float.ofScientific 1 false e

/-- Divide by a power of ten in steps that stay finite. -/
def scaleDown (x : Float) (e : Nat) : Float :=
  if e ≤ 308 then x / powerOfTen e
  else if x == 0.0 then x
  else scaleDown (x / powerOfTen 308) (e - 308)
termination_by e

/-- The double next to a significand times a power of ten, or nothing when it is too large.  The
    product is rounded once for the significand and once more for the power. -/
def scaled? (n : Nat) (e : Int) : Option Float :=
  let x := Float.ofNat n
  if 0 ≤ e then
    if 308 < e then (if n = 0 then some x else none)
    else
      let y := x * powerOfTen e.toNat
      if y.isInf then none else some y
  else some (scaleDown x e.natAbs)

/-- A double from its parts. -/
def finish (positive : Bool) (n : Nat) (e : Int) : Reader Number := do
  match scaled? n e with
  | none => failHere .numberOutOfRange
  | some x => pure (.float (.ofFloat (if positive then x else -x)))

/-- Bring an exponent into the range of a signed number of thirty-two bits. -/
def clampExponent (e : Int) : Int :=
  max (-2147483648) (min 2147483647 e)

/-- The exponent, from its mark on. -/
def exponent (positive : Bool) (n : Nat) (start : Int) : Reader Number := do
  skip
  let sign ← peek
  let upward := sign != some 0x2D
  if sign == some 0x2B || sign == some 0x2D then skip
  match ← next with
  | none => failHere .eofInValue
  | some first =>
    if isDigit first then
      let (e, _) ← fun c => .ok (absorb maxExponent (first.toNat - 0x30) 0 c.rest c.position)
      match ← peek with
      | some byte =>
        if isDigit byte then
          skip
          if n != 0 && upward then failHere .numberOutOfRange
          else
            let _ ← skipDigits
            pure (.float (.ofFloat (if positive then 0.0 else -0.0)))
        else finish positive n (clampExponent (if upward then start + e else start - e))
      | none => finish positive n (clampExponent (if upward then start + e else start - e))
    else failHere .invalidNumber

/-- What follows the digits: an exponent or nothing. -/
def afterDigits (positive : Bool) (n : Nat) (e : Int) : Reader Number := do
  match ← peek with
  | some byte => if isExponentMark byte then exponent positive n e else finish positive n e
  | none => finish positive n e

/-- The fraction, from its point on.  Digits that no longer fit are passed over. -/
def fraction (positive : Bool) (n : Nat) (start : Int) : Reader Number := do
  skip
  let (n, count) ← significand n
  let e := start - count
  match ← peek with
  | some byte =>
    if isDigit byte then
      let _ ← skipDigits
      afterDigits positive n e
    else if count = 0 then failNext .invalidNumber
    else afterDigits positive n e
  | none => if count = 0 then failNext .eofInValue else afterDigits positive n e

/-- A number without fraction and exponent.  Minus zero and negative numbers of more than
    sixty-three bits are doubles. -/
def whole (positive : Bool) (n : Nat) : Number :=
  if positive then .int n
  else if n = 0 || Nat.pow 2 63 < n then .float (.ofFloat (-(Float.ofNat n)))
  else .int (-(n : Int))

/-- What follows the digits of the whole part. -/
def afterWhole (positive : Bool) (n : Nat) : Reader Number := do
  match ← peek with
  | some 0x2E => fraction positive n 0
  | some byte => if isExponentMark byte then exponent positive n 0 else pure (whole positive n)
  | none => pure (whole positive n)

/-- A number behind its sign.  Digits that no longer fit sixty-four bits are counted as powers of
    ten. -/
def number (positive : Bool) : Reader Number := do
  match ← next with
  | none => failHere .eofInValue
  | some 0x30 =>
    match ← peek with
    | some byte => if isDigit byte then failNext .invalidNumber else afterWhole positive 0
    | none => afterWhole positive 0
  | some first =>
    if isDigit first then
      let (n, _) ← significand (first.toNat - 0x30)
      match ← skipDigits with
      | 0 => afterWhole positive n
      | extra + 1 =>
        match ← peek with
        | some 0x2E => fraction positive n (extra + 1)
        | _ => afterDigits positive n (extra + 1)
    else failHere .invalidNumber

/-- A number, sign included, with the first byte still ahead. -/
def signedNumber : Reader Number := do
  match ← peek with
  | some 0x2D =>
    skip
    number false
  | _ => number true

/-! ## §3 Text -/

def hexDigit? (byte : UInt8) : Option Nat :=
  let n := byte.toNat
  if 0x30 ≤ n && n ≤ 0x39 then some (n - 0x30)
  else if 0x41 ≤ n && n ≤ 0x46 then some (n - 0x37)
  else if 0x61 ≤ n && n ≤ 0x66 then some (n - 0x57)
  else none

def hexUnit : Reader Nat := fun c =>
  match c.rest with
  | a :: b :: d :: e :: rest =>
    let past := [a, b, d, e].foldl Position.past c.position
    match hexDigit? a, hexDigit? b, hexDigit? d, hexDigit? e with
    | some a, some b, some d, some e => .ok (((a * 16 + b) * 16 + d) * 16 + e, ⟨rest, past⟩)
    | _, _, _, _ => .error ⟨.invalidEscape, past⟩
  | short => .error ⟨.eofInString, short.foldl Position.past c.position⟩

/-- The byte that a two-unit escape needs next. -/
def pairByte (expected : UInt8) : Reader Unit := do
  match ← next with
  | none => failHere .eofInString
  | some byte => if byte == expected then pure () else failHere .unfinishedSurrogatePair

/-- A code point behind its `u`: one unit, or two that form a surrogate pair. -/
def unicodeEscape : Reader Char := do
  let first ← hexUnit
  if 0xDC00 ≤ first && first ≤ 0xDFFF then failHere .loneSurrogate
  else if 0xD800 ≤ first && first ≤ 0xDBFF then
    pairByte 0x5C
    pairByte 0x75
    let second ← hexUnit
    if 0xDC00 ≤ second && second ≤ 0xDFFF then
      pure (Char.ofNat ((first - 0xD800) * 1024 + (second - 0xDC00) + 0x10000))
    else failHere .loneSurrogate
  else pure (Char.ofNat first)

/-- The bytes an escape stands for, behind its backslash. -/
def escape : Reader Bytes := do
  match ← next with
  | none => failHere .eofInString
  | some 0x22 => pure [0x22]
  | some 0x5C => pure [0x5C]
  | some 0x2F => pure [0x2F]
  | some 0x62 => pure [0x08]
  | some 0x66 => pure [0x0C]
  | some 0x6E => pure [0x0A]
  | some 0x72 => pure [0x0D]
  | some 0x74 => pure [0x09]
  | some 0x75 => do
    let c ← unicodeEscape
    pure (Utf8.encode [c])
  | some _ => failHere .invalidEscape

/-- The bytes of a text up to its closing quote, each with the place behind it.  The first argument
    bounds the number of steps. -/
def textBytes : Nat → List (UInt8 × Position) → Reader (List (UInt8 × Position))
  | 0, _ => failHere .eofInString
  | fuel + 1, taken => do
    match ← next with
    | none => failHere .eofInString
    | some 0x22 => pure taken.reverse
    | some 0x5C => do
      let bytes ← escape
      let c ← get
      textBytes fuel (bytes.reverse.map (·, c.position) ++ taken)
    | some byte => do
      if byte < 0x20 then failHere .controlCharacter
      else
        let c ← get
        textBytes fuel ((byte, c.position) :: taken)

/-- How many bytes belong to well-formed sequences before the first malformed one. -/
def validUpTo (bytes : Bytes) : Nat :=
  ((Utf8.scan bytes).takeWhile (·.isSome)).foldl (fun total c => total + (c.getD ' ').utf8Size) 0

/-- A text behind its opening quote. -/
def text : Reader String := do
  let c ← get
  let taken ← textBytes (c.rest.length + 1) []
  let bytes := taken.map (·.1)
  match Utf8.decode? bytes with
  | some chars => pure (String.ofList chars)
  | none =>
    failAt .invalidCodePoint (((taken.drop (validUpTo bytes)).head?.map (·.2)).getD c.position)

/-! ## §4 Lists and objects -/

/-- The items of a list behind its opening bracket, up to the closing one.  The first argument
    bounds their number. -/
def items (item : Reader α) : Nat → Bool → Reader (List α)
  | 0, _ => failHere .eofInList
  | fuel + 1, first => do
    match ← token with
    | none => failNext .eofInList
    | some 0x5D =>
      skip
      pure []
    | some byte =>
      if first then do
        let head ← item
        let tail ← items item fuel false
        pure (head :: tail)
      else if byte == 0x2C then do
        skip
        match ← token with
        | none => failNext .eofInValue
        | some 0x5D => failNext .trailingComma
        | some _ =>
          let head ← item
          let tail ← items item fuel false
          pure (head :: tail)
      else failNext .expectedListCommaOrEnd

/-- A field: its name, a colon and its value. -/
def field (value : Reader α) : Reader (String × α) := do
  skip
  let name ← text
  match ← token with
  | none => failNext .eofInObject
  | some 0x3A =>
    skip
    let v ← value
    pure (name, v)
  | some _ => failNext .expectedColon

/-- The fields of an object behind its opening brace, up to the closing one.  The first argument
    bounds their number. -/
def fields (value : Reader α) : Nat → Bool → Reader (List (String × α))
  | 0, _ => failHere .eofInObject
  | fuel + 1, first => do
    match ← token with
    | none => failNext .eofInObject
    | some 0x7D =>
      skip
      pure []
    | some byte =>
      if first then
        if byte == 0x22 then do
          let head ← field value
          let tail ← fields value fuel false
          pure (head :: tail)
        else failNext .keyMustBeString
      else if byte == 0x2C then do
        skip
        match ← token with
        | none => failNext .eofInValue
        | some 0x22 => do
          let head ← field value
          let tail ← fields value fuel false
          pure (head :: tail)
        | some 0x7D => failNext .trailingComma
        | some _ => failNext .keyMustBeString
      else failNext .expectedObjectCommaOrEnd

/-! ## §5 Documents -/

/-- How deep documents may be nested, plus one. -/
def maxDepth : Nat := 128

/-- Any document.  The first argument bounds the number of steps, the second one how much deeper the
    document may still be nested. -/
def document : Nat → Nat → Reader Json
  | 0, _ => failHere .eofInValue
  | fuel + 1, depth => do
    match ← token with
    | none => failNext .eofInValue
    | some 0x6E => do
      skip
      word ['u', 'l', 'l']
      pure .null
    | some 0x74 => do
      skip
      word ['r', 'u', 'e']
      pure (.bool true)
    | some 0x66 => do
      skip
      word ['a', 'l', 's', 'e']
      pure (.bool false)
    | some 0x22 => do
      skip
      let s ← text
      pure (.string s)
    | some 0x5B =>
      if depth ≤ 1 then failNext .tooDeep
      else do
        skip
        let list ← items (document fuel (depth - 1)) (fuel + 1) true
        pure (.array list)
    | some 0x7B =>
      if depth ≤ 1 then failNext .tooDeep
      else do
        skip
        let list ← fields (document fuel (depth - 1)) (fuel + 1) true
        pure (ofFields list)
    | some byte =>
      if isDigit byte || byte == 0x2D then do
        let n ← signedNumber
        pure (.number n)
      else failNext .expectedValue

/-- What a number was found to be. -/
def foundNumber : Number → Found
  | .int value => .int value
  | .float value => .float value

/-- Report the document ahead as one of another shape.  A scalar is read first, so that a fault in
    it comes before the shape and the place is behind it; of a list or an object only the bracket
    is looked at. -/
def unexpected (expected : String) : Reader α := do
  match ← peek with
  | some 0x6E => do
    skip
    word ['u', 'l', 'l']
    failHere (.invalidType .null expected)
  | some 0x74 => do
    skip
    word ['r', 'u', 'e']
    failHere (.invalidType (.bool true) expected)
  | some 0x66 => do
    skip
    word ['a', 'l', 's', 'e']
    failHere (.invalidType (.bool false) expected)
  | some 0x22 => do
    skip
    let s ← text
    failHere (.invalidType (.string s) expected)
  | some 0x5B => failHere (.invalidType .sequence expected)
  | some 0x7B => failHere (.invalidType .map expected)
  | some byte =>
    if isDigit byte || byte == 0x2D then do
      let n ← signedNumber
      failHere (.invalidType (foundNumber n) expected)
    else failNext .expectedValue
  | none => failNext .expectedValue

/-- A whole number in a range. -/
def wholeNumber (least most : Int) (name : String) : Reader Json := do
  match ← token with
  | none => failNext .eofInValue
  | some byte =>
    if isDigit byte || byte == 0x2D then do
      match ← signedNumber with
      | .int n =>
        if least ≤ n && n ≤ most then pure (.number (.int n))
        else failHere (.invalidValue (.int n) name)
      | .float x => failHere (.invalidType (.float x) name)
    else unexpected name

/-- A signed number of sixty-four bits. -/
def signed64 : Reader Json :=
  wholeNumber (-9223372036854775808) 9223372036854775807 "i64"

def textDocument : Reader Json := do
  match ← token with
  | none => failNext .eofInValue
  | some 0x22 => do
    skip
    let s ← text
    pure (.string s)
  | some _ => unexpected "a string"

end Reader

/-! ## §6 Shapes -/

/-- What a caller may ask a document to be.  Any type that can be read from JSON may stand here; these
    are eight of them. -/
inductive Shape where
  | any
  /-- A number from 0 to 255. -/
  | byte
  /-- A signed number of sixty-four bits. -/
  | signed
  | bool
  | string
  /-- A list of signed numbers. -/
  | list
  /-- An object whose values are signed numbers. -/
  | map
  /-- A text or null. -/
  | optional
deriving DecidableEq, Repr

open Reader in
/-- Read a document of a shape.  The first argument bounds the number of steps. -/
def Shape.reader (fuel : Nat) : Shape → Reader Json
  | .any => document fuel maxDepth
  | .byte => wholeNumber 0 255 "u8"
  | .signed => signed64
  | .bool => do
    match ← token with
    | none => failNext .eofInValue
    | some 0x74 => do
      skip
      word ['r', 'u', 'e']
      pure (.bool true)
    | some 0x66 => do
      skip
      word ['a', 'l', 's', 'e']
      pure (.bool false)
    | some _ => unexpected "a boolean"
  | .string => textDocument
  | .list => do
    match ← token with
    | none => failNext .eofInValue
    | some 0x5B => do
      skip
      let list ← items signed64 fuel true
      pure (.array list)
    | some _ => unexpected "a sequence"
  | .map => do
    match ← token with
    | none => failNext .eofInValue
    | some 0x7B => do
      skip
      let list ← fields signed64 fuel true
      pure (ofFields list)
    | some _ => unexpected "a map"
  | .optional => do
    match ← token with
    | some 0x6E => do
      skip
      word ['u', 'l', 'l']
      pure .null
    | _ => textDocument

/-- Read a whole body as a document of a shape: nothing but blanks may follow it. -/
def decode (shape : Shape) (body : Bytes) : Except ReadError Json := do
  let reader : Reader Json := do
    let value ← shape.reader (body.length + 1)
    match ← Reader.token with
    | none => pure value
    | some _ => Reader.failNext .trailingCharacters
  let (value, _) ← reader ⟨body, Position.start⟩
  pure value

end Replicast.Json
