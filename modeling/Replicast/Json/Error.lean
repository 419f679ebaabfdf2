import Replicast.Decimal.Double
import Replicast.Text.Quoted
/-!
# Errors of the JSON reader

## Overview

* `Fault` is what is wrong with a text, or with a document that has another shape than expected.
* `Position` is where: a line, counted from one, and the number of bytes of it that were read.
* `ReadError.message` is the error in words.
-/

namespace Replicast.Json

/-- What was found in place of the shape expected. -/
inductive Found where
  | null
  | bool (value : Bool)
  | int (value : Int)
  | float (value : Double)
  | string (value : String)
  | sequence
  | map
deriving DecidableEq, Repr

/-- What a reader can object to. -/
inductive Fault where
  | eofInList
  | eofInObject
  | eofInString
  | eofInValue
  | expectedColon
  | expectedListCommaOrEnd
  | expectedObjectCommaOrEnd
  | expectedIdent
  | expectedValue
  | invalidEscape
  | invalidNumber
  | numberOutOfRange
  | invalidCodePoint
  | controlCharacter
  | keyMustBeString
  | loneSurrogate
  | trailingComma
  | trailingCharacters
  | unfinishedSurrogatePair
  | tooDeep
  /-- A document of another shape. -/
  | invalidType (found : Found) (expected : String)
  /-- A number outside the range expected. -/
  | invalidValue (found : Found) (expected : String)
deriving DecidableEq, Repr

/-- A place in the text. -/
structure Position where
  line : Nat
  column : Nat
deriving DecidableEq, Repr

def Position.start : Position := ⟨1, 0⟩

/-- The place behind one more byte. -/
def Position.past (p : Position) (byte : UInt8) : Position :=
  if byte == 0x0A then ⟨p.line + 1, 0⟩ else ⟨p.line, p.column + 1⟩

/-- A fault and its place. -/
structure ReadError where
  fault : Fault
  position : Position
deriving DecidableEq, Repr

namespace Found

def words : Found → String
  | null => "null"
  | bool value => "boolean \x60" ++ toString value ++ "\x60"
  | int value => "integer \x60" ++ toString value ++ "\x60"
  | float value => "floating point \x60" ++ String.ofList (Shortest.text value) ++ "\x60"
  | string value => "string " ++ Quoted.text value
  | sequence => "sequence"
  | map => "map"

end Found

namespace Fault

def words : Fault → String
  | eofInList => "EOF while parsing a list"
  | eofInObject => "EOF while parsing an object"
  | eofInString => "EOF while parsing a string"
  | eofInValue => "EOF while parsing a value"
  | expectedColon => "expected \x60:\x60"
  | expectedListCommaOrEnd => "expected \x60,\x60 or \x60]\x60"
  | expectedObjectCommaOrEnd => "expected \x60,\x60 or \x60\x7d\x60"
  | expectedIdent => "expected ident"
  | expectedValue => "expected value"
  | invalidEscape => "invalid escape"
  | invalidNumber => "invalid number"
  | numberOutOfRange => "number out of range"
  | invalidCodePoint => "invalid unicode code point"
  | controlCharacter => "control character (\\u0000-\\u001F) found while parsing a string"
  | keyMustBeString => "key must be a string"
  | loneSurrogate => "lone leading surrogate in hex escape"
  | trailingComma => "trailing comma"
  | trailingCharacters => "trailing characters"
  | unfinishedSurrogatePair => "unexpected end of hex escape"
  | tooDeep => "recursion limit exceeded"
  | invalidType found expected => "invalid type: " ++ found.words ++ ", expected " ++ expected
  | invalidValue found expected => "invalid value: " ++ found.words ++ ", expected " ++ expected

end Fault

def ReadError.message (e : ReadError) : String :=
  e.fault.words ++ " at line " ++ toString e.position.line ++ " column "
    ++ toString e.position.column

end Replicast.Json
