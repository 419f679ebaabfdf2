import Replicast.Json.Basic
/-!
# Writing JSON

The compact form of a document: no blanks, fields in their order, and text with the escapes that
JSON demands and no others.
-/

namespace Replicast.Json

/-! ## §1 Text -/

/-- Two hexadecimal digits in lower case. -/
def hexPair (n : Nat) : List Char :=
  [Nat.digitChar (n / 16 % 16), Nat.digitChar (n % 16)]

/-- How a character is written between quotes. -/
def writeChar (c : Char) : List Char :=
  if c == '"' then ['\\', '"']
  else if c == '\\' then ['\\', '\\']
  else if c == '\x08' then ['\\', 'b']
  else if c == '\x0c' then ['\\', 'f']
  else if c == '\n' then ['\\', 'n']
  else if c == '\r' then ['\\', 'r']
  else if c == '\t' then ['\\', 't']
  else if c.toNat < 0x20 then ['\\', 'u', '0', '0'] ++ hexPair c.toNat
  else [c]

def writeText (s : String) : List Char :=
  '"' :: s.toList.flatMap writeChar ++ ['"']

/-! ## §2 Documents -/

def Number.write : Number → List Char
  | .int value => (toString value).toList
  | .float value => Shortest.text value

/-- Pieces with commas between them. -/
def commaSeparated : List (List Char) → List Char
  | [] => []
  | [piece] => piece
  | piece :: rest => piece ++ ',' :: commaSeparated rest

mutual

def write : Json → List Char
  | .null => "null".toList
  | .bool true => "true".toList
  | .bool false => "false".toList
  | .number n => n.write
  | .string s => writeText s
  | .array items => '[' :: commaSeparated (writeItems items) ++ [']']
  | .object fields => '\x7b' :: commaSeparated (writeFields fields) ++ ['\x7d']

def writeItems : List Json → List (List Char)
  | [] => []
  | item :: rest => write item :: writeItems rest

def writeFields : List (String × Json) → List (List Char)
  | [] => []
  | (name, value) :: rest => (writeText name ++ ':' :: write value) :: writeFields rest

end

/-- The compact text of a document. -/
def text (j : Json) : String :=
  String.ofList j.write

end Replicast.Json
