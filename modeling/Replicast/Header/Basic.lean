import Replicast.Http.Token
import Replicast.Text.Utf8
/-!
# Header names and values

## Overview

* `Header.Name` is a token in lower case, at most 65 535 bytes long.
* `Header.Value` is a text without control characters; the tab is allowed.
* `Header.Value.quoted` is a value in quotes.
-/

namespace Replicast.Header

/-! ## §1 Names -/

/-- A header name.  Names that differ in letter case only are one name. -/
structure Name where
  text : String
deriving DecidableEq, Repr

/-- The longest header name, in bytes. -/
def maxNameLength : Nat := 65535

def Name.parse? (text : String) : Option Name :=
  if Token.isToken text.toList && text.toList.length ≤ maxNameLength then
    some ⟨String.ofList (text.toList.map Char.toLower)⟩
  else none

namespace Name

def connection : Name := ⟨"connection"⟩
def contentType : Name := ⟨"content-type"⟩

end Name

/-! ## §2 Values -/

/-- A header value. -/
structure Value where
  text : String
deriving DecidableEq, Repr

/-- A character that a header value may hold. -/
def isValueChar (c : Char) : Bool :=
  c == '\t' || (0x20 ≤ c.toNat && c.toNat != 0x7F)

def Value.parse? (text : String) : Option Value :=
  if text.toList.all isValueChar then some ⟨text⟩ else none

namespace Value

def keepAlive : Value := ⟨"keep-alive"⟩
def json : Value := ⟨"application/json"⟩

/-- How a byte of a value is shown: a quote takes a backslash, and bytes outside visible ASCII are
    written in hexadecimal. -/
def showByte (byte : UInt8) : List Char :=
  if byte == 0x22 then ['\\', '"']
  else if byte == 0x09 || (0x20 ≤ byte && byte < 0x7F) then [Char.ofNat byte.toNat]
  else '\\' :: 'x' :: Nat.toDigits 16 byte.toNat

def quoted (v : Value) : String :=
  String.ofList ('"' :: (Utf8.ofString v.text).flatMap showByte ++ ['"'])

end Value

end Replicast.Header
