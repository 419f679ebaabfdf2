import Replicast.Text.Chars
import Replicast.Text.Utf8
/-!
# Percent encoding

A byte that may not stand in a part of a URL is written as a percent sign and two hexadecimal
digits.

## Overview

* Each part of a URL has its own set of ASCII characters that must be encoded; characters beyond
  ASCII always are.
* `Percent.encode` writes a text, `Percent.decode` reads the bytes back.  A percent sign that no two
  hexadecimal digits follow stands for itself.
-/

namespace Replicast.Percent

/-! ## §1 The encode sets -/

/-- Controls and everything beyond ASCII. -/
def controls (c : Char) : Bool :=
  c.toNat < 0x20 || 0x7F ≤ c.toNat

def fragment (c : Char) : Bool :=
  controls c || " \"<>\x60".toList.contains c

def query (c : Char) : Bool :=
  controls c || " \"#<>".toList.contains c

/-- What is encoded in the query of a web address. -/
def specialQuery (c : Char) : Bool :=
  query c || c == '\x27'

def path (c : Char) : Bool :=
  fragment c || "#?\x7b\x7d".toList.contains c

/-- What is encoded in a user name or a password. -/
def userinfo (c : Char) : Bool :=
  path c || "/:;=@[\\]^|".toList.contains c

/-! ## §2 Writing and reading -/

/-- An upper-case hexadecimal digit. -/
def digit (n : Nat) : Char :=
  if n < 10 then Char.ofNat (48 + n) else Char.ofNat (55 + n)

/-- A byte as a percent sign and two digits. -/
def encodeByte (byte : UInt8) : Chars :=
  ['%', digit (byte.toNat / 16), digit (byte.toNat % 16)]

/-- A text with the characters of a set encoded, each of their bytes by itself. -/
def encode (set : Char → Bool) (text : Chars) : Chars :=
  text.flatMap fun c => if set c then (String.utf8EncodeChar c).flatMap encodeByte else [c]

/-- The value of a hexadecimal digit. -/
def digitValue? (byte : UInt8) : Option Nat :=
  let n := byte.toNat
  if 0x30 ≤ n && n ≤ 0x39 then some (n - 0x30)
  else if 0x41 ≤ n && n ≤ 0x46 then some (n - 0x37)
  else if 0x61 ≤ n && n ≤ 0x66 then some (n - 0x57)
  else none

/-- Read encoded bytes. -/
def decode : Bytes → Bytes
  | [] => []
  | byte :: rest =>
    if byte == 0x25 then
      match rest with
      | high :: low :: others =>
        match digitValue? high, digitValue? low with
        | some h, some l => UInt8.ofNat (h * 16 + l) :: decode others
        | _, _ => byte :: decode (high :: low :: others)
      | others => byte :: decode others
    else byte :: decode rest

end Replicast.Percent
