import Replicast.Text.Chars
import Replicast.Text.Utf8
/-!
# Request URIs

The URI that a request carries: scheme and authority, path and query.  It is read by a strict
grammar that changes nothing: what is accepted is kept as it was written, apart from a fragment,
which is dropped, and an empty path, which reads as a slash.

## Overview

* `Uri` holds the parts, and `Uri.text` writes them.
* `Authority.isValid` and `Uri.isPathChar`, `Uri.isQueryChar` are the grammar of the parts.
* `Uri.parse?` reads an absolute URI.
* `Authority.host` and `Authority.port?` look into an authority.
-/

namespace Replicast

/-- A URI of a request. -/
structure Uri where
  /-- The scheme and the authority, as written. -/
  origin : Option (Chars × Chars)
  path : Chars
  query : Option Chars
deriving DecidableEq, Repr

namespace Authority

/-! ## §1 Authorities -/

/-- The characters that may stand in an authority, the percent sign apart. -/
def isAuthorityChar (c : Char) : Bool :=
  c.isAlphanum || "!$&'()*+,-.:;=@[]_~".toList.contains c

/-- What is known of an authority while it is read: colons and a percent sign that may yet turn out
    to belong to a userinfo or to an address in brackets. -/
structure Scan where
  colons : Nat
  opened : Bool
  closed : Bool
  percent : Bool
deriving DecidableEq, Repr

def Scan.start : Scan := ⟨0, false, false, false⟩

/-- Most colons that may stand together in a userinfo, or in brackets. -/
def maxColons : Nat := 8

/-- Read one character. -/
def Scan.step? (s : Scan) (c : Char) : Option Scan :=
  if c == ':' then if maxColons ≤ s.colons then none else some { s with colons := s.colons + 1 }
  else if c == '[' then if s.percent || s.opened then none else some { s with opened := true }
  else if c == ']' then
    if !s.opened || s.closed then none
    else some { s with closed := true, colons := 0, percent := false }
  else if c == '@' then some { s with colons := 0, percent := false }
  else if c == '%' then some { s with percent := true }
  else if isAuthorityChar c then some s
  else none

/-- Whether a text is an authority: brackets in pairs, at most one colon in front of the port,
    something behind the last at sign, and percent signs in a userinfo or in brackets only. -/
def isValid (text : Chars) : Bool :=
  match text.foldlM Scan.step? Scan.start with
  | none => false
  | some s =>
    !text.isEmpty && s.opened == s.closed && s.colons ≤ 1 && text.getLast? != some '@' && !s.percent

/-- The host of an authority: what follows the last at sign, up to the port. -/
def host (authority : Chars) : Chars :=
  let (_, place) := Chars.cutLast (· == '@') authority
  match place with
  | '[' :: _ =>
    let inner := place.takeWhile (· != ']')
    place.take (inner.length + 1)
  | _ => place.takeWhile (· != ':')

/-- The number behind the last colon, if it is a number of sixteen bits. -/
def port? (authority : Chars) : Option Nat :=
  match Chars.cutLast (· == ':') authority with
  | (none, _) => none
  | (some _, text) =>
    let digits := (Chars.dropLead? ['+'] text).getD text
    let value := digits.foldl (fun n c => n * 10 + (c.toNat - 48)) 0
    if !digits.isEmpty && digits.all Char.isDigit && value ≤ 65535 then some value else none

end Authority

namespace Uri

/-! ## §2 Paths and queries -/

def isWide (c : Char) : Bool := 0x80 ≤ c.toNat

/-- Whether a character is of ASCII, and neither a control nor the blank. -/
def isVisible (c : Char) : Bool := 0x21 ≤ c.toNat && c.toNat ≤ 0x7E

/-- The characters that may stand in a path. -/
def isPathChar (c : Char) : Bool :=
  isWide c || (isVisible c && !"#<>?\x60".toList.contains c)

/-- The characters that may stand in a query. -/
def isQueryChar (c : Char) : Bool :=
  isWide c || (isVisible c && !"\"#<>".toList.contains c)

/-! ## §3 Whole URIs -/

/-- The longest URI, in bytes. -/
def maxLength : Nat := 65534

/-- The schemes of requests. -/
def schemes : List Chars := ["http".toList, "https".toList]

/-- The scheme of an absolute URI and what follows its two slashes. -/
def cutScheme? (text : Chars) : Option (Chars × Chars) :=
  schemes.findSome? fun scheme =>
    (Chars.dropLead? (scheme ++ "://".toList) text).map (scheme, ·)

/-- Read an absolute URI. -/
def parse? (text : Chars) : Option Uri := do
  if maxLength < (Utf8.encode text).length then none
  else
    let (scheme, rest) ← cutScheme? text
    let authority := rest.takeWhile fun c => !(c == '/' || c == '?' || c == '#')
    let (main, _) := Chars.cut (· == '#') (rest.drop authority.length)
    let (path, query) := Chars.cut (· == '?') main
    if Authority.isValid authority && path.all isPathChar && (query.getD []).all isQueryChar then
      some ⟨some (scheme, authority), if path.isEmpty then ['/'] else path, query⟩
    else none

/-- The URI of a request that has none: the root. -/
def root : Uri := ⟨none, ['/'], none⟩

def text (u : Uri) : Chars :=
  (match u.origin with
    | some (scheme, authority) => scheme ++ "://".toList ++ authority
    | none => [])
  ++ u.path
  ++ (match u.query with
    | some query => '?' :: query
    | none => [])

def authority (u : Uri) : Chars :=
  (u.origin.map (·.2)).getD []

end Uri

end Replicast
