import Replicast.Url.Form
import Replicast.Url.Host
/-!
# URLs

## Overview

* `Url` is a URL in its parts, each of them already in its normal form.
* `Url.text` writes a URL.
* `Url.appendPairs` adds names and values to the query, and `Url.redacted` takes away what may be
  secret: the user name, the password, the query and the fragment.
-/

namespace Replicast

/-- The path of a URL: segments, or a text that its scheme gives no meaning. -/
inductive Url.Path where
  | segments (list : List Chars)
  | uninterpreted (text : Chars)
deriving DecidableEq, Repr

/-- A URL in its parts. -/
structure Url where
  scheme : Chars
  username : Chars
  password : Chars
  host : Option Host
  port : Option Nat
  path : Url.Path
  query : Option Chars
  fragment : Option Chars
deriving DecidableEq, Repr

namespace Url

/-! ## §1 Schemes -/

/-- The schemes whose URLs name a host, with the port each one uses unless told otherwise. -/
def specialPort? (scheme : Chars) : Option (Option Nat) :=
  if scheme == "http".toList then some (some 80)
  else if scheme == "https".toList then some (some 443)
  else if scheme == "ws".toList then some (some 80)
  else if scheme == "wss".toList then some (some 443)
  else if scheme == "ftp".toList then some (some 21)
  else if scheme == "file".toList then some none
  else none

/-- Whether a scheme is one of those. -/
def isSpecial (scheme : Chars) : Bool :=
  (specialPort? scheme).isSome

/-! ## §2 Text -/

/-- User name and password in front of a host. -/
def credentials (u : Url) : Chars :=
  if u.username.isEmpty && u.password.isEmpty then []
  else u.username ++ (if u.password.isEmpty then [] else ':' :: u.password) ++ ['@']

/-- The part between the scheme and the path. -/
def authority (u : Url) : Chars :=
  match u.host with
  | some host =>
    "//".toList ++ u.credentials ++ host.text
      ++ (match u.port with
        | some port => ':' :: Nat.toDigits 10 port
        | none => [])
  | none => []

def Path.text : Path → Chars
  | segments list => list.flatMap ('/' :: ·)
  | uninterpreted text => text

/-- The path of a URL as text.  Without a host, a path that begins with an empty segment is marked
    so that its slashes are not taken for the beginning of a host. -/
def pathText (u : Url) : Chars :=
  match u.host, u.path with
  | none, .segments ([] :: _ :: _) => "/.".toList ++ u.path.text
  | _, _ => u.path.text

def text (u : Url) : Chars :=
  u.scheme ++ ':' :: u.authority ++ u.pathText
    ++ (match u.query with
      | some query => '?' :: query
      | none => [])
    ++ (match u.fragment with
      | some fragment => '#' :: fragment
      | none => [])

/-! ## §3 Changes -/

/-- Add names and values to the query. -/
def appendPairs (u : Url) (pairs : Form.Pairs) : Url :=
  { u with query := some (Form.appendTo (u.query.getD []) pairs) }

/-- Take away what may be secret. -/
def redacted (u : Url) : Url :=
  { u with username := [], password := [], query := none, fragment := none }

end Url

end Replicast
