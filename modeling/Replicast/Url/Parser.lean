import Replicast.Url.Basic
/-!
# Reading URLs

A lenient reader: it trims, repairs slashes, lowers case, drops default ports and resolves dot
segments, and refuses only what it cannot give a meaning.

## Overview

* `Url.prepare` trims a text and drops tabs and line breaks.
* `Url.parse?` cuts the text into scheme, authority, path, query and fragment and reads each part.
-/

namespace Replicast.Url

/-! ## §1 Preparation -/

/-- Controls and the blank, which are dropped at both ends. -/
def isEdge (c : Char) : Bool := c.toNat ≤ 0x20

/-- Characters that are dropped everywhere. -/
def isDropped (c : Char) : Bool := c == '\t' || c == '\n' || c == '\r'

/-- The text that counts. -/
def prepare (text : Chars) : Chars :=
  (Chars.trim isEdge text).filter (!isDropped ·)

/-- Characters of a scheme behind its first letter. -/
def isSchemeChar (c : Char) : Bool :=
  c.isAlphanum || c == '+' || c == '-' || c == '.'

/-- The scheme in lower case, and what follows its colon. -/
def cutScheme? (text : Chars) : Option (Chars × Chars) :=
  match text with
  | [] => none
  | c :: _ =>
    if c.isAlpha then
      let scheme := text.takeWhile isSchemeChar
      match text.drop scheme.length with
      | ':' :: rest => some (Chars.lower scheme, rest)
      | _ => none
    else none

/-! ## §2 Paths -/

/-- A segment that stands for the current place. -/
def isSingleDot (segment : Chars) : Bool :=
  segment == ['.'] || Chars.lower segment == ['%', '2', 'e']

/-- A segment that stands for the place above. -/
def isDoubleDot (segment : Chars) : Bool :=
  [['.', '.'], ['.', '%', '2', 'e'], ['%', '2', 'e', '.'], ['%', '2', 'e', '%', '2', 'e']].contains
    (Chars.lower segment)

/-- A letter and a colon or a bar. -/
def isDriveLetter (segment : Chars) : Bool :=
  match segment with
  | [c, d] => c.isAlpha && (d == ':' || d == '|')
  | _ => false

/-- A letter and a colon. -/
def isNormalDriveLetter (segment : Chars) : Bool :=
  match segment with
  | [c, d] => c.isAlpha && d == ':'
  | _ => false

/-- Go up one place; a drive letter at the root stays. -/
def shorten (file : Bool) (path : List Chars) : List Chars :=
  match path with
  | [only] => if file && isNormalDriveLetter only then path else []
  | _ => path.dropLast

/-- Add the segments of a path, in order, to those that stand before them. -/
def addSegments (file : Bool) : List Chars → List Chars → List Chars
  | path, [] => path
  | path, segment :: rest =>
    let isLast := rest.isEmpty
    if isDoubleDot segment then
      let up := shorten file path
      addSegments file (if isLast then up ++ [[]] else up) rest
    else if isSingleDot segment then
      addSegments file (if isLast then path ++ [[]] else path) rest
    else if file && path.isEmpty && isDriveLetter segment then
      addSegments file [segment.take 1 ++ [':']] rest
    else addSegments file (path ++ [Percent.encode Percent.path segment]) rest

/-- The separators of segments. -/
def isSlash (special : Bool) (c : Char) : Bool :=
  c == '/' || (special && c == '\\')

/-- The segments of a path behind its first slash. -/
def segmentsOf (special : Bool) (text : Chars) : List Chars :=
  addSegments false [] (Chars.pieces (isSlash special) text)

/-- The segments of a path of a file; empty ones at the beginning count for nothing. -/
def fileSegmentsOf (text : Chars) : List Chars :=
  let segments := addSegments true [] (Chars.pieces (isSlash true) text)
  match segments.dropWhile (·.isEmpty) with
  | [] => [[]]
  | kept => kept

/-! ## §3 Authorities -/

/-- The number behind the colon of a port, and what follows it. -/
def cutPort? (text : Chars) : Option (Option Nat × Chars) :=
  let digits := text.takeWhile Char.isDigit
  let rest := text.drop digits.length
  let ends := match rest with
    | [] => true
    | c :: _ => c == '/' || c == '\\'
  let value := digits.foldl (fun n c => n * 10 + (c.toNat - 48)) 0
  if !ends || 65535 < value then none
  else some (if digits.isEmpty then none else some value, rest)

/-- Where a host ends: at a slash, or at a colon outside brackets. -/
def cutHost (special : Bool) : Bool → Chars → Chars × Chars
  | _, [] => ([], [])
  | inside, c :: rest =>
    if isSlash special c || (c == ':' && !inside) then ([], c :: rest)
    else
      let (host, after) := cutHost special (c == '[' || (inside && c != ']')) rest
      (c :: host, after)

/-- User name and password of a userinfo text. -/
def readUserinfo (text : Chars) : Chars × Chars :=
  let (name, password) := Chars.cut (· == ':') text
  (Percent.encode Percent.userinfo name, Percent.encode Percent.userinfo (password.getD []))

/-- What an authority says, and the path that follows it. -/
structure Authority where
  username : Chars
  password : Chars
  host : Host
  port : Option Nat
  rest : Chars

/-- Read the authority behind two slashes.  The last argument says whether a query or a fragment
    follows. -/
def readAuthority? (scheme text : Chars) (more : Bool) : Option Authority := do
  let special := isSpecial scheme
  let span := text.takeWhile (!isSlash special ·)
  let rest := text.drop span.length
  let (userinfo, place) := Chars.cutLast (· == '@') span
  let (username, password) := readUserinfo (userinfo.getD [])
  if place.isEmpty && (special || (userinfo == some [] && (more || !rest.isEmpty))) then none
  else
    let (hostText, after) := cutHost special false (place ++ rest)
    if hostText.isEmpty && (special || after.head? == some ':') then none
    else
      let host ← if special then Host.parse? hostText else Host.parseOpaque? hostText
      let (port, rest) ← match after with
        | ':' :: portText => cutPort? portText
        | _ => some (none, after)
      if hostText.isEmpty && !(username.isEmpty && password.isEmpty) then none
      else
        let port := if specialPort? scheme == some port then none else port
        some ⟨username, password, host, port, rest⟩

/-! ## §4 Whole URLs -/

/-- The path behind an authority. -/
def pathAfterAuthority (special : Bool) (text : Chars) : List Chars :=
  match text with
  | [] => if special then [[]] else []
  | c :: rest => segmentsOf special (if isSlash special c then rest else text)

/-- The host and the path of a file. -/
def readFile? (text : Chars) : Option (Host × List Chars) :=
  match text with
  | c :: d :: rest =>
    if isSlash true c && isSlash true d then
      let name := rest.takeWhile (!isSlash true ·)
      let after := rest.drop name.length
      if isDriveLetter name then some (.domain [], fileSegmentsOf rest)
      else
        let path := match after with
          | [] => [[]]
          | _ :: behind => fileSegmentsOf behind
        if name.isEmpty then some (.domain [], path)
        else do
          let host ← Host.parse? name
          let host := if host == .domain "localhost".toList then .domain [] else host
          let hasDrive := path.head?.any isNormalDriveLetter
          some (if hasDrive then .domain [] else host, path)
    else some (.domain [], fileSegmentsOf (if isSlash true c then d :: rest else text))
  | [c] => some (.domain [], fileSegmentsOf (if isSlash true c then [] else text))
  | [] => some (.domain [], [[]])

def parse? (text : Chars) : Option Url := do
  let (scheme, rest) ← cutScheme? (prepare text)
  let (rest, fragment) := Chars.cut (· == '#') rest
  let (main, query) := Chars.cut (· == '?') rest
  let special := isSpecial scheme
  let more := query.isSome || fragment.isSome
  let fragment := fragment.map (Percent.encode Percent.fragment)
  let query := query.map (Percent.encode (if special then Percent.specialQuery else Percent.query))
  if scheme == "file".toList then
    let (host, path) ← readFile? main
    some ⟨scheme, [], [], some host, none, .segments path, query, fragment⟩
  else if special then
    let a ← readAuthority? scheme (Chars.trimStart (isSlash true) main) more
    some ⟨scheme, a.username, a.password, some a.host, a.port,
      .segments (pathAfterAuthority true a.rest), query, fragment⟩
  else
    match main with
    | '/' :: '/' :: behind =>
      let a ← readAuthority? scheme behind more
      some ⟨scheme, a.username, a.password, some a.host, a.port,
        .segments (pathAfterAuthority false a.rest), query, fragment⟩
    | '/' :: behind =>
      some ⟨scheme, [], [], none, none, .segments (segmentsOf false behind), query, fragment⟩
    | _ =>
      some ⟨scheme, [], [], none, none,
        .uninterpreted (Percent.encode Percent.controls main), query, fragment⟩

end Replicast.Url
