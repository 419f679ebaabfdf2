import Replicast.Uri.Basic
import Replicast.Url.Parser
/-!
# From a base URL to a request URI

A request path is joined to the base URL of a target, names and values are added to the query, and
the result is read as the URI of the request.

## Overview

* `Uri.joinPath` joins base and path with a single slash.
* `Uri.addPairs` adds names and values: through the URL when the text is one, behind the text when
  it is not.
* `Uri.resolve` is the whole; the text that is no web address is what it refuses.
* `Uri.redact` is a URI as it may be shown: without userinfo, query and fragment.
-/

namespace Replicast.Uri

/-! ## §1 Joining -/

/-- Join a path to a base with a single slash between them. -/
def joinPath (base path : Chars) : Chars :=
  let base := Chars.trimEnd (· == '/') base
  let relative := Chars.trimStart (· == '/') path
  if base.isEmpty then relative
  else if relative.isEmpty then base
  else base ++ '/' :: relative

/-- Add names and values to the query of a text. -/
def addPairs (text : Chars) (pairs : Form.Pairs) : Chars :=
  if pairs.isEmpty then text
  else
    match Url.parse? text with
    | some url => (url.appendPairs pairs).text
    | none => text ++ (if text.contains '?' then '&' else '?') :: Form.encode pairs

/-- The text that a target's URI is read from. -/
def targetText (base path : Chars) (pairs : Form.Pairs) : Chars :=
  addPairs (joinPath base path) pairs

/-- The URI of a request, or the text that is none. -/
def resolve (base path : Chars) (pairs : Form.Pairs) : Except Chars Uri :=
  let text := targetText base path pairs
  match parse? text with
  | some uri => .ok uri
  | none => .error text

/-! ## §2 Redaction -/

/-- A URI text without what may be secret; a text that is no URL is cut at its query. -/
def redact (text : Chars) : Chars :=
  match Url.parse? text with
  | some url => url.redacted.text
  | none => text.takeWhile (· != '?')

def redacted (u : Uri) : Chars :=
  redact u.text

end Replicast.Uri
