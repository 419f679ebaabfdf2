import Replicast.Text.Utf8
/-!
# Excerpts of bodies

A body in an error message is cut to a fixed number of characters.
-/

namespace Replicast.Excerpt

/-- The longest excerpt, in characters, before the mark of a cut. -/
def maxChars : Nat := 2048

/-- The mark of a cut. -/
def cutMark : String := "...(truncated)"

/-- A body as text, cut when it is longer than an excerpt may be. -/
def ofBody (body : Bytes) : String :=
  let chars := Utf8.decodeLossy body
  if chars.length ≤ maxChars then String.ofList chars
  else String.ofList (chars.take maxChars) ++ cutMark

end Replicast.Excerpt
