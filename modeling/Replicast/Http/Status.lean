/-!
# Status codes

## Overview

* `Status` is a three-digit status code.
* `Status.isTerminalSuccess` singles out the codes that end a target's attempts with success.
-/

namespace Replicast

/-- A status code of a response: a number of three digits. -/
structure Status where
  code : Nat
  three_digits : 100 ≤ code ∧ code ≤ 999
deriving DecidableEq, Repr

namespace Status

/-- The status code with a given number, if it has three digits. -/
def ofNat? (n : Nat) : Option Status :=
  if h : 100 ≤ n ∧ n ≤ 999 then some ⟨n, h⟩ else none

/-- 200: the request was served. -/
def ok : Status := ⟨200, by decide⟩

/-- 429: the server asks for a pause before the next request. -/
def tooManyRequests : Status := ⟨429, by decide⟩

/-- The success codes after which no further attempt is made.  Other codes between 200 and 299 do
    not count. -/
def isTerminalSuccess (s : Status) : Bool :=
  s.code == 200 || s.code == 201 || s.code == 202 || s.code == 204

end Status

end Replicast
