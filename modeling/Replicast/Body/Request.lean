import Replicast.Text.Utf8
/-!
# Request bodies

Every target of a batch, and every retry that sends its body again, opens a copy of its own.

## Overview

* `Chunk` is what comes next in a stream: data, trailers, a failure, or time in which nothing comes.
* `RequestBody` is empty, kept in memory, or made afresh by a factory on every opening; a factory
  may fail.
* `RequestBody.openCopy` opens a copy.
-/

namespace Replicast

/-- What comes next in a stream. -/
inductive Chunk where
  | data (bytes : Bytes)
  | trailers
  | failure (cause : String)
  /-- Nothing comes for some milliseconds. -/
  | wait (ms : Nat)
deriving DecidableEq, Repr

/-- A body as it arrives. -/
abbrev Stream := List Chunk

/-- The body of a request, to be sent to every target. -/
inductive RequestBody where
  | empty
  | buffered (bytes : Bytes)
  /-- The result of each opening, by its number. -/
  | factory (openings : Nat → Except String Stream)

namespace RequestBody

def isEmpty : RequestBody → Bool
  | empty => true
  | buffered bytes => bytes.isEmpty
  | factory _ => false

def isFactory : RequestBody → Bool
  | factory _ => true
  | _ => false

/-- Open a copy; the number counts the openings of factories so far. -/
def openCopy (b : RequestBody) (number : Nat) : Except String Stream :=
  match b with
  | empty => .ok []
  | buffered bytes => .ok (if bytes.isEmpty then [] else [.data bytes])
  | factory openings => openings number

/-- The kind of a body, with its length when it is known. -/
def describe : RequestBody → String
  | empty => "Empty"
  | buffered bytes => "Buffered(" ++ toString bytes.length ++ ")"
  | factory _ => "Factory(..)"

end RequestBody

end Replicast
