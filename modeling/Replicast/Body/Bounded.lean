import Replicast.Text.Utf8
/-!
# Reading a body within a limit

## Overview

* `Frame` is a piece of a response body.
* `BoundedReader` collects data and stops at the first frame that exceeds the limit or fails.
* `BoundedReader.readAll` reads a whole body.
-/

namespace Replicast

/-- A piece of a response body. -/
inductive Frame where
  | data (bytes : Bytes)
  | trailers
  | failure (cause : String)
deriving DecidableEq, Repr

/-- Why a body could not be read. -/
inductive BodyFault where
  /-- The connection failed. -/
  | broken (cause : String)
  /-- More than the limit had come, this many bytes. -/
  | tooLarge (actual : Nat)
deriving DecidableEq, Repr

/-- The data read so far. -/
structure BoundedReader where
  taken : Bytes
deriving DecidableEq, Repr

namespace BoundedReader

def start : BoundedReader := ⟨[]⟩

/-- Read one frame.  Data may fill the limit exactly; trailers add nothing. -/
def step (limit : Nat) (r : BoundedReader) : Frame → Except BodyFault BoundedReader
  | .data bytes =>
    let total := r.taken.length + bytes.length
    if limit < total then .error (.tooLarge total) else .ok ⟨r.taken ++ bytes⟩
  | .trailers => .ok r
  | .failure cause => .error (.broken cause)

def readAll (limit : Nat) (frames : List Frame) : Except BodyFault Bytes :=
  (frames.foldlM (step limit) start).map taken

end BoundedReader

end Replicast
