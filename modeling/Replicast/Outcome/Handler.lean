import Replicast.Outcome.Basic
/-!
# Response handlers

A handler decides whether an outcome counts as a success, and may cancel the batch.

## Overview

* `Judgement` is what a handler says about one outcome, and `Handler` is a function to judgements.
* `Handler.successStatus` accepts the outcomes whose status ended the attempts with success; further
  handlers accept by a list of statuses, by the body, always or never.
* `Handler.cancellingOn` makes a handler cancel the batch on some outcomes.
-/

namespace Replicast

/-- What a handler says about an outcome. -/
structure Judgement where
  /-- Whether the handler cancels the batch before it answers. -/
  cancels : Bool
  verdict : Except Error Unit

/-- Decides what counts as a success. -/
abbrev Handler := Outcome → Judgement

namespace Handler

/-! ## §1 Verdicts -/

/-- A verdict on the status: accepted, or the outcome's own error in words, or a rejection. -/
def successVerdict (o : Outcome) : Except Error Unit :=
  if o.isSuccess then .ok ()
  else
    match o.error with
    | some e => .error (.custom e.message)
    | none => .error (Error.rejection o)

/-- Accept the outcomes whose status ended the attempts with success. -/
def successStatus : Handler := fun o => ⟨false, successVerdict o⟩

def accept : Handler := fun _ => ⟨false, .ok ()⟩

/-- Refuse every outcome in the same words. -/
def refuse (message : String) : Handler := fun _ => ⟨false, .error (.custom message)⟩

def reject : Handler := fun o => ⟨false, .error (Error.rejection o)⟩

/-- Accept the outcomes whose status is one of a list. -/
def ofStatuses (statuses : List Status) : Handler := fun o =>
  ⟨false, if o.status?.any statuses.contains then .ok () else .error (Error.rejection o)⟩

/-- Accept the outcomes whose body is a JSON document. -/
def json : Handler := fun o => ⟨false, (o.json .any).map fun _ => ()⟩

/-! ## §2 Cancellation -/

/-- Cancel the batch on some outcomes, before the verdict. -/
def cancellingOn (h : Handler) (when : Outcome → Bool) : Handler := fun o =>
  { h o with cancels := (h o).cancels || when o }

end Handler

end Replicast
