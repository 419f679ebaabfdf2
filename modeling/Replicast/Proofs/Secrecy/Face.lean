import Mathlib.Data.List.Basic
import Replicast.Batch.Reducer
import Replicast.Proofs.Redaction
import Replicast.Proofs.Secrecy.Worker
/-!
# Faces

What a worker, an outcome and a log event show of a target.  Two events show a target's base URL as
it is, and an error shows the text that was no URI; everything else that is shown goes by the
redacted URI.

## Overview

* `Worker.face` and `Outcome.face` are workers and outcomes without what is secret of their targets.
* `Log.Event.veiled` takes the base URL and the text that was no URI out of an event, and
  `Effect.shown?` keeps what may be seen of an effect.
* `Handler.Blind`, `Acceptance.Blind` and `Interceptor.Blind` say that nothing else is looked at.
* `QuorumReport.events_eq_of_face` is what is told about outcomes with the same faces.
-/

namespace Replicast

/-! ## §1 Lists with the same images -/

section Images

variable {α β γ : Type} {f : α → β} {l l' : List α}

/-- Lists with the same images under one function have the same images under every function that
    depends on it. -/
theorem map_eq_of_map_eq {g : α → γ} (hg : ∀ a b, f a = f b → g a = g b)
    (h : l.map f = l'.map f) : l.map g = l'.map g := by
  induction l generalizing l' with
  | nil =>
    obtain rfl : l' = [] := by simpa using h.symm
    rfl
  | cons a l ih =>
    cases l' with
    | nil => cases h
    | cons b l' =>
      obtain ⟨hab, hrest⟩ := List.cons.inj h
      exact congrArg₂ List.cons (hg a b hab) (ih hrest)

theorem length_eq_of_map_eq (h : l.map f = l'.map f) : l.length = l'.length := by
  simpa using congrArg List.length h

end Images

/-! ## §2 Outcomes and workers -/

/-- An error without the text that was no URI. -/
def Error.veiled : Error → Error
  | .invalidUri _ => .invalidUri ""
  | e => e

/-- An outcome as it is shown. -/
structure Outcome.Face where
  index : Nat
  request : RequestHead.Face
  response : Option ResponseHead
  body : Bytes
  error : Option Error
  attempts : Nat

def Outcome.face (o : Outcome) : Face :=
  ⟨o.target.index, o.request.face, o.response, o.body, o.error.map Error.veiled, o.attempts⟩

/-- A worker as it is shown. -/
structure Worker.Face where
  index : Nat
  request : RequestHead.Face
  initial : Option Stream
  attempts : Nat
  phase : Phase

def Worker.face (w : Worker) : Face :=
  ⟨w.target.index, w.request.face, w.initial, w.attempts, w.phase⟩

theorem Outcome.face_eq_iff {o o' : Outcome} :
    o.face = o'.face ↔ o.target.index = o'.target.index ∧ o.request.face = o'.request.face ∧
      o.response = o'.response ∧ o.body = o'.body ∧
      o.error.map Error.veiled = o'.error.map Error.veiled ∧ o.attempts = o'.attempts := by
  simp [face]

/-- Workers with the same face are the same up to their targets and requests. -/
theorem Worker.eq_swap_of_face {w w' : Worker} (h : w.face = w'.face) :
    w' = w.swap w'.target w'.request := by
  obtain ⟨_, _, _, _, _⟩ := w
  obtain ⟨_, _, _, _, _⟩ := w'
  simp only [face, Face.mk.injEq] at h
  obtain ⟨-, -, rfl, rfl, rfl⟩ := h
  rfl

theorem Worker.face_swap {w : Worker} {t : Target} {r : RequestHead}
    (ht : w.target.index = t.index) (hr : w.request.face = r.face) :
    (w.swap t r).face = w.face := by
  simp [face, swap, ht, hr]

theorem Outcome.face_swap {o : Outcome} {t : Target} {r : RequestHead}
    (ht : o.target.index = t.index) (hr : o.request.face = r.face) :
    (o.swap t r).face = o.face := by
  simp [face, swap, ht, hr]

/-! ## §3 The log -/

namespace Log

/-- The events that name a base URL as it is. -/
def bareMessages : List String :=
  ["failed to build request for target", "replica did not accept"]

/-- The words that a text that is no URI stands behind. -/
def uriWords : String := "invalid request uri: "

/-- The value of a field without a base URL, and without the text that was no URI. -/
def veilField : String × Value → String × Value
  | ("base_url", _) => ("base_url", .text "")
  | ("error", .text s) =>
    ("error", .text (if Chars.hasLead uriWords.toList s.toList then uriWords else s))
  | field => field

/-- An event without either. -/
def Event.veiled (e : Event) : Event :=
  if bareMessages.contains e.message then { e with fields := e.fields.map veilField } else e

end Log

/-- What is to be seen of an effect where requests, outcomes and errors are not: the log, veiled, and
    whatever names none of them. -/
def Effect.shown? : Effect → Option Effect
  | .consulted _ | .buildFailed _ | .sent _ _ | .recorded _ | .posted _ _ | .consumed _
  | .returned _ => none
  | .logged e => some (.logged e.veiled)
  | e => some e

def shown (effects : List Effect) : List Effect := effects.filterMap Effect.shown?

theorem shown_append (xs ys : List Effect) : shown (xs ++ ys) = shown xs ++ shown ys :=
  List.filterMap_append

/-- What is shown of a worker's effects does not depend on its target and its request. -/
theorem shown_swap (t : Target) (r : RequestHead) (effects : List Effect) :
    shown (effects.map (Effect.swap t r)) = shown effects := by
  have hswap (e : Effect) : (e.swap t r).shown? = e.shown? := by cases e <;> rfl
  simp [shown, List.filterMap_map, hswap]

theorem shown_logged (events : List Log.Event) :
    shown (events.map .logged) = (events.map Log.Event.veiled).map .logged := by
  simp [shown, List.filterMap_map, Function.comp_def, Effect.shown?]

/-- Openings of the body are shown. -/
theorem count_opened_eq_of_shown {xs ys : List Effect} (h : shown xs = shown ys) :
    xs.count .opened = ys.count .opened := by
  have hcount (effects : List Effect) : (shown effects).count .opened = effects.count .opened := by
    induction effects with
    | nil => rfl
    | cons e effects ih => cases e <;> simp_all [shown, Effect.shown?, List.filterMap_cons]
  rw [← hcount, h, hcount]

/-- Errors that are the same when veiled are written the same when veiled. -/
theorem Log.veilField_error {e e' : Error} (h : e.veiled = e'.veiled) :
    veilField ("error", .text e.message) = veilField ("error", .text e'.message) := by
  have hwords (uri : String) :
      veilField ("error", .text (Error.invalidUri uri).message) = ("error", .text uriWords) := by
    have hmessage : (Error.invalidUri uri).message.toList = uriWords.toList ++ uri.toList :=
      String.toList_append
    simp [veilField, hmessage, Chars.hasLead, Chars.dropLead?_eq_some.mpr rfl]
  have hcases (e : Error) :
      (∃ uri, e = .invalidUri uri) ∨ (e.veiled = e ∧ ∀ uri, e ≠ .invalidUri uri) := by
    cases e <;> simp [Error.veiled]
  rcases hcases e with ⟨uri, rfl⟩ | ⟨he, hne⟩ <;> rcases hcases e' with ⟨uri', rfl⟩ | ⟨he', hne'⟩
  · rw [hwords, hwords]
  · exact absurd (he'.symm.trans h.symm) (hne' _)
  · exact absurd (he.symm.trans h) (hne _)
  · rw [← he, h, he']

/-- An optional field for an error. -/
theorem Log.veiled_optional_error {e e' : Option Error}
    (h : e.map Error.veiled = e'.map Error.veiled) :
    (optional "error" (e.map fun e => .text e.message)).map veilField =
      (optional "error" (e'.map fun e => .text e.message)).map veilField := by
  cases e <;> cases e'
  · rfl
  · cases h
  · cases h
  · exact congrArg (fun field => [field]) (veilField_error (Option.some.inj h))

/-! ## §4 Whatever looks at no more than faces -/

/-- A handler that does not look at what is secret of a target. -/
def Handler.Blind (h : Handler) : Prop :=
  ∀ o o', o.face = o'.face →
    (h o).cancels = (h o').cancels ∧ (h o).verdict.isOk = (h o').verdict.isOk

def Acceptance.Blind (a : Acceptance) : Prop := ∀ o o', o.face = o'.face → a o = a o'

/-- An interceptor that leaves requests that are shown alike of requests that are shown alike. -/
def Interceptor.Blind (i : Interceptor) : Prop :=
  ∀ t t' r r', t.index = t'.index → r.face = r'.face →
    (i t r).head.face = (i t' r').head.face ∧ (i t r).refusal = (i t' r').refusal

/-- A goal whose acceptance, if it has one, is blind. -/
def Goal.Blind : Goal → Prop
  | .decide _ acceptance => acceptance.Blind
  | _ => True

/-- Whether there is an error, and whether an outcome is a success, can be told from its face. -/
theorem Outcome.isNone_error_of_face {o o' : Outcome} (h : o.face = o'.face) :
    o.error.isNone = o'.error.isNone := by
  obtain ⟨-, -, -, -, herror, -⟩ := face_eq_iff.mp h
  simpa using congrArg Option.isNone herror

theorem Outcome.isSuccess_eq_of_face {o o' : Outcome} (h : o.face = o'.face) :
    o.isSuccess = o'.isSuccess := by
  obtain ⟨-, -, hresponse, -, -, -⟩ := face_eq_iff.mp h
  simp [isSuccess, status?, hresponse, isNone_error_of_face h]

theorem Handler.successStatus_blind : Handler.successStatus.Blind := by
  intro o o' h
  have hok (o : Outcome) : (successVerdict o).isOk = o.isSuccess := by
    unfold successVerdict
    cases o.isSuccess with
    | true => rfl
    | false => cases o.error <;> rfl
  exact ⟨rfl, by simp [successStatus, hok, Outcome.isSuccess_eq_of_face h]⟩

theorem Acceptance.ofStatuses_blind (statuses : List Status) :
    (Acceptance.ofStatuses statuses).Blind := by
  intro o o' h
  obtain ⟨-, -, hresponse, -, -, -⟩ := Outcome.face_eq_iff.mp h
  simp [ofStatuses, Outcome.status?, hresponse, Outcome.isNone_error_of_face h]

/-! ## §5 Reports -/

namespace QuorumReport

section Reports

variable {acceptance : Acceptance}

/-- What is told about a replica goes by the face of its outcome. -/
theorem replicaEvent_eq_of_face (ha : acceptance.Blind) {o o' : Outcome} (h : o.face = o'.face) :
    (replicaEvent acceptance o).veiled = (replicaEvent acceptance o').veiled := by
  obtain ⟨hindex, -, hresponse, -, herror, -⟩ := Outcome.face_eq_iff.mp h
  have hstatus : statusField o = statusField o' := by
    simp [statusField, Outcome.statusCode?, Outcome.status?, hresponse]
  unfold replicaEvent
  rw [ha o o' h]
  split
  · rw [hindex, hstatus]
  · simp only [Log.Event.veiled, Log.warn, show Log.bareMessages.contains "replica did not accept" =
      true from rfl, if_true, List.map_append, List.map_cons, Log.veiled_optional_error herror,
      hindex, hstatus]
    rfl

theorem inOrder_face {joined joined' : List Outcome}
    (h : joined.map Outcome.face = joined'.map Outcome.face) :
    (inOrder joined).map Outcome.face = (inOrder joined').map Outcome.face := by
  have hsort (outcomes : List Outcome) : (inOrder outcomes).map Outcome.face =
      (outcomes.map Outcome.face).mergeSort fun a b => a.index ≤ b.index :=
    List.map_mergeSort fun _ _ _ _ => rfl
  rw [hsort, hsort, h]

/-- **What is told about a report goes by the faces of the outcomes.** -/
theorem events_eq_of_face {r r' : QuorumReport} (ha : acceptance.Blind) (htally : r.tally = r'.tally)
    (hreplicas : r.replicas = r'.replicas)
    (houtcomes : r.outcomes.map Outcome.face = r'.outcomes.map Outcome.face) :
    (r.events acceptance).map Log.Event.veiled = (r'.events acceptance).map Log.Event.veiled := by
  have hevents : (r.outcomes.map (replicaEvent acceptance)).map Log.Event.veiled =
      (r'.outcomes.map (replicaEvent acceptance)).map Log.Event.veiled := by
    simp only [List.map_map]
    exact map_eq_of_map_eq (fun o o' h => replicaEvent_eq_of_face ha h) houtcomes
  have hinterruption : r.interruptionEvent = r'.interruptionEvent := by
    unfold interruptionEvent
    rw [length_eq_of_map_eq houtcomes, hreplicas]
  have hverdict : r.verdictEvent = r'.verdictEvent := by
    unfold verdictEvent isMet
    rw [htally, hreplicas]
  simp only [events, List.map_append, hevents, hinterruption, hverdict]

/-- Reports over outcomes that show the same come to the same verdict and are told alike. -/
theorem ofOutcomes_tally (ha : acceptance.Blind) (threshold : Threshold) (replicas : Nat)
    {joined joined' : List Outcome} (h : joined.map Outcome.face = joined'.map Outcome.face) :
    (ofOutcomes threshold acceptance replicas joined).tally =
      (ofOutcomes threshold acceptance replicas joined').tally := by
  have hvotes : (inOrder joined).map acceptance = (inOrder joined').map acceptance :=
    map_eq_of_map_eq (fun o o' => ha o o') (inOrder_face h)
  simp only [ofOutcomes, hvotes]

theorem ofOutcomes_events (ha : acceptance.Blind) (threshold : Threshold) (replicas : Nat)
    {joined joined' : List Outcome} (h : joined.map Outcome.face = joined'.map Outcome.face) :
    ((ofOutcomes threshold acceptance replicas joined).events acceptance).map Log.Event.veiled =
      ((ofOutcomes threshold acceptance replicas joined').events acceptance).map
        Log.Event.veiled :=
  events_eq_of_face ha (ofOutcomes_tally ha threshold replicas h) rfl (inOrder_face h)

end Reports

end QuorumReport

end Replicast
