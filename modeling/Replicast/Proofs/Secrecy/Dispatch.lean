import Mathlib.Data.List.Forall2
import Replicast.Engine
import Replicast.Proofs.Redaction.Userinfo
import Replicast.Proofs.Secrecy.Batch
/-!
# Batches that begin the same

Two lists of targets that differ in userinfo only are prepared alike, and the batches that begin
with them look the same.  What is shown of the two beginnings is the same as well.

## Overview

* `Operation.Twins` relates two targets of an operation whose requests are shown alike, and
  `Operation.Preparation.Alike` what becomes of them.
* `History.shown` is what may be seen of a history.
* `Engine.placeAll_alike` and `Engine.fresh_alike` are the two parts of a beginning.
-/

namespace Replicast

/-! ## §1 Targets -/

namespace Operation

/-- Two targets with the same index that are the same, or that both come to nothing, or whose base
    URLs differ in the userinfo and whose requests are shown as URLs. -/
inductive Twins (op : Operation) : Target → Target → Prop
  | same (t : Target) : Twins op t t
  | refused {t t' : Target} {text text' : Chars} (hindex : t.index = t'.index)
    (ht : op.uriFor t = .error text) (ht' : op.uriFor t' = .error text') : Twins op t t'
  | resolved {t t' : Target} {u u' : Uri} (hindex : t.index = t'.index)
    (hbase : Uri.SameButUserinfo t.baseUrl.toList t'.baseUrl.toList) (ht : op.uriFor t = .ok u)
    (ht' : op.uriFor t' = .ok u') (hurl : Url.parse? u.text ≠ none) : Twins op t t'

section Twins

variable {op : Operation} {t t' : Target}

theorem Twins.index (h : op.Twins t t') : t.index = t'.index := by
  cases h with
  | same => rfl
  | refused hindex => exact hindex
  | resolved hindex => exact hindex

/-- Either no request comes of both targets, or the requests are shown alike. -/
theorem Twins.uriFor (h : op.Twins t t') :
    (∃ text text', op.uriFor t = .error text ∧ op.uriFor t' = .error text') ∨
      ∃ u u', op.uriFor t = .ok u ∧ op.uriFor t' = .ok u' ∧ u.redacted = u'.redacted := by
  cases h with
  | same =>
    cases hu : op.uriFor t with
    | error text => exact .inl ⟨text, text, rfl, rfl⟩
    | ok u => exact .inr ⟨u, u, rfl, rfl, rfl⟩
  | refused hindex ht ht' => exact .inl ⟨_, _, ht, ht'⟩
  | resolved hindex hbase ht ht' hurl =>
    exact .inr ⟨_, _, ht, ht', Uri.redacted_eq_of_resolve hbase ht ht' hurl⟩

/-- The handler of an operation has no say in its requests. -/
theorem Twins.withoutHandler (h : op.Twins t t') :
    ({ op with handler := none } : Operation).Twins t t' := by
  cases h with
  | same => exact .same t
  | refused hindex ht ht' => exact .refused hindex ht ht'
  | resolved hindex hbase ht ht' hurl => exact .resolved hindex hbase ht ht' hurl

end Twins

/-! ## §2 Preparations -/

/-- Preparations that show the same. -/
structure Preparation.Alike (p p' : Preparation) : Prop where
  index : p.target.index = p'.target.index
  head : p.head.face = p'.head.face
  opened : p.opened = p'.opened
  copy : p.copy.mapError Error.veiled = p'.copy.mapError Error.veiled

section Prepare

variable {op : Operation} {client : Client}

theorem prepare_alike (hclient : ∀ i ∈ client.interceptor, Interceptor.Blind i) {t t' : Target}
    (h : op.Twins t t') (openings : Nat) :
    (op.prepare client t openings).Alike (op.prepare client t' openings) := by
  have hindex := h.index
  unfold prepare
  rcases h.uriFor with ⟨text, text', ht, ht'⟩ | ⟨u, u', ht, ht', hredacted⟩
  · rw [ht, ht']
    exact ⟨hindex, rfl, rfl, rfl⟩
  rw [ht, ht']
  dsimp only
  have hshown (headers : Header.Map) : (⟨op.method, u, headers⟩ : RequestHead).face =
      (⟨op.method, u', headers⟩ : RequestHead).face := by
    simp [RequestHead.face, RequestHead.redactedUri, hredacted]
  -- Both interceptors are asked or none is, and they leave heads that are shown alike.
  obtain ⟨hhead, hrefusal⟩ :
      ((intercept client t ⟨op.method, u, op.headersFor client⟩).elim
          ⟨op.method, u, op.headersFor client⟩ (·.head)).face =
        ((intercept client t' ⟨op.method, u', op.headersFor client⟩).elim
          ⟨op.method, u', op.headersFor client⟩ (·.head)).face ∧
      (intercept client t ⟨op.method, u, op.headersFor client⟩).bind (·.refusal) =
        (intercept client t' ⟨op.method, u', op.headersFor client⟩).bind (·.refusal) := by
    unfold intercept
    cases hi : client.interceptor with
    | none => exact ⟨hshown _, rfl⟩
    | some i => exact hclient i hi _ _ _ _ hindex (hshown _)
  rw [← hrefusal]
  generalize intercept client t ⟨op.method, u, op.headersFor client⟩ = answer at hhead ⊢
  generalize intercept client t' ⟨op.method, u', op.headersFor client⟩ = answer' at hhead ⊢
  cases answer.bind (·.refusal) with
  | some e => exact ⟨hindex, hhead, rfl, by rw [hindex]⟩
  | none =>
    cases op.body.openCopy openings with
    | ok copy => exact ⟨hindex, hhead, rfl, rfl⟩
    | error cause =>
      refine ⟨hindex, hhead, rfl, ?_⟩
      dsimp only
      rw [(RequestHead.face_eq_iff.mp hhead).2.1]

theorem prepareAll_alike (hclient : ∀ i ∈ client.interceptor, Interceptor.Blind i)
    {targets targets' : List Target} (h : List.Forall₂ op.Twins targets targets') (openings : Nat) :
    List.Forall₂ Preparation.Alike (op.prepareAll client openings targets)
      (op.prepareAll client openings targets') := by
  induction h generalizing openings with
  | nil => exact .nil
  | cons htwins _ ih =>
    have hfirst := prepare_alike hclient htwins openings
    refine .cons hfirst ?_
    simp only [Preparation.openings, hfirst.opened]
    exact ih _

end Prepare

end Operation

/-! ## §3 What is shown of a history -/

/-- What may be seen of an effect for one target. -/
def Engine.Placed.shown? (placed : Engine.Placed) : Option Engine.Placed :=
  placed.2.shown?.map (placed.1, ·)

/-- What may be seen of a history. -/
def History.shown (h : History) : History :=
  h.filterMap fun r => r.effect.shown?.map fun effect => { r with effect }

theorem History.shown_append (h k : History) : (h ++ k).shown = h.shown ++ k.shown :=
  List.filterMap_append

namespace Engine

theorem shown_placed (position : Option Nat) (effects : List Effect) :
    (effects.map (position, ·)).filterMap Placed.shown? = (shown effects).map (position, ·) := by
  simp [shown, List.filterMap_map, List.map_filterMap, Function.comp_def, Placed.shown?]

/-- Records show what their effects show. -/
theorem records_shown {e e' : Engine} (hnow : e.now = e'.now) (number : Nat)
    {placed placed' : List Placed}
    (h : placed.filterMap Placed.shown? = placed'.filterMap Placed.shown?) :
    (e.records number placed).shown = (e'.records number placed').shown := by
  have hrecords (e : Engine) (placed : List Placed) :
      (e.records number placed).shown = e.records number (placed.filterMap Placed.shown?) := by
    simp [records, History.shown, List.filterMap_map, List.map_filterMap, Function.comp_def,
      Placed.shown?]
  rw [hrecords, hrecords, h]
  simp only [records, hnow]

/-! ## §4 Beginnings -/

section Beginnings

variable {client : Client} {policy : RetryPolicy}

theorem workerOf_face {p p' : Operation.Preparation} (h : p.Alike p') :
    (workerOf p).face = (workerOf p').face := by
  have hcopy := h.copy
  unfold workerOf
  cases hp : p.copy <;> cases hp' : p'.copy <;> rw [hp, hp'] at hcopy
  · simp [Worker.face, h.index, h.head]
  · cases hcopy
  · cases hcopy
  · obtain rfl : _ = _ := Except.ok.inj hcopy
    simp [Worker.face, h.index, h.head]

theorem spanFields_alike {p p' : Operation.Preparation} (h : p.Alike p') :
    spanFields client policy p = spanFields client policy p' := by
  obtain ⟨hmethod, huri, -⟩ := RequestHead.face_eq_iff.mp h.head
  simp [spanFields, h.index, hmethod, huri]

/-- A failure to build a request is told alike: neither the base URL nor the text that was no URI is
    in what is shown of it. -/
theorem buildEvent_alike {t t' : Target} (hindex : t.index = t'.index) {e e' : Error}
    (he : e.veiled = e'.veiled) :
    (buildEvent client t e).veiled = (buildEvent client t' e').veiled := by
  simp only [buildEvent, Log.Event.veiled, Log.warn,
    show Log.bareMessages.contains "failed to build request for target" = true from rfl, if_true,
    List.map_cons, hindex, Log.veilField_error he]
  rfl

/-- What a preparation asked for before it came to an end shows whether the body was opened. -/
theorem shown_asked {p p' : Operation.Preparation} (h : p.Alike p') :
    shown ((p.intercepted.map Effect.consulted).toList ++ (if p.opened then [.opened] else [])) =
      shown ((p'.intercepted.map Effect.consulted).toList ++
        (if p'.opened then [.opened] else [])) := by
  rw [h.opened, shown_append, shown_append]
  cases p.intercepted <;> cases p'.intercepted <;> rfl

theorem place_alike (client : Client) (policy : RetryPolicy) {b b' : Batch} (hb : b.Alike b')
    {p p' : Operation.Preparation} (h : p.Alike p') (position : Nat) :
    (place client policy position b p).1.Alike (place client policy position b' p').1 ∧
      (place client policy position b p).2.filterMap Placed.shown? =
        (place client policy position b' p').2.filterMap Placed.shown? := by
  have hcopy := h.copy
  have hasked := shown_asked h
  unfold place
  cases hp : p.copy <;> cases hp' : p'.copy <;> rw [hp, hp'] at hcopy
  · rename_i e e'
    have he : e.veiled = e'.veiled := Except.error.inj hcopy
    have hface : (Outcome.failed p.target p.head e).face =
        (Outcome.failed p'.target p'.head e').face := by
      simp [Outcome.failed, Outcome.face, h.index, h.head, he]
    obtain ⟨halike, hposted⟩ := hb.post hface
    have hfailed : shown (.buildFailed e :: (b.post (Outcome.failed p.target p.head e)).2) =
        shown (.buildFailed e' :: (b'.post (Outcome.failed p'.target p'.head e')).2) := hposted
    refine ⟨halike, ?_⟩
    dsimp only
    rw [List.filterMap_append, List.filterMap_append, List.filterMap_cons, List.filterMap_cons,
      shown_placed, shown_placed, shown_placed, shown_placed, hasked, hfailed]
    simp only [Placed.shown?, Effect.shown?, Option.map_some, buildEvent_alike h.index he]
  · cases hcopy
  · cases hcopy
  · refine ⟨hb, ?_⟩
    dsimp only
    rw [shown_placed, shown_placed, shown_append (_ ++ _), shown_append (_ ++ _), hasked,
      spanFields_alike h]

theorem placeAll_alike (client : Client) (policy : RetryPolicy)
    {preparations preparations' : List Operation.Preparation}
    (h : List.Forall₂ Operation.Preparation.Alike preparations preparations') {b b' : Batch}
    (hb : b.Alike b') (position : Nat) :
    (placeAll client policy position b preparations).1.Alike
        (placeAll client policy position b' preparations').1 ∧
      (placeAll client policy position b preparations).2.filterMap Placed.shown? =
        (placeAll client policy position b' preparations').2.filterMap Placed.shown? := by
  induction h generalizing b b' position with
  | nil => exact ⟨hb, rfl⟩
  | cons hp _ ih =>
    obtain ⟨hfirst, hshown⟩ := place_alike client policy hb hp position
    obtain ⟨hrest, hothers⟩ := ih hfirst (position + 1)
    exact ⟨hrest, by simp only [placeAll, List.filterMap_append, hshown, hothers]⟩

/-- Before anything has happened, batches of preparations that show the same look the same. -/
theorem fresh_alike (e : Engine) {op : Operation} (hop : ∀ handler ∈ op.handler, handler.Blind)
    {preparations preparations' : List Operation.Preparation}
    (h : List.Forall₂ Operation.Preparation.Alike preparations preparations') :
    (e.fresh op preparations).Alike (e.fresh op preparations') where
  plan := rfl
  parent := rfl
  handler := rfl
  blind := hop
  cancelled := rfl
  released := rfl
  workers := by
    induction h with
    | nil => rfl
    | cons hp _ ih => exact congrArg₂ List.cons (workerOf_face hp) ih
  channel := ⟨by simp [fresh, h.length_eq], rfl, rfl⟩
  stage := .kept

end Beginnings

end Engine

end Replicast
