import Replicast.Proofs.Requests
/-!
# Well-formed outcomes

Outcomes are made in many places, by the dispatch and at every end of a worker.  Wherever an outcome
was made, its parts fit each other: the response, the body, the error and the attempts.

## Overview

* `Engine.Drained` says that the body of a final response was read to its end.
* `Outcome.Sound` is what the parts of an outcome say about each other, and `Outcome.WellFormed` adds
  what they say about the body of the response.
* `Worker.Ending.sound` says that every end of a worker leaves a sound outcome.
* `Engine.run_wellFormed` is the result.
-/

namespace Replicast

/-! ## §1 Parts that fit each other -/

namespace Outcome

/-- What can go wrong after the head of a final response. -/
def readingCodes : List ErrorCode :=
  [.readBody, .responseBodyTooLarge, .deadlineExceeded, .cancelled]

/-- What can go wrong before there is a final response. -/
def unansweredCodes : List ErrorCode :=
  [.invalidUri, .intercepted, .bodyReplay, .requestBuild, .transport, .deadlineExceeded, .cancelled,
    .workerAborted]

/-- What the parts of an outcome say about each other, when a policy bounds the attempts. -/
structure Sound (bound : Nat) (o : Outcome) : Prop where
  /-- There is a body only without an error. -/
  bodied : o.body ≠ [] → o.error = none
  /-- A response beside an error was cut off. -/
  cut : ∀ e, o.response.isSome → o.error = some e → e.code ∈ readingCodes
  /-- Without a response there is a reason. -/
  unanswered : o.response = none → ∃ e, o.error = some e ∧ e.code ∈ unansweredCodes
  within : o.attempts ≤ bound
  /-- A response is the answer to an attempt. -/
  begun : o.response.isSome → 1 ≤ o.attempts
  /-- An unsuccessful response was the last one allowed. -/
  spent : ∀ head, o.response = some head → head.status.code ∉ [200, 201, 202, 204] →
    o.attempts = bound
  /-- So was a failure of the transport. -/
  failed : ∀ e, o.error = some e → e.code = .transport → o.attempts = bound

/-- An outcome without a response is sound when its error is one of those that can be. -/
theorem sound_of_error {target : Target} {request : RequestHead} {e : Error} {attempts bound : Nat}
    (hcode : e.code ∈ unansweredCodes) (hwithin : attempts ≤ bound)
    (hlast : e.code = .transport → attempts = bound) :
    Sound bound ⟨target, request, none, [], some e, attempts⟩ := by
  refine ⟨by simp, by simp, fun _ => ⟨e, rfl, hcode⟩, hwithin, by simp, by simp, ?_⟩
  intro e' he htransport
  obtain rfl := Option.some.inj he
  exact hlast htransport

/-- An outcome with a final response is sound when its error, if it has one, came while the body was
    read. -/
theorem sound_of_response {target : Target} {request : RequestHead} {head : ResponseHead}
    {body : Bytes} {error : Option Error} {attempts bound : Nat}
    (hbody : body ≠ [] → error = none) (hcode : ∀ e, error = some e → e.code ∈ readingCodes)
    (hbegun : 0 < attempts) (hwithin : attempts ≤ bound)
    (hfinal : head.status.isTerminalSuccess = true ∨ bound ≤ attempts) :
    Sound bound ⟨target, request, some head, body, error, attempts⟩ := by
  refine ⟨hbody, fun e _ he => hcode e he, by simp, hwithin, fun _ => hbegun, ?_, ?_⟩
  · intro head' hhead hstatus
    obtain rfl := Option.some.inj hhead
    refine Nat.le_antisymm hwithin (hfinal.resolve_left fun hsuccess => hstatus ?_)
    simpa [Status.isTerminalSuccess, or_assoc] using hsuccess
  · intro e he htransport
    have hreading := hcode e he
    simp [htransport, readingCodes] at hreading

end Outcome

namespace Worker

variable {p : Plan} {stop : Option Error} {w : Worker} {s : Signal} {o : Outcome} {requests : Nat}

/-- **Every end of a worker leaves a sound outcome.** -/
theorem Ending.sound (h : Ending p stop w s o) (hcounts : Counts p w requests)
    (hbound : 0 < p.retryPolicy.maxAttempts)
    (hstop : ∀ e, stop = some e → e.code = .deadlineExceeded ∨ e.code = .cancelled) :
    o.Sound p.retryPolicy.maxAttempts := by
  have hwithin : w.attempts ≤ p.retryPolicy.maxAttempts := by
    have hle := hcounts.within
    omega
  have hanswered {head : ResponseHead} {reader : BoundedReader}
      (hphase : w.phase = .reading head reader) {body : Bytes} {error : Option Error}
      (hbody : body ≠ [] → error = none)
      (hcode : ∀ e, error = some e → e.code ∈ Outcome.readingCodes) :
      (w.report (some head) body error).Sound p.retryPolicy.maxAttempts :=
    Outcome.sound_of_response hbody hcode (hcounts.begun (.inl (by simp [isWaiting, hphase])))
      hwithin (hcounts.final head reader hphase)
  cases h with
  | @stopped _ e hstopped _ =>
    rcases hstop e hstopped with hcode | hcode <;>
      exact Outcome.sound_of_error (by simp [hcode, Outcome.unansweredCodes]) hwithin
        (by simp [hcode])
  | @stoppedReading _ e _ _ hstopped hphase =>
    refine hanswered hphase (by simp) fun e' he => ?_
    obtain rfl := Option.some.inj he
    rcases hstop e hstopped with hcode | hcode <;> simp [hcode, Outcome.readingCodes]
  | unopened _ hphase _ _ =>
    -- An attempt is begun only when the policy allows one more.
    have hspare := hcounts.spare (by simp [pace, hphase])
    have hnext : w.attempts + 1 ≤ p.retryPolicy.maxAttempts := by omega
    exact Outcome.sound_of_error (by simp [Error.code, Outcome.unansweredCodes]) hnext
      (by simp [Error.code])
  | failed _ _ hlast =>
    exact Outcome.sound_of_error (by simp [transportError, Error.code, Outcome.unansweredCodes])
      hwithin fun _ => Nat.le_antisymm hwithin hlast
  | @unread _ fault _ _ _ hphase =>
    refine hanswered hphase (by simp) fun e he => ?_
    obtain rfl := Option.some.inj he
    cases fault <;> simp [bodyError, Error.code, Outcome.readingCodes]
  | read _ hphase => exact hanswered hphase (fun _ => rfl) (by simp)
  | aborted _ _ =>
    exact Outcome.sound_of_error (by simp [Error.code, Outcome.unansweredCodes]) (Nat.zero_le _)
      (by simp [Error.code])

end Worker

/-! ## §2 Bodies -/

namespace Engine

variable {client : Client} {now : Instant}

/-- Whether the body of a final response was read to its end for the target at a position of a
    batch: the end of the body reached the worker while it was reading, and nothing had woken it
    before, neither a cancellation nor the timer for the deadline. -/
def Drained (e : Engine) (events : List Event) (number position : Nat) (head : ResponseHead)
    (body : Bytes) : Prop :=
  ∃ before after b w, events = before ++ .signal number position .bodyEnd :: after ∧
    (e.run before).1.batches[number]? = some b ∧
    b.isAlarmed (e.run before).1.toClock (e.run before).1.tokens = false ∧
    b.workers[position]? = some w ∧ w.phase = .reading head ⟨body⟩

/-- A body that was read to its end was posted. -/
theorem Drained.posted {e : Engine} {events : List Event} {number position : Nat}
    {head : ResponseHead} {body : Bytes} (h : e.Drained events number position head body) :
    ∃ o ∈ ((e.run events).2.of number).postedAt position,
      o.response = some head ∧ o.body = body ∧ o.error = none := by
  obtain ⟨before, after, b, w, rfl, hb, hcalm, hw, hphase⟩ := h
  have hstop : b.stopFor (e.run before).1 w = none :=
    (Batch.stopFor_eq_none_iff (by simp [Worker.isWaiting, hphase])).mpr hcalm
  have heffects := (Batch.react_told (e.run before).1 number hw .bodyEnd).2
  have hstep : w.step b.plan none (e.run before).1.openings .bodyEnd = w.succeed head body := by
    unfold Worker.step
    rw [hphase]
  rw [hstop, hstep] at heffects
  refine ⟨w.report (some head) body none, ?_, rfl, rfl, rfl⟩
  rw [run_append, History.of_append, Doings.postedAt_append]
  refine List.mem_append_right _ ?_
  simp only [run, History.of_append, Doings.postedAt_append, (step_share hb _).2]
  refine List.mem_append_left _ (List.mem_filterMap.mpr ⟨.posted _ b.channel.posting, ?_, rfl⟩)
  rw [heffects]
  exact List.mem_append_right _ (List.mem_singleton.mpr rfl)

end Engine

/-- The parts of an outcome fit each other, and there is no error exactly when the body of the
    response was read to its end. -/
structure Outcome.WellFormed (bound : Nat) (drained : ResponseHead → Bytes → Prop) (o : Outcome) :
    Prop extends Outcome.Sound bound o where
  whole : o.error = none ↔ ∃ head body, o.response = some head ∧ drained head body
  /-- What was read is there. -/
  taken : ∀ head body, drained head body → o.response = some head ∧ o.body = body

/-! ## §3 Runs -/

namespace Engine

variable {client : Client} {now : Instant}

/-- No target posts twice. -/
theorem run_posted_once {events : List Event} {number i : Nat} {b : Batch} {w : Worker}
    (hb : ((start client now).run events).1.batches[number]? = some b)
    (hw : b.workers[i]? = some w) {o o' : Outcome}
    (ho : o ∈ (((start client now).run events).2.of number).postedAt i)
    (ho' : o' ∈ (((start client now).run events).2.of number).postedAt i) : o = o' := by
  have hle := (run_posts events hb hw).length_le
  match hposted : (((start client now).run events).2.of number).postedAt i, hle with
  | [], _ => simp [hposted] at ho
  | [only], _ =>
    rw [hposted] at ho ho'
    exact (List.mem_singleton.mp ho).trans (List.mem_singleton.mp ho').symm

/-- Every outcome that a run posts is sound, and without an error its response was read to the
    end. -/
theorem run_sound {events : List Event} {r : Record} (hr : r ∈ ((start client now).run events).2)
    {o : Outcome} {posting : Channel.Posting} (hposted : r.effect = .posted o posting) {b : Batch}
    (hb : ((start client now).run events).1.batches[r.batch]? = some b)
    (hbound : 0 < b.plan.retryPolicy.maxAttempts) {i : Nat} (hplace : r.position = some i) :
    o.Sound b.plan.retryPolicy.maxAttempts ∧
      (o.error = none → ∃ head body, o.response = some head ∧
        (start client now).Drained events r.batch i head body) := by
  obtain ⟨before, event, after, rfl, _, horigin⟩ := run_origin hr hposted
  cases horigin with
  | @refused _ op targets _ p error hop htargets _ _ hp hcopy ho =>
    obtain ⟨t, number, _, rfl⟩ := Operation.prepareAll_getElem? _ _ hp
    subst ho
    refine ⟨?_, by simp [Outcome.failed]⟩
    rcases Operation.prepare_code _ _ _ _ hcopy with hcode | hcode | hcode <;>
      exact Outcome.sound_of_error (by simp [hcode, Outcome.unansweredCodes]) (Nat.zero_le _)
        (by simp [hcode])
  | @ended first i' w s hfirst hplace' hw hending =>
    obtain rfl := Option.some.inj (hplace.symm.trans hplace')
    rw [run_plan hfirst hb] at hbound ⊢
    obtain ⟨hcounts, _⟩ := (run_reckoned before hfirst hw).going hending.isLive
    refine ⟨hending.sound hcounts hbound fun _ => stopFor_reason, fun hnone => ?_⟩
    cases hending with
    | @read head reader hstop hphase =>
      exact ⟨head, reader.taken, rfl, before, after, first, w, rfl, hfirst,
        (Batch.stopFor_eq_none_iff (by simp [Worker.isWaiting, hphase])).mp hstop, hw, hphase⟩
    | stopped _ _ | stoppedReading _ _ | unopened _ _ _ _ | failed _ _ _ | unread _ _
    | aborted _ _ => cases hnone

/-- **Every posted outcome is well formed**, in every run, whatever its transport and its callers do.
    There is no error exactly when there is a response whose body was read to its end, and only then
    there can be a body.  A response beside an error was cut off while it was read; without a
    response there is a reason.  The attempts are within the bound of the policy, and they reach it
    when the last response was unsuccessful or the transport failed.  The bound is one at least, as
    every way to set it makes it. -/
theorem run_wellFormed (client : Client) (now : Instant) (events : List Event) {r : Record}
    (hr : r ∈ ((start client now).run events).2) {o : Outcome} {posting : Channel.Posting}
    (hposted : r.effect = .posted o posting) {b : Batch}
    (hb : ((start client now).run events).1.batches[r.batch]? = some b)
    (hbound : 0 < b.plan.retryPolicy.maxAttempts) :
    ∃ i, r.position = some i ∧
      o.WellFormed b.plan.retryPolicy.maxAttempts
        ((start client now).Drained events r.batch i) := by
  obtain ⟨b', i, w, hb', hplace, hw, hmine⟩ := run_posted hr hposted
  obtain rfl := Option.some.inj (hb'.symm.trans hb)
  obtain ⟨hsound, hread⟩ := run_sound hr hposted hb hbound hplace
  -- What was read to its end was posted, and this is the only post of the target.
  have hdrained {head : ResponseHead} {body : Bytes}
      (h : (start client now).Drained events r.batch i head body) :
      o.response = some head ∧ o.body = body ∧ o.error = none := by
    obtain ⟨o', ho', hthere⟩ := h.posted
    rwa [run_posted_once hb hw hmine ho']
  refine ⟨i, hplace, hsound, ⟨hread, ?_⟩, fun head body h => ?_⟩
  · rintro ⟨head, body, _, h⟩
    exact (hdrained h).2.2
  · exact ⟨(hdrained h).1, (hdrained h).2.1⟩

/-- The body of the first target is read to its end, and that of the second one breaks off. -/
def readingEvents : List Event :=
  [.dispatch (.new .get "x") [⟨0, "http://a"⟩, ⟨1, "http://b"⟩], .signal 0 0 .turn,
    .signal 0 1 .turn, .signal 0 0 .turn, .signal 0 1 .turn,
    .signal 0 0 (.answer (.response ⟨Status.ok, .http11, Header.Map.empty⟩)),
    .signal 0 1 (.answer (.response ⟨Status.ok, .http11, Header.Map.empty⟩)),
    .signal 0 0 (.frame (.data [104, 105])), .signal 0 1 (.frame (.data [104])),
    .signal 0 0 .bodyEnd, .signal 0 1 (.frame (.failure "reset"))]

/-- Both outcomes of `readingEvents` are well formed: the one with its body, and the one with an
    error beside its response. -/
theorem run_wellFormed_reading :
    ∃ b, (plain.run readingEvents).1.batches[0]? = some b ∧
      0 < b.plan.retryPolicy.maxAttempts ∧
      (∃ r ∈ (plain.run readingEvents).2, ∃ o posting, r.effect = .posted o posting ∧
        o.body = [104, 105] ∧ ∃ i, r.position = some i ∧
          o.WellFormed b.plan.retryPolicy.maxAttempts (plain.Drained readingEvents 0 i)) ∧
      ∃ r ∈ (plain.run readingEvents).2, ∃ o posting, r.effect = .posted o posting ∧
        o.response.isSome = true ∧ o.error = some (.readBody "reset") ∧ ∃ i, r.position = some i ∧
          o.WellFormed b.plan.retryPolicy.maxAttempts (plain.Drained readingEvents 0 i) := by
  have hthere : ((plain.run readingEvents).1.batches[0]?.any fun b =>
      decide (0 < b.plan.retryPolicy.maxAttempts)) = true := by decide +kernel
  obtain ⟨b, hb, hbound⟩ := (Option.any_eq_true _ _).mp hthere
  have hbound := of_decide_eq_true hbound
  have hwhole : ((plain.run readingEvents).2.any fun r => r.effect.posted?.any fun o =>
      r.batch == 0 && o.body == [104, 105]) = true := by decide +kernel
  have hcut : ((plain.run readingEvents).2.any fun r => r.effect.posted?.any fun o =>
      r.batch == 0 && (o.response.isSome && o.error == some (.readBody "reset"))) = true := by
    decide +kernel
  obtain ⟨r, hr, o, posting, hposted, hcheck⟩ := History.exists_post hwhole
  obtain ⟨r', hr', o', posting', hposted', hcheck'⟩ := History.exists_post hcut
  simp only [Bool.and_eq_true, beq_iff_eq] at hcheck hcheck'
  have hwell {r : Record} {o : Outcome} {posting : Channel.Posting}
      (hr : r ∈ (plain.run readingEvents).2) (hposted : r.effect = .posted o posting)
      (hnumber : r.batch = 0) : ∃ i, r.position = some i ∧
        o.WellFormed b.plan.retryPolicy.maxAttempts (plain.Drained readingEvents 0 i) := by
    rw [← hnumber] at hb ⊢
    unfold plain at hr hb ⊢
    exact run_wellFormed _ _ readingEvents hr hposted hb hbound
  exact ⟨b, hb, hbound, ⟨r, hr, o, posting, hposted, hcheck.2, hwell hr hposted hcheck.1⟩, r', hr',
    o', posting', hposted', hcheck'.2.1, hcheck'.2.2, hwell hr' hposted' hcheck'.1⟩

end Engine

end Replicast
