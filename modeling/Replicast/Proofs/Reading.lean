import Replicast.Proofs.Reading.Course
import Replicast.Proofs.RetryLoop
import Replicast.Proofs.Worker.Ending
/-!
# Reading the body of a response

A worker with a final response reads its body along the one course that the limit and the frames lay
down.  Its outcome has the head of the response and what came of the body.

## Overview

* `Worker.drained` is the outcome by what came of the body.
* `Worker.Reads` is the invariant of a worker that reads, and `Worker.Reads.transition` its step.
* `Engine.framesRead` are the frames that a worker has looked at.
* `Engine.bodies_drain` is the result.
-/

namespace Replicast

open Replicast.Frame (Fit payload)

/-- The frame that a signal brings. -/
def Signal.frame? : Signal → Option Frame
  | .frame f => some f
  | _ => none

/-- The signals that bring a whole body. -/
def bodySignals (frames : List Frame) : List Signal := frames.map .frame ++ [.bodyEnd]

theorem filterMap_frame? (frames : List Frame) :
    (frames.map Signal.frame).filterMap Signal.frame? = frames := by
  simp [List.filterMap_map, Function.comp_def, Signal.frame?]

theorem filterMap_bodySignals (frames : List Frame) :
    (bodySignals frames).filterMap Signal.frame? = frames := by
  rw [bodySignals, List.filterMap_append, filterMap_frame?]
  exact List.append_nil frames

/-- The end of a body comes behind all its frames. -/
theorem eq_of_bodySignals_prefix {xs ys : List Frame} (h : bodySignals xs <+: bodySignals ys) :
    xs = ys := by
  rcases List.prefix_concat_iff.mp h with heq | hbefore
  · have hframes := congrArg (List.filterMap Signal.frame?) heq
    rwa [filterMap_bodySignals, ← bodySignals, filterMap_bodySignals] at hframes
  · have hend := hbefore.subset (List.mem_append_right _ (List.mem_singleton_self Signal.bodyEnd))
    simp at hend

/-! ## §1 Workers -/

namespace Worker

variable {p : Plan} {openings : Nat} {first w : Worker} {head : ResponseHead} {s : Signal}
  {m : Move} {heard : List Signal} {posted : List Outcome} {frames read : List Frame}
  {result : Except BodyFault Bytes}

/-- The outcome of a worker that reads a body, by what came of it. -/
def drained (w : Worker) (p : Plan) (head : ResponseHead) : Except BodyFault Bytes → Outcome
  | .ok body => w.report (some head) body none
  | .error fault => w.report (some head) [] (some (w.bodyError p fault))

/-- How far a worker has come that was about to read a body at first, by the signals that it has
    heard since, with what it has posted. -/
inductive Reads (p : Plan) (first : Worker) (head : ResponseHead) (w : Worker) :
    List Signal → List Outcome → Prop where
  | reading {read : List Frame} {reader : BoundedReader} :
      w = { first with phase := .reading head reader } →
      read.foldlM (BoundedReader.step p.maxResponseBodyBytes) BoundedReader.start = .ok reader →
      Reads p first head w (read.map .frame) []
  /-- The last frame was one too many, or it failed. -/
  | stopped {read : List Frame} {fault : BodyFault} :
      w.isLive = false → BoundedReader.Course p.maxResponseBodyBytes read read (.error fault) →
      Reads p first head w (read.map .frame) [first.drained p head (.error fault)]
  | whole {read : List Frame} :
      w.isLive = false → Fit p.maxResponseBodyBytes read →
      Reads p first head w (bodySignals read) [first.drained p head (.ok (payload read))]

/-- **A worker that reads goes on reading, or ends with what came of the body**, at each signal that
    it waits for and that is no panic. -/
theorem Reads.transition (h : Reads p first head w heard posted)
    (hmove : Transition p none openings w s m) (hawaits : w.awaits s = true) (hs : s ≠ .panic) :
    Reads p first head m.worker (heard ++ [s]) (posted ++ m.outcome.toList) := by
  cases h with
  | stopped hended _ | whole hended _ =>
    -- A worker that has ended waits for nothing.
    rw [isLive_of_awaits hawaits] at hended
    cases hended
  | @reading read reader hw hread =>
    subst hw
    cases hmove with
    | stay hdeaf =>
      rw [hawaits] at hdeaf
      cases hdeaf
    | stop hstop _ | stopReading hstop _ => cases hstop
    | enter hp | attempt _ hp | receive _ _ hp | resume _ hp => cases hp
    | panic _ _ => exact absurd rfl hs
    | frame f _ hp =>
      cases hp
      have hheard : read.map Signal.frame ++ [.frame f] = (read ++ [f]).map .frame := by simp
      rw [hheard, readFrame]
      cases hstep : reader.step p.maxResponseBodyBytes f with
      | ok next =>
        refine .reading rfl ?_
        rw [BoundedReader.foldlM_concat, hread]
        exact hstep
      | error fault => exact .stopped rfl (BoundedReader.course_of_stop rfl hread hstep)
    | bodyEnd _ hp =>
      cases hp
      obtain ⟨hfit, htaken⟩ := BoundedReader.foldlM_eq_ok.mp hread
      have hwhole : Reads p first head
          (({ first with phase := .reading head reader } : Worker).succeed head reader.taken).worker
          (bodySignals read) [first.drained p head (.ok (payload read))] := .whole rfl hfit
      rw [← htaken] at hwhole
      exact hwhole

/-- A live worker that reads waits for every signal of a body. -/
theorem Reads.awaits (h : Reads p first head w heard posted) (hlive : w.isLive = true)
    (hs : s ∈ bodySignals frames) : w.awaits s = true := by
  cases h with
  | stopped hended _ | whole hended _ =>
    rw [hlive] at hended
    cases hended
  | reading hw _ =>
    subst hw
    rcases List.mem_append.mp hs with hframe | hend
    · obtain ⟨f, -, rfl⟩ := List.mem_map.mp hframe
      rfl
    · rw [List.mem_singleton.mp hend]
      rfl

/-- A worker that has heard the end of a body has ended. -/
theorem Reads.ended (h : Reads p first head w (bodySignals frames) posted) : w.isLive = false := by
  generalize hheard : bodySignals frames = heard at h
  cases h with
  | stopped hended _ | whole hended _ => exact hended
  | @reading read reader _ _ =>
    have hend : Signal.bodyEnd ∈ read.map Signal.frame := by simp [← hheard, bodySignals]
    simp at hend

/-- What was heard of a body decides the frames that were looked at, and once the worker has ended
    also what it has posted. -/
theorem Reads.course (h : Reads p first head w heard posted)
    (hheard : heard <+: bodySignals frames)
    (hcourse : BoundedReader.Course p.maxResponseBodyBytes frames read result) :
    heard.filterMap Signal.frame? <+: read ∧ (w.isLive = true → posted = []) ∧
      (w.isLive = false →
        heard.filterMap Signal.frame? = read ∧ posted = [first.drained p head result]) := by
  have hframes := hheard.filterMap Signal.frame?
  rw [filterMap_bodySignals] at hframes
  cases h with
  | reading hw hread =>
    rw [filterMap_frame?] at hframes ⊢
    obtain ⟨hfit, _⟩ := BoundedReader.foldlM_eq_ok.mp hread
    refine ⟨hcourse.prefix_read hframes hfit.dropLast, fun _ => rfl, fun hended => ?_⟩
    simp [hw, isLive] at hended
  | stopped hended hstopped =>
    rw [filterMap_frame?] at hframes ⊢
    -- What is left of the body makes no difference any more.
    obtain ⟨rest, rfl⟩ := hframes
    obtain ⟨rfl, rfl⟩ := hcourse.unique (hstopped.more rest)
    exact ⟨List.prefix_refl _, fun hlive => by simp [hended] at hlive, fun _ => ⟨rfl, rfl⟩⟩
  | whole hended hfit =>
    obtain rfl := eq_of_bodySignals_prefix hheard
    obtain ⟨rfl, rfl⟩ := hcourse.unique (.whole hfit)
    rw [filterMap_bodySignals]
    exact ⟨List.prefix_refl _, fun hlive => by simp [hended] at hlive, fun _ => ⟨rfl, rfl⟩⟩

end Worker

/-! ## §2 Runs -/

namespace Engine

variable {e : Engine} {number position : Nat} {b : Batch} {first : Worker} {head : ResponseHead}

/-- The frames of a run that reach the worker at a position while it reads. -/
def framesRead (e : Engine) (number position : Nat) (events : List Event) : List Frame :=
  (e.heard number position events).filterMap Signal.frame?

/-- A worker that is about to read a body reads it as long as its batch is not interrupted. -/
theorem run_reads (hb : e.batches[number]? = some b) (hw : b.workers[position]? = some first)
    (hphase : first.phase = .reading head BoundedReader.start) (events : List Event)
    (hcalm : e.Calm events number position) (hpanic : .panic ∉ e.heard number position events) :
    ∃ after w, (e.run events).1.batches[number]? = some after ∧
      after.workers[position]? = some w ∧ after.plan = b.plan ∧
      Worker.Reads b.plan first head w (e.heard number position events)
        (((e.run events).2.of number).postedAt position) := by
  induction events using List.reverseRecOn with
  | nil =>
    have hnothing : ([] : List Frame).foldlM (BoundedReader.step b.plan.maxResponseBodyBytes)
        BoundedReader.start = .ok BoundedReader.start := rfl
    refine ⟨b, first, hb, hw, rfl, .reading ?_ hnothing⟩
    rw [← hphase]
  | append_singleton events event ih =>
    rw [heard_concat] at hpanic ⊢
    obtain ⟨before, w, hbefore, hworker, hplan, hreads⟩ :=
      ih hcalm.left fun hmem => hpanic (List.mem_append_left _ hmem)
    obtain ⟨hthere, hdoings⟩ := step_share hbefore event
    have hkept := (before.react_move (e.run events).1 number event).persists.plan.trans hplan
    rw [run_concat, History.of_append, hdoings, Doings.postedAt_append]
    by_cases htold : ∃ s, event = .signal number position s
    · obtain ⟨s, rfl⟩ := htold
      obtain ⟨hmoved, heffects⟩ := Batch.react_told (e.run events).1 number hworker s
      refine ⟨_, _, hthere, hmoved, hkept, ?_⟩
      rw [heardAt_signal hbefore hworker] at hpanic ⊢
      have hmove := Worker.step_transition before.plan (before.stopFor (e.run events).1 w)
        (e.run events).1.openings w s
      rw [Doings.postedAt, Doings.postedAt, heffects, hmove.lawful.posted]
      rw [Doings.postedAt] at hreads
      -- While the worker is live nothing stops it.
      have hquiet (hlive : w.isLive = true) : before.stopFor (e.run events).1 w = none :=
        Batch.stopFor_eq_none
          (hcalm events before w (List.prefix_append _ _) hbefore hworker hlive) w
      cases hawaits : w.awaits s with
      | true =>
        rw [hawaits] at hpanic
        rw [hquiet (Worker.isLive_of_awaits hawaits)] at hmove ⊢
        rw [hplan] at hmove ⊢
        refine hreads.transition hmove hawaits fun hs => hpanic ?_
        simp [hs]
      | false =>
        have hstay : w.step before.plan (before.stopFor (e.run events).1 w)
            (e.run events).1.openings s = w.stay :=
          Worker.step_of_unheard hawaits hquiet
        rw [hstay]
        simpa [Worker.stay] using hreads
    · have hother : ∀ s, event ≠ .signal number position s := fun s hs => htold ⟨s, hs⟩
      obtain ⟨hsame, hnothing⟩ := Batch.react_untold (b := before) (e.run events).1 number position
        hother
      refine ⟨_, w, hthere, hsame.trans hworker, hkept, ?_⟩
      rw [heardAt_other hother, List.append_nil]
      simpa [Doings.postedAt, hnothing] using hreads

/-- A body can be delivered, signal by signal, to a worker that is about to read it: the batch stays
    calm, and the worker hears everything until it has ended. -/
theorem deliver (hb : e.batches[number]? = some b) (hw : b.workers[position]? = some first)
    (hphase : first.phase = .reading head BoundedReader.start)
    (hquiet : b.isInterrupted e.now e.tokens = false) {frames : List Frame} {sent : List Signal}
    (hsent : sent <+: bodySignals frames) :
    let events := sent.map (.signal number position)
    e.Calm events number position ∧
      e.heard number position events <+: bodySignals frames ∧
      ∃ after w, (e.run events).1.batches[number]? = some after ∧
        after.workers[position]? = some w ∧
        (w.isLive = true → e.heard number position events = sent) := by
  intro events
  induction sent using List.reverseRecOn with
  | nil =>
    refine ⟨?_, List.nil_prefix, b, first, hb, hw, fun _ => rfl⟩
    intro before b' w' hprefix hb' _ _
    obtain rfl := List.prefix_nil.mp hprefix
    obtain rfl := Option.some.inj (hb.symm.trans hb')
    exact hquiet
  | append_singleton sent s ih =>
    obtain ⟨hcalm, hheard, before, w, hbefore, hworker, hall⟩ :=
      ih ((List.prefix_append sent [s]).trans hsent)
    have hevents : events = sent.map (.signal number position) ++ [.signal number position s] := by
      simp [events]
    obtain ⟨hthere, _⟩ := step_share hbefore (.signal number position s)
    obtain ⟨hmoved, _⟩ :=
      Batch.react_told (e.run (sent.map (.signal number position))).1 number hworker s
    rw [hevents, heard_concat, heardAt_signal hbefore hworker, run_concat]
    cases hlive : w.isLive with
    | true =>
      -- A live worker is still reading, and hears every signal of a body.
      have hpanic : .panic ∉ e.heard number position (sent.map (.signal number position)) := by
        intro hmem
        have hbody := hheard.subset hmem
        simp [bodySignals] at hbody
      obtain ⟨after, w', hafter, hworker', _, hreads⟩ :=
        run_reads hb hw hphase _ hcalm hpanic
      obtain rfl := Option.some.inj (hbefore.symm.trans hafter)
      obtain rfl := Option.some.inj (hworker.symm.trans hworker')
      have hmem : s ∈ bodySignals frames := hsent.subset (by simp)
      have hawaits : w.awaits s = true := hreads.awaits hlive hmem
      rw [hawaits, if_pos rfl, hall hlive]
      exact ⟨hcalm.signal hbefore hworker hlive s, hsent, _, _, hthere, hmoved, fun _ => rfl⟩
    | false =>
      -- An ended worker stays as it is and hears nothing.
      have hdeaf : w.awaits s = false := by
        cases hawaits : w.awaits s with
        | false => rfl
        | true => simp [Worker.isLive_of_awaits hawaits] at hlive
      rw [Worker.step_of_ended hlive] at hmoved
      rw [hdeaf, if_neg Bool.false_ne_true, List.append_nil]
      refine ⟨?_, hheard, _, _, hthere, hmoved, fun hagain => ?_⟩
      · intro earlier b' w' hprefix hb' hw' hlive'
        rcases List.prefix_concat_iff.mp hprefix with rfl | hearlier
        · rw [run_concat, step] at hb'
          rw [step] at hthere
          obtain rfl := Option.some.inj (hthere.symm.trans hb')
          obtain rfl := Option.some.inj (hmoved.symm.trans hw')
          simp [Worker.stay, hlive] at hlive'
        · exact hcalm earlier b' w' hearlier hb' hw' hlive'
      · simp [Worker.stay, hlive] at hagain

/-- **The reading of a body is exact.**  Take any frames and any limit.  There is one course: the
    data of a frame exceed the limit before any frame has failed, or a frame fails before that, or
    neither happens; what comes of the body is the total so far, which is greater than the limit, or
    the failure, or all data in order, which are within the limit.  A count in a machine word comes
    to the same as long as memory can hold the data, and neither trailers nor the cuts between
    frames make a difference.

    Take further any worker that is about to read such a body under that limit, in any state of a
    client, and any events in which its batch is not interrupted and it hears nothing but that body.
    It looks at no frame behind the course, and posts nothing while it is live.  When it has ended,
    it has looked at all frames of the course and has posted one outcome, which has the head of the
    response, and the body or, when there is none, no bytes and the error.  And a body that is
    delivered whole brings it there. -/
theorem bodies_drain (limit : Nat) (frames : List Frame) :
    ∃ read result,
      BoundedReader.Course limit frames read result ∧
      (∀ read' result', BoundedReader.Course limit frames read' result' →
        read' = read ∧ result' = result) ∧
      BoundedReader.readAll limit frames = result ∧
      (∀ actual, result = .error (.tooLarge actual) → limit < actual) ∧
      (∀ body, result = .ok body → body = payload frames ∧ body.length ≤ limit) ∧
      (BoundedReader.Addressable limit frames →
        BoundedReader.countAll limit frames = result) ∧
      BoundedReader.readAll limit (frames.filter (· != .trailers)) = result ∧
      (∀ body others, result = .ok body → payload others = payload frames →
        (∀ f ∈ others, f.isFailure = false) → BoundedReader.readAll limit others = .ok body) ∧
      ∀ {e : Engine} {number position : Nat} {b : Batch} {first : Worker} {head : ResponseHead},
        e.batches[number]? = some b → b.plan.maxResponseBodyBytes = limit →
        b.workers[position]? = some first → first.phase = .reading head BoundedReader.start →
        let outcome := first.drained b.plan head result
        (∀ events, e.Calm events number position →
          e.heard number position events <+: bodySignals frames →
          ∃ after w, (e.run events).1.batches[number]? = some after ∧
            after.workers[position]? = some w ∧
            e.framesRead number position events <+: read ∧
            (w.isLive = true → ((e.run events).2.of number).postedAt position = []) ∧
            (w.isLive = false → e.framesRead number position events = read ∧
              ((e.run events).2.of number).postedAt position = [outcome])) ∧
        (b.isInterrupted e.now e.tokens = false →
          let events := (bodySignals frames).map (.signal number position)
          e.framesRead number position events = read ∧
            ((e.run events).2.of number).postedAt position = [outcome]) := by
  obtain ⟨read, result, hcourse⟩ := BoundedReader.exists_course limit frames
  refine ⟨read, result, hcourse, fun _ _ h => h.unique hcourse, hcourse.readAll, ?_, ?_, ?_, ?_, ?_,
    ?_⟩
  · rintro actual rfl
    cases hcourse with
    | exceeded _ _ hexceeds => exact hexceeds
  · rintro body rfl
    cases hcourse with
    | whole hfit => exact ⟨rfl, hfit.within⟩
  · exact fun hmemory => (BoundedReader.countAll_eq hmemory).trans hcourse.readAll
  · exact (BoundedReader.readAll_without_trailers limit frames).trans hcourse.readAll
  · rintro body others rfl hpayload hintact
    exact BoundedReader.readAll_of_payload hcourse.readAll hpayload hintact
  · intro e number position b first head hb hlimit hw hphase outcome
    subst hlimit
    have hreads {events : List Event} (hcalm : e.Calm events number position)
        (hheard : e.heard number position events <+: bodySignals frames) :=
      run_reads hb hw hphase events hcalm fun hmem => by
        simpa [bodySignals] using hheard.subset hmem
    refine ⟨fun events hcalm hheard => ?_, fun hquiet => ?_⟩
    · obtain ⟨after, w, hafter, hworker, _, hfollows⟩ := hreads hcalm hheard
      exact ⟨after, w, hafter, hworker, hfollows.course hheard hcourse⟩
    · obtain ⟨hcalm, hheard, after, w, hafter, hworker, hall⟩ :=
        deliver hb hw hphase hquiet (List.prefix_refl (bodySignals frames))
      obtain ⟨after', w', hafter', hworker', _, hfollows⟩ := hreads hcalm hheard
      obtain rfl := Option.some.inj (hafter.symm.trans hafter')
      obtain rfl := Option.some.inj (hworker.symm.trans hworker')
      have hended : w.isLive = false := by
        by_contra hlive
        rw [hall (by simpa using hlive)] at hfollows
        exact hlive hfollows.ended
      exact (hfollows.course hheard hcourse).2.2 hended

/-- A body in four frames, of which the third exceeds a limit of two bytes. -/
def overlong : List Frame := [.data [1, 2], .trailers, .data [3], .data [9]]

/-- A client that takes two bytes at most, about to read the body of a response. -/
def strict : Engine :=
  ((start (ClientBuilder.ofConfig { Config.standard with maxResponseBodyBytes := 2 }).build ⟨0⟩).run
    (.dispatch (.new .get "x") [⟨0, "http://a"⟩] ::
      ([.turn, .turn, .answer (.response ⟨Status.ok, .http11, Header.Map.empty⟩)] :
        List Signal).map (.signal 0 0))).1

/-- Of `overlong` the client looks at three frames, and the outcome has the head of the response and
    the total that was too large. -/
theorem bodies_drain_overlong :
    ∃ b w, strict.batches[0]? = some b ∧ b.workers[0]? = some w ∧
      strict.framesRead 0 0 ((bodySignals overlong).map (.signal 0 0)) =
        [.data [1, 2], .trailers, .data [3]] ∧
      ((strict.run ((bodySignals overlong).map (.signal 0 0))).2.of 0).postedAt 0 =
        [w.report (some ⟨Status.ok, .http11, Header.Map.empty⟩) []
          (some (.responseBodyTooLarge 2 3 w.request.method w.request.redactedUri))] := by
  have hfacts : strict.batches[0]?.any (fun b =>
      b.plan.maxResponseBodyBytes == 2 && !b.isInterrupted strict.now strict.tokens &&
      b.workers[0]?.any fun w => w.phase ==
        .reading ⟨Status.ok, .http11, Header.Map.empty⟩ BoundedReader.start) = true := by
    decide +kernel
  obtain ⟨b, hb, hfacts⟩ := (Option.any_eq_true _ _).mp hfacts
  simp only [Bool.and_eq_true, beq_iff_eq, Bool.not_eq_true'] at hfacts
  obtain ⟨⟨hlimit, hquiet⟩, hworker⟩ := hfacts
  obtain ⟨w, hw, hphase⟩ := (Option.any_eq_true _ _).mp hworker
  rw [beq_iff_eq] at hphase
  obtain ⟨read, result, _, hunique, _, _, _, _, _, _, hruns⟩ := bodies_drain 2 overlong
  have hfit : Fit 2 [.data [1, 2], .trailers] := ⟨by decide, by decide⟩
  obtain ⟨rfl, rfl⟩ := hunique _ _ (.exceeded rfl hfit (by decide))
  obtain ⟨_, hdelivered⟩ := hruns hb hlimit hw hphase
  obtain ⟨hread, hposted⟩ := hdelivered hquiet
  refine ⟨b, w, hb, hw, hread, ?_⟩
  rw [hposted, ← hlimit]
  rfl

end Engine

end Replicast
