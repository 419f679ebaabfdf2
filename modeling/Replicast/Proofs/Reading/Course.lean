import Mathlib.Data.List.Induction
import Mathlib.Data.List.Infix
import Replicast.Proofs.Worker.Retry
/-!
# The ways to read a body

A body is read frame by frame until its data exceed the limit, or a frame fails, or none is left.
Whichever comes first decides what becomes of the body, and nothing behind it is looked at.

## Overview

* `Frame.payload` is the data of some frames, and `Frame.Fit` says that they neither fail nor exceed
  a limit.
* `BoundedReader.Course` lists the ways in which a body can be read, each with the frames that are
  looked at and what comes of them.  `BoundedReader.Course.readAll` says that the reader goes them.
* `BoundedReader.readAll_of_payload` and `BoundedReader.readAll_without_trailers` say what makes no
  difference.
* `BoundedReader.countAll` reads with a count of bytes that sticks at the largest machine word.
-/

namespace Replicast

/-! ## §1 Frames -/

namespace Frame

/-- The data of a frame. -/
def bytes : Frame → Bytes
  | data bytes => bytes
  | trailers | failure _ => []

/-- Whether a frame is a read failure. -/
def isFailure : Frame → Bool
  | failure _ => true
  | data _ | trailers => false

/-- The data of some frames, one after the other. -/
def payload (frames : List Frame) : Bytes := frames.flatMap bytes

@[simp] theorem payload_nil : payload [] = [] := rfl

@[simp] theorem payload_append (xs ys : List Frame) :
    payload (xs ++ ys) = payload xs ++ payload ys :=
  List.flatMap_append

@[simp] theorem payload_singleton (f : Frame) : payload [f] = f.bytes := by simp [payload]

/-- No frame fails, and the data stay within a limit.  The running total only grows, so that its
    last value speaks for all of them. -/
structure Fit (limit : Nat) (frames : List Frame) : Prop where
  intact : ∀ f ∈ frames, f.isFailure = false
  within : (payload frames).length ≤ limit

variable {limit : Nat} {xs ys : List Frame} {f : Frame}

theorem fit_nil : Fit limit [] := ⟨by simp, Nat.zero_le limit⟩

/-- Whatever comes before frames that fit has fitted too. -/
theorem Fit.left (h : Fit limit (xs ++ ys)) : Fit limit xs := by
  refine ⟨fun f hf => h.intact f (List.mem_append_left ys hf), ?_⟩
  have hwithin := h.within
  rw [payload_append, List.length_append] at hwithin
  omega

theorem Fit.dropLast (h : Fit limit xs) : Fit limit xs.dropLast := by
  obtain ⟨rest, hrest⟩ := List.dropLast_prefix xs
  exact (hrest ▸ h).left

end Frame

/-! ## §2 The ways to read a body -/

namespace BoundedReader

open Replicast.Frame

variable {limit : Nat} {frames before rest read : List Frame} {f : Frame} {reader : BoundedReader}
  {fault : BodyFault} {result : Except BodyFault Bytes}

/-- What a frame does to a reader that has taken some data. -/
inductive Step (limit : Nat) (reader : BoundedReader) :
    Frame → Except BodyFault BoundedReader → Prop where
  | fits {f : Frame} :
      f.isFailure = false → reader.taken.length + f.bytes.length ≤ limit →
      Step limit reader f (.ok ⟨reader.taken ++ f.bytes⟩)
  | exceeds {bytes : Bytes} :
      limit < reader.taken.length + bytes.length →
      Step limit reader (.data bytes) (.error (.tooLarge (reader.taken.length + bytes.length)))
  | breaks {cause : String} : Step limit reader (.failure cause) (.error (.broken cause))

theorem step_step (hwithin : reader.taken.length ≤ limit) (f : Frame) :
    Step limit reader f (reader.step limit f) := by
  cases f with
  | data bytes =>
    by_cases hexceeds : limit < reader.taken.length + bytes.length
    · simpa [step, hexceeds] using Step.exceeds hexceeds
    · have h : Step limit reader (.data bytes) _ := .fits rfl (Nat.le_of_not_lt hexceeds)
      simpa [step, hexceeds, Frame.bytes] using h
  | trailers =>
    have h : Step limit reader .trailers _ := .fits rfl (by simpa [Frame.bytes] using hwithin)
    simpa [step, Frame.bytes] using h
  | failure cause => exact .breaks

theorem foldlM_concat (limit : Nat) (frames : List Frame) (f : Frame) (reader : BoundedReader) :
    (frames ++ [f]).foldlM (step limit) reader =
      (frames.foldlM (step limit) reader).bind (·.step limit f) := by
  rw [List.foldlM_append]
  cases hread : frames.foldlM (step limit) reader with
  | error fault => rfl
  | ok next =>
    simp only [bind, Except.bind, List.foldlM_cons, List.foldlM_nil]
    cases next.step limit f <;> rfl

/-- **A reader goes through all frames exactly when they fit**, and has taken their data then. -/
theorem foldlM_eq_ok :
    frames.foldlM (step limit) start = .ok reader ↔
      Fit limit frames ∧ reader.taken = payload frames := by
  induction frames using List.reverseRecOn generalizing reader with
  | nil =>
    constructor
    · rintro ⟨⟩
      exact ⟨fit_nil, rfl⟩
    · rintro ⟨-, htaken⟩
      cases reader
      simp_all [start, pure, Except.pure]
  | append_singleton frames f ih =>
    rw [foldlM_concat]
    constructor
    · intro hread
      cases hbefore : frames.foldlM (step limit) start with
      | error fault => simp [hbefore, Except.bind] at hread
      | ok next =>
        obtain ⟨hfit, htaken⟩ := ih.mp hbefore
        have hstep : Step limit next f _ := step_step (htaken ▸ hfit.within) f
        simp only [hbefore, Except.bind] at hread
        rw [hread] at hstep
        cases hstep with
        | fits hintact hle =>
          refine ⟨⟨?_, by simpa [htaken] using hle⟩, by simp [htaken]⟩
          intro g hg
          rcases List.mem_append.mp hg with hg | hg
          · exact hfit.intact g hg
          · exact List.mem_singleton.mp hg ▸ hintact
    · rintro ⟨hfit, htaken⟩
      have hbefore : frames.foldlM (step limit) start = .ok ⟨payload frames⟩ :=
        ih.mpr ⟨hfit.left, rfl⟩
      have hstep : Step limit ⟨payload frames⟩ f (step limit ⟨payload frames⟩ f) :=
        step_step hfit.left.within f
      simp only [hbefore, Except.bind]
      generalize step limit ⟨payload frames⟩ f = next at hstep ⊢
      -- Neither fault can come, since the frames fit together.
      cases hstep with
      | fits _ _ =>
        cases reader
        simp_all
      | exceeds hexceeds =>
        have hwithin := hfit.within
        simp [Frame.bytes] at hwithin
        simp at hexceeds
        omega
      | @breaks cause =>
        have hintact := hfit.intact (.failure cause) (by simp)
        cases hintact

/-- How the reading of a body goes: the frames that are looked at, and what comes of it. -/
inductive Course (limit : Nat) (frames : List Frame) :
    List Frame → Except BodyFault Bytes → Prop where
  /-- The data of one more frame exceed the limit, before any frame has failed. -/
  | exceeded {before rest : List Frame} {bytes : Bytes} :
      frames = before ++ .data bytes :: rest → Fit limit before →
      limit < (payload before).length + bytes.length →
      Course limit frames (before ++ [.data bytes])
        (.error (.tooLarge ((payload before).length + bytes.length)))
  /-- A frame fails, before the limit is exceeded. -/
  | broken {before rest : List Frame} {cause : String} :
      frames = before ++ .failure cause :: rest → Fit limit before →
      Course limit frames (before ++ [.failure cause]) (.error (.broken cause))
  /-- Neither happens. -/
  | whole : Fit limit frames → Course limit frames frames (.ok (payload frames))

/-- The first frame at which a reader stops decides the course. -/
theorem course_of_stop (hframes : frames = before ++ f :: rest)
    (hbefore : before.foldlM (step limit) start = .ok reader)
    (hstop : reader.step limit f = .error fault) :
    Course limit frames (before ++ [f]) (.error fault) := by
  obtain ⟨hfit, htaken⟩ := foldlM_eq_ok.mp hbefore
  have hstep : Step limit reader f _ := step_step (htaken ▸ hfit.within) f
  rw [hstop] at hstep
  cases hstep with
  | exceeds hexceeds =>
    rw [htaken] at hexceeds ⊢
    exact .exceeded hframes hfit hexceeds
  | breaks => exact .broken hframes hfit

/-- A body that was given up stays so, whatever else comes. -/
theorem Course.more (h : Course limit frames read (.error fault)) (rest : List Frame) :
    Course limit (frames ++ rest) read (.error fault) := by
  cases h with
  | @exceeded before last bytes hframes hfit hexceeds =>
    have hmore : frames ++ rest = before ++ .data bytes :: (last ++ rest) := by simp [hframes]
    exact .exceeded hmore hfit hexceeds
  | @broken before last cause hframes hfit =>
    have hmore : frames ++ rest = before ++ .failure cause :: (last ++ rest) := by simp [hframes]
    exact .broken hmore hfit

/-- A body is read in one of the three ways. -/
theorem exists_course (limit : Nat) (frames : List Frame) :
    ∃ read result, Course limit frames read result := by
  induction frames using List.reverseRecOn with
  | nil => exact ⟨[], _, .whole fit_nil⟩
  | append_singleton frames f ih =>
    obtain ⟨read, result, hcourse⟩ := ih
    cases result with
    | error fault => exact ⟨read, _, hcourse.more [f]⟩
    | ok body =>
      have hfit : Fit limit frames := by
        cases hcourse with
        | whole hfit => exact hfit
      have hbefore : frames.foldlM (step limit) start = .ok ⟨payload frames⟩ :=
        foldlM_eq_ok.mpr ⟨hfit, rfl⟩
      cases hstep : step limit ⟨payload frames⟩ f with
      | error fault => exact ⟨_, _, course_of_stop rfl hbefore hstep⟩
      | ok next =>
        have hall : (frames ++ [f]).foldlM (step limit) start = .ok next := by
          rw [foldlM_concat, hbefore]
          exact hstep
        exact ⟨_, _, .whole (foldlM_eq_ok.mp hall).1⟩

/-- **What comes of a body is what its course says.** -/
theorem Course.readAll (h : Course limit frames read result) :
    BoundedReader.readAll limit frames = result := by
  have hbefore {before : List Frame} (hfit : Fit limit before) :
      before.foldlM (step limit) start = .ok ⟨payload before⟩ := foldlM_eq_ok.mpr ⟨hfit, rfl⟩
  cases h with
  | exceeded hframes hfit hexceeds =>
    subst hframes
    exact readAll_of_error (hbefore hfit) (by simp [step, hexceeds])
  | broken hframes hfit =>
    subst hframes
    exact readAll_of_error (hbefore hfit) rfl
  | whole hfit => exact readAll_of_ok (hbefore hfit)

theorem readAll_eq_ok {body : Bytes} :
    readAll limit frames = .ok body ↔ Fit limit frames ∧ body = payload frames := by
  constructor
  · intro hread
    obtain ⟨_, _, hcourse⟩ := exists_course limit frames
    obtain rfl := hcourse.readAll.symm.trans hread
    cases hcourse with
    | whole hfit => exact ⟨hfit, rfl⟩
  · rintro ⟨hfit, rfl⟩
    exact (Course.whole hfit).readAll

/-- What is looked at is a beginning of the body.  All of it but its last frame fits, and it stops
    short of the whole body only behind a frame that does not. -/
theorem Course.read_stops (h : Course limit frames read result) :
    read <+: frames ∧ Fit limit read.dropLast ∧ (read = frames ∨ ¬ Fit limit read) := by
  cases h with
  | @exceeded before rest bytes hframes hfit hexceeds =>
    refine ⟨⟨rest, by simp [hframes]⟩, by simpa using hfit, .inr fun hall => ?_⟩
    have hwithin := hall.within
    rw [payload_append, payload_singleton, List.length_append] at hwithin
    exact Nat.not_lt.mpr hwithin hexceeds
  | @broken before rest cause hframes hfit =>
    refine ⟨⟨rest, by simp [hframes]⟩, by simpa using hfit, .inr fun hall => ?_⟩
    have hintact := hall.intact (.failure cause) (by simp)
    cases hintact
  | whole hfit => exact ⟨List.prefix_refl _, hfit.dropLast, .inl rfl⟩

/-- No beginning of the body that fits up to its last frame goes further than the course. -/
theorem Course.prefix_read {others : List Frame} (h : Course limit frames read result)
    (hothers : others <+: frames) (hfit : Fit limit others.dropLast) : others <+: read := by
  obtain ⟨hread, _, hstop⟩ := h.read_stops
  refine List.prefix_of_prefix_length_le hothers hread ?_
  by_contra hlonger
  -- What is looked at would be among the frames that fit, and short of the whole body.
  obtain ⟨rest, hrest⟩ : read <+: others.dropLast :=
    List.prefix_of_prefix_length_le hread ((List.dropLast_prefix others).trans hothers)
      (by simp; omega)
  rcases hstop with rfl | hunfit
  · exact hlonger hothers.length_le
  · exact hunfit (hrest ▸ hfit).left

/-- A body is read in one way only. -/
theorem Course.unique {others : List Frame} {other : Except BodyFault Bytes}
    (h : Course limit frames read result) (k : Course limit frames others other) :
    read = others ∧ result = other := by
  obtain ⟨hread, hfit, _⟩ := h.read_stops
  obtain ⟨hothers, hfits, _⟩ := k.read_stops
  exact ⟨(k.prefix_read hread hfit).eq_of_length_le (h.prefix_read hothers hfits).length_le,
    h.readAll.symm.trans k.readAll⟩

/-! ## §3 What makes no difference -/

/-- How the data are cut into frames, and what trailers stand between them, makes no difference to a
    body that is read to its end. -/
theorem readAll_of_payload {others : List Frame} {body : Bytes}
    (hread : readAll limit frames = .ok body) (hpayload : payload others = payload frames)
    (hintact : ∀ f ∈ others, f.isFailure = false) : readAll limit others = .ok body := by
  obtain ⟨hfit, rfl⟩ := readAll_eq_ok.mp hread
  exact readAll_eq_ok.mpr ⟨⟨hintact, hpayload ▸ hfit.within⟩, hpayload.symm⟩

/-- Trailers make no difference to any body. -/
theorem readAll_without_trailers (limit : Nat) (frames : List Frame) :
    readAll limit (frames.filter (· != .trailers)) = readAll limit frames := by
  have hsame : ∀ reader, (frames.filter (· != .trailers)).foldlM (step limit) reader =
      frames.foldlM (step limit) reader := by
    induction frames with
    | nil => exact fun _ => rfl
    | cons f rest ih =>
      intro reader
      cases f with
      | trailers => exact ih reader
      | failure cause => rfl
      | data bytes =>
        -- The frame stays, and the reader goes on behind it if it does not stop.
        change (step limit reader (.data bytes) >>= fun next =>
            (rest.filter (· != .trailers)).foldlM (step limit) next) =
          (step limit reader (.data bytes) >>= fun next => rest.foldlM (step limit) next)
        simp only [ih]
  rw [readAll, hsame, readAll]

/-! ## §4 Counting in machine words -/

/-- The largest number of bytes that a machine word counts. -/
def maxCount : Nat := Nat.pow 2 64 - 1

/-- Read one frame, with a running total beside the data.  The total sticks at the largest count. -/
def countStep (limit : Nat) (r : Nat × Bytes) : Frame → Except BodyFault (Nat × Bytes)
  | .data bytes =>
    let total := Nat.min (r.1 + bytes.length) maxCount
    if limit < total then .error (.tooLarge total) else .ok (total, r.2 ++ bytes)
  | .trailers => .ok r
  | .failure cause => .error (.broken cause)

/-- Read a whole body with a running total in a machine word. -/
def countAll (limit : Nat) (frames : List Frame) : Except BodyFault Bytes :=
  (frames.foldlM (countStep limit) (0, [])).map (·.2)

/-- What memory can hold: the data that were taken before a frame, and those of the frame, take up
    less than half of the range of a machine word each. -/
def Addressable (limit : Nat) (frames : List Frame) : Prop :=
  ∀ before bytes, before ++ [.data bytes] <+: frames → Fit limit before →
    (payload before).length < Nat.pow 2 63 ∧ bytes.length < Nat.pow 2 63

/-- The total never comes to the point where it would stick. -/
theorem countAll_eq (hmemory : Addressable limit frames) :
    countAll limit frames = readAll limit frames := by
  have hcount : ∀ read, read <+: frames → read.foldlM (countStep limit) (0, []) =
      (read.foldlM (step limit) start).map fun r => (r.taken.length, r.taken) := by
    intro read
    induction read using List.reverseRecOn with
    | nil => exact fun _ => rfl
    | append_singleton read f ih =>
      intro hread
      have hbefore := ih ((List.prefix_append read [f]).trans hread)
      rw [foldlM_concat, List.foldlM_append, hbefore]
      cases hsofar : read.foldlM (step limit) start with
      | error fault => rfl
      | ok r =>
        obtain ⟨hfit, htaken⟩ := foldlM_eq_ok.mp hsofar
        cases f with
        | trailers => rfl
        | failure cause => rfl
        | data bytes =>
          obtain ⟨htotal, hframe⟩ := hmemory read bytes hread hfit
          have hcounted : Nat.min (r.taken.length + bytes.length) maxCount =
              r.taken.length + bytes.length := by
            refine Nat.min_eq_left ?_
            rw [htaken]
            simp only [maxCount, Nat.pow_eq] at htotal hframe ⊢
            omega
          by_cases hexceeds : limit < r.taken.length + bytes.length
          · simp [Except.bind, Except.map, bind, countStep, step, hcounted, hexceeds]
          · simp [Except.bind, Except.map, bind, pure, Except.pure, countStep, step, hcounted,
              hexceeds]
  rw [countAll, hcount frames (List.prefix_refl frames), readAll]
  cases frames.foldlM (step limit) start <;> rfl

end BoundedReader

end Replicast
