import Replicast.Proofs.Agreement.Supply
import Replicast.Proofs.Replication
/-!
# The course of a target in a round

In a round a motion is put to the targets once.  Unless its outcome says that the batch was
interrupted, what a target gets determines where its worker stands and what was posted for it.

## Overview

* `Worker.Fitted.alike` says that what workers get is determined by the answers and the copies of
  the body, and `Worker.Brought.agrees` that workers that got alike have ended alike.
* `Motion` is an operation to be replicated and decided, and `Round` one run in which it is.
* `Motion.exists_brought` says that what a target gets brings its worker to where it stands.
-/

namespace Replicast

/-! ## §1 Lists that are alike as far as they go -/

/-- Two lists of which one goes on where the other ends. -/
def Alike {α : Type} (xs ys : List α) : Prop := xs <+: ys ∨ ys <+: xs

namespace Alike

variable {α : Type} {x y : α} {xs ys : List α}

instance [DecidableEq α] (xs ys : List α) : Decidable (Alike xs ys) :=
  inferInstanceAs (Decidable (_ ∨ _))

theorem of_cons (h : Alike (x :: xs) (y :: ys)) : x = y ∧ Alike xs ys := by
  rcases h with h | h
  · exact ⟨(List.cons_prefix_cons.mp h).1, .inl (List.cons_prefix_cons.mp h).2⟩
  · exact ⟨(List.cons_prefix_cons.mp h).1.symm, .inr (List.cons_prefix_cons.mp h).2⟩

theorem cons (x : α) (h : Alike xs ys) : Alike (x :: xs) (x :: ys) :=
  h.imp (fun h => List.cons_prefix_cons.mpr ⟨rfl, h⟩) fun h => List.cons_prefix_cons.mpr ⟨rfl, h⟩

/-- Beginnings of one length are the same, and what follows them is alike. -/
theorem of_append {xs' ys' : List α} (hlength : xs.length = ys.length)
    (h : Alike (xs ++ xs') (ys ++ ys')) : xs = ys ∧ Alike xs' ys' := by
  rcases h with h | h
  · obtain ⟨heq, h⟩ := (List.prefix_append_inj_of_length_eq hlength).mp h
    exact ⟨heq, .inl h⟩
  · obtain ⟨heq, h⟩ := (List.prefix_append_inj_of_length_eq hlength.symm).mp h
    exact ⟨heq.symm, .inr h⟩

end Alike

/-! ## §2 Workers and what they got -/

namespace Worker

variable {p : Plan} {origin : Worker × List Outcome} {got got' : List Supply} {w w' : Worker}
  {posted posted' : List Outcome}

/-- Everything that was got was what the worker was waiting for then. -/
def Fitted (p : Plan) (origin : Worker × List Outcome) (got : List Supply) : Prop :=
  ∀ before x, before ++ [x] <+: got → (before.foldl (bring p) origin).1.Fits p x

theorem Fitted.head {x : Supply} (h : Fitted p origin (x :: got)) : origin.1.Fits p x :=
  h [] x ⟨got, rfl⟩

theorem Fitted.tail {x : Supply} (h : Fitted p origin (x :: got)) :
    Fitted p (bring p origin x) got :=
  fun before y hbefore => h (x :: before) y (List.cons_prefix_cons.mpr ⟨rfl, hbefore⟩)

/-- Supplies that fit the same worker are of the same kind: they are the same when the answers are,
    and when copies of the body open alike. -/
theorem Fits.eq {w : Worker} {x y : Supply} (hx : w.Fits p x) (hy : w.Fits p y)
    (hanswer : ∀ s t, x = .signal s → y = .signal t → s = t)
    (hcopy : p.body.IsRepeatable ∨ ∀ f g, x = .copy f → y = .copy g → f = g) : x = y := by
  cases x with
  | copy f =>
    cases y with
    | copy g =>
      rcases hcopy with hbody | hcopy
      · obtain ⟨_, first, rfl⟩ := hx
        obtain ⟨_, second, rfl⟩ := hy
        simp only [openingError?, hbody first second]
      · rw [hcopy f g rfl rfl]
    | signal t => simp [Fits, isWaiting, hx.1] at hy
  | signal s =>
    cases y with
    | copy g => simp [Fits, isWaiting, hy.1] at hx
    | signal t => rw [hanswer s t rfl rfl]

/-- **What two workers got is alike** when their answers are, and when copies of the body open
    alike. -/
theorem Fitted.alike (h : Fitted p origin got) (h' : Fitted p origin got')
    (hanswers : Alike (got.filterMap Supply.signal?) (got'.filterMap Supply.signal?))
    (hcopies : p.body.IsRepeatable ∨
      Alike (got.filterMap Supply.copy?) (got'.filterMap Supply.copy?)) : Alike got got' := by
  induction got generalizing origin got' with
  | nil => exact .inl List.nil_prefix
  | cons x rest ih =>
    cases got' with
    | nil => exact .inr List.nil_prefix
    | cons y rest' =>
      -- Both are what the same worker was waiting for.
      obtain rfl : x = y := by
        refine h.head.eq h'.head (fun s t hs ht => ?_) (hcopies.imp id fun hcopies f g hf hg => ?_)
        · subst hs ht
          exact hanswers.of_cons.1
        · subst hf hg
          exact hcopies.of_cons.1
      refine (ih h.tail h'.tail ?_ (hcopies.imp id fun hcopies => ?_)).cons x
      · cases x with
        | copy f => exact hanswers
        | signal s => exact hanswers.of_cons.2
      · cases x with
        | copy f => exact hcopies.of_cons.2
        | signal s => exact hcopies

/-- A worker that what it got has brought from an origin to where it stands, with the outcomes that
    were posted for it. -/
structure Brought (p : Plan) (origin : Worker × List Outcome) (got : List Supply) (w : Worker)
    (posted : List Outcome) : Prop where
  state : (w.poised p, posted) = got.foldl (bring p) origin
  fitted : Fitted p origin got

/-- A worker gets one thing at a time. -/
theorem supplies_cases (w : Worker) (p : Plan) (openings : Nat) (s : Signal) :
    w.supplies p openings s = [] ∨ ∃ x, w.supplies p openings s = [x] := by
  unfold supplies
  split <;> split <;> simp

/-- A move of a worker that need not stop brings it on. -/
theorem Brought.step (h : Brought p origin got w posted) (openings : Nat) (s : Signal) :
    Brought p origin (got ++ w.supplies p openings s) (w.step p none openings s).worker
      (posted ++ (w.step p none openings s).outcome.toList) := by
  refine ⟨by rw [List.foldl_append, ← h.state, bring_step], fun before x hbefore => ?_⟩
  rcases w.supplies_cases p openings s with hnone | ⟨y, hsome⟩
  · rw [hnone, List.append_nil] at hbefore
    exact h.fitted before x hbefore
  · rw [hsome] at hbefore
    rcases List.prefix_concat_iff.mp hbefore with hlast | hearlier
    · -- The last supply is what the worker was waiting for where it stood.
      obtain ⟨rfl, hsame⟩ := List.append_inj' hlast rfl
      obtain rfl := List.singleton_inj.mp hsame
      rw [← h.state]
      exact fits_of_supplies (hsome ▸ List.mem_singleton_self x)
    · exact h.fitted before x hearlier

/-- The deadline makes no difference. -/
theorem Brought.of_deadline {deadline : Instant}
    (h : Brought { p with deadline } origin got w posted) : Brought p origin got w posted := by
  refine ⟨?_, fun before x hbefore => ?_⟩
  · rw [← bring_deadline p deadline]
    exact h.state
  · rw [← bring_deadline p deadline]
    exact h.fitted before x hbefore

/-- A worker that has ended gets nothing more, and so it is with another one that got the same. -/
theorem Brought.eq_of_prefix (h : Brought p origin got w posted)
    (h' : Brought p origin got' w' posted') (hended : w.isLive = false)
    (hinitial : got <+: got') : got = got' := by
  obtain ⟨rest, rfl⟩ := hinitial
  cases rest with
  | nil => exact (List.append_nil _).symm
  | cons x rest =>
    -- The other one would have got something after its end.
    have hlive := (h'.fitted got x ⟨rest, by simp⟩).isLive
    rw [← h.state, poised_isLive, hended] at hlive
    cases hlive

/-- **Workers that got alike have ended alike**, and the same was posted for them. -/
theorem Brought.agrees (h : Brought p origin got w posted) (h' : Brought p origin got' w' posted')
    (hended : w.isLive = false) (hended' : w'.isLive = false) (halike : Alike got got') :
    posted = posted' := by
  have hsame : got = got' := by
    rcases halike with hinitial | hinitial
    · exact h.eq_of_prefix h' hended hinitial
    · exact (h'.eq_of_prefix h hended' hinitial).symm
  have hstates := h.state.trans (hsame ▸ h'.state.symm)
  exact (Prod.mk.inj hstates).2

end Worker

/-! ## §3 Rounds -/

open Engine Operation

/-- An operation to be replicated by a client, and how it is to be decided. -/
structure Motion where
  client : Client
  op : Operation
  targets : List Target
  threshold : Threshold
  acceptance : Acceptance

/-- One run in which a motion is put: when it starts, and what happens before and afterwards. -/
structure Round where
  now : Instant
  before : List Event
  after : List Event

namespace Motion

variable (m : Motion) (r : Round)

/-- The motion is put. -/
def event : Event := .replicate m.op m.targets m.threshold m.acceptance

/-- The client when the motion is put. -/
def engine : Engine := ((start m.client r.now).run r.before).1

/-- The number of the batch. -/
def number : Nat := (m.engine r).batches.length

/-- A round from when the motion is put, up to some events later. -/
def upTo (after : List Event) : Engine × History := (m.engine r).run (m.event :: after)

/-- A round, with everything that happened before. -/
def run : Engine × History := (start m.client r.now).run (r.before ++ m.event :: r.after)

/-- What the target at a position gets in a round. -/
def supplied (position : Nat) : List Supply :=
  (m.engine r).supplied (m.number r) position (m.event :: r.after)

/-- The operation as it is put: a handler is ignored. -/
def unhandled : Operation := { m.op with handler := none }

/-- The requests that are built when the motion is put. -/
def preparations : List Preparation :=
  m.unhandled.prepareAll m.client (m.engine r).openings m.targets

/-- What all workers share. -/
def plan : Plan := ((m.engine r).fresh m.op []).plan

variable {m r} {position : Nat} {p : Preparation} {after : List Event} {b : Batch}

theorem engine_client : (m.engine r).client = m.client := run_client _ _

theorem run_before (after : List Event) :
    ((start m.client r.now).run (r.before ++ m.event :: after)).1 = (m.upTo r after).1 := by
  rw [Engine.run_append]
  rfl

theorem upTo_concat (after : List Event) (next : Event) :
    m.upTo r (after ++ [next]) =
      (((m.upTo r after).1.step next).1, (m.upTo r after).2 ++ ((m.upTo r after).1.step next).2) :=
  run_concat _ (m.event :: after) next

/-- Nothing was recorded of the batch before the motion was put. -/
theorem run_of_number (after : List Event) :
    ((start m.client r.now).run (r.before ++ m.event :: after)).2.of (m.number r) =
      (m.upTo r after).2.of (m.number r) := by
  have hnone : ((start m.client r.now).run r.before).1.batches[m.number r]? = none := by
    simp [number, engine]
  rw [Engine.run_append, History.of_append, run_unborn _ hnone, List.nil_append]
  rfl

/-! ## §4 What a worker gets -/

/-- What a worker gets after its request was built. -/
def suppliedLater (m : Motion) (r : Round) (position : Nat) (after : List Event) : List Supply :=
  ((m.engine r).step m.event).1.supplied (m.number r) position after

theorem suppliedLater_concat (after : List Event) (next : Event) :
    m.suppliedLater r position (after ++ [next]) =
      m.suppliedLater r position after ++
        (m.upTo r after).1.suppliedAt (m.number r) position next :=
  supplied_concat _ after next

/-- A target gets what its request gets it, and then what its worker gets. -/
theorem supplied_eq (hp : (m.preparations r)[position]? = some p) :
    m.supplied r position = p.supplies ++ m.suppliedLater r position r.after := by
  have hfirst : (m.engine r).suppliedAt (m.number r) position m.event = p.supplies := by
    simp only [event, suppliedAt, number, if_true]
    rw [preparations, unhandled, ← engine_client (r := r)] at hp
    rw [hp]
    rfl
  rw [supplied, Engine.supplied, hfirst, suppliedLater]

/-- Where the worker at a position stands after some events, and how it has come there. -/
def BroughtAt (m : Motion) (r : Round) (position : Nat) (p : Preparation) (after : List Event)
    (b : Batch) : Prop :=
  ∃ w, b.workers[position]? = some w ∧
    w.Brought (m.plan r) ((workerOf p).poised (m.plan r), p.failure?.toList)
      (m.suppliedLater r position after) (((m.upTo r after).2.of (m.number r)).postedAt position)

/-- A new worker has got nothing but what its request has got it. -/
theorem broughtAt_of_birth (hp : (m.preparations r)[position]? = some p) {d : Doings}
    (hbirth : Birth (m.engine r) m.event m.targets b d)
    (hhistory : ((m.engine r).step m.event).2 = (m.engine r).records (m.number r) d) :
    b.plan = m.plan r ∧ m.BroughtAt r position p [] b := by
  cases hbirth
  have hnew := replicate_newborn (m.engine r) m.op m.targets m.threshold m.acceptance
  rw [engine_client] at hnew
  change (m.engine r).Newborn m.targets _ _ (m.preparations r) at hnew
  refine ⟨?_, workerOf p, ?_, ?_⟩
  · rw [(Batch.begin_keeps _ _).plan,
      ((m.engine r).begun_enqueue { m.op with handler := none } m.targets).1]
    rfl
  · rw [hnew.workers, List.getElem?_map, hp]
    rfl
  · have hposted : ((m.upTo r []).2.of (m.number r)).postedAt position = p.failure?.toList := by
      have hdoings : (m.upTo r []).2 = ((m.engine r).step m.event).2 := List.append_nil _
      rw [hdoings, hhistory, History.of_records, Doings.postedAt, hnew.here position p hp,
        p.doings_posted]
    rw [hposted]
    exact ⟨rfl, fun before x hbefore => by simp [suppliedLater, Engine.supplied] at hbefore⟩

/-- What is posted for a target by one more event. -/
theorem postedAt_concat (hb : (m.upTo r after).1.batches[m.number r]? = some b) (next : Event) :
    ((m.upTo r (after ++ [next])).2.of (m.number r)).postedAt position =
      ((m.upTo r after).2.of (m.number r)).postedAt position ++
        ((b.react (m.upTo r after).1 (m.number r) next).2.effectsAt position).filterMap
          Effect.posted? := by
  rw [upTo_concat, History.of_append, (step_share hb next).2, Doings.postedAt_append]
  rfl

/-- Every event brings a worker on, unless it makes the worker say that the batch is interrupted. -/
theorem BroughtAt.react (h : m.BroughtAt r position p after b) (hplan : b.plan = m.plan r)
    (hb : (m.upTo r after).1.batches[m.number r]? = some b) (next : Event)
    (hcalm : ∀ o ∈ ((m.upTo r (after ++ [next])).2.of (m.number r)).postedAt position,
      o.isInterrupted = false) :
    m.BroughtAt r position p (after ++ [next])
      (b.react (m.upTo r after).1 (m.number r) next).1 := by
  obtain ⟨w, hw, hbrought⟩ := h
  rw [postedAt_concat hb] at hcalm
  by_cases htold : ∃ s, next = .signal (m.number r) position s
  · obtain ⟨s, rfl⟩ := htold
    obtain ⟨hworker, heffects⟩ := Batch.react_told (m.upTo r after).1 (m.number r) hw s
    have hlawful := (Worker.step_transition b.plan (b.stopFor (m.upTo r after).1 w)
      (m.upTo r after).1.openings w s).lawful
    rw [heffects, hlawful.posted] at hcalm
    rcases suppliedAt_signal hb hw s with ⟨hstep, hsupplied⟩ | ⟨o, hout, hinterrupted⟩
    · refine ⟨_, hworker, ?_⟩
      rw [suppliedLater_concat, postedAt_concat hb, hsupplied, heffects, hlawful.posted, hstep, hplan]
      exact hbrought.step _ s
    · -- The worker would have posted an outcome that says so.
      rw [hcalm o (by simp [hout])] at hinterrupted
      cases hinterrupted
  · have hother : ∀ s, next ≠ .signal (m.number r) position s := fun s h => htold ⟨s, h⟩
    obtain ⟨hworker, heffects⟩ := Batch.react_untold (b := b) (m.upTo r after).1 (m.number r)
      position hother
    refine ⟨w, hworker.trans hw, ?_⟩
    rw [suppliedLater_concat, postedAt_concat hb, suppliedAt_other hb hother, heffects]
    simpa using hbrought

/-- **What a target gets brings its worker to where it stands**, in every round in which no outcome
    of the target says that the batch was interrupted. -/
theorem exists_brought (hp : (m.preparations r)[position]? = some p)
    (hcalm : ∀ o ∈ ((m.upTo r r.after).2.of (m.number r)).postedAt position,
      o.isInterrupted = false) :
    ∃ b, (m.upTo r r.after).1.batches[m.number r]? = some b ∧
      m.BroughtAt r position p r.after b := by
  have htargets : m.event.targets? = some m.targets := rfl
  have hcourse : ∃ b, (m.upTo r r.after).1.batches[m.number r]? = some b ∧ b.plan = m.plan r ∧
      ((∀ o ∈ ((m.upTo r r.after).2.of (m.number r)).postedAt position, o.isInterrupted = false) →
        m.BroughtAt r position p r.after b) := by
    refine run_along (P := fun after b => b.plan = m.plan r ∧
      ((∀ o ∈ ((m.upTo r after).2.of (m.number r)).postedAt position, o.isInterrupted = false) →
        m.BroughtAt r position p after b)) htargets (fun b d hbirth hhistory => ?_)
      (fun after next b hb h => ?_) r.after
    · obtain ⟨hplan, hbrought⟩ := broughtAt_of_birth hp hbirth hhistory
      exact ⟨hplan, fun _ => hbrought⟩
    · refine ⟨(b.react_move _ _ next).persists.plan.trans h.1, fun hcalm => ?_⟩
      have hbefore := hcalm
      rw [postedAt_concat hb] at hbefore
      exact (h.2 fun o ho => hbefore o (List.mem_append_left _ ho)).react h.1 hb next hcalm
  obtain ⟨b, hb, _, hbrought⟩ := hcourse
  exact ⟨b, hb, hbrought hcalm⟩

end Motion

end Replicast
