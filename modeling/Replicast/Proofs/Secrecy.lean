import Replicast.Batch.View
import Replicast.Proofs.Engine.Share
import Replicast.Proofs.Secrecy.Dispatch
/-!
# What a log tells of userinfo

Two clients to whom the same happens, and whose targets differ in userinfo only, leave logs behind
that are the same up to two kinds of events.  A request that could not be built and a replica that
did not accept are told with the base URL of the target as it is, and with the text that was no URI
if that is what went wrong.

## Overview

* `Engine.Alike` relates two clients, and `Engine.Event.Alike` what happens to them.
* `Engine.step_alike` is one step of both, and `Engine.run_shown` the result.
* `Engine.run_leaks` is a run in which the userinfo does get into the log.
-/

namespace Replicast

namespace Engine

/-! ## §1 Two clients -/

/-- Clients whose batches look the same, with an interceptor that sees no more of them. -/
structure Alike (e e' : Engine) : Prop where
  client : e.client = e'.client
  clock : e.toClock = e'.toClock
  tokens : e.tokens = e'.tokens
  openings : e.openings = e'.openings
  blind : ∀ i ∈ e.client.interceptor, Interceptor.Blind i
  batches : List.Forall₂ Batch.Alike e.batches e'.batches

/-- The same happens, up to the userinfo of the targets that a batch begins with. -/
inductive Event.Alike : Event → Event → Prop
  | dispatch {op : Operation} {targets targets' : List Target}
    (hop : ∀ handler ∈ op.handler, handler.Blind)
    (htargets : List.Forall₂ op.Twins targets targets') :
    Alike (.dispatch op targets) (.dispatch op targets')
  | replicate {op : Operation} {targets targets' : List Target} (threshold : Threshold)
    {acceptance : Acceptance} (ha : acceptance.Blind)
    (htargets : List.Forall₂ op.Twins targets targets') :
    Alike (.replicate op targets threshold acceptance) (.replicate op targets' threshold acceptance)
  | signal (batch position : Nat) (s : Signal) :
    Alike (.signal batch position s) (.signal batch position s)
  | cancel (batch : Nat) : Alike (.cancel batch) (.cancel batch)
  | cancelToken (name : String) : Alike (.cancelToken name) (.cancelToken name)
  | reduce (batch : Nat) {goal : Goal} (hgoal : goal.Blind) :
    Alike (.reduce batch goal) (.reduce batch goal)
  | poll (batch : Nat) : Alike (.poll batch) (.poll batch)
  | drop (batch : Nat) : Alike (.drop batch) (.drop batch)
  | advance (d : Duration) : Alike (.advance d) (.advance d)
  | tick : Alike .tick .tick

section Pairs

variable {α : Type} {R : α → α → Prop} {l l' : List α}

/-- Of two lists in a relation, either both have an element at a place or none has. -/
theorem forall₂_getElem? (h : List.Forall₂ R l l') (i : Nat) :
    (l[i]? = none ∧ l'[i]? = none) ∨ ∃ a b, l[i]? = some a ∧ l'[i]? = some b ∧ R a b := by
  induction h generalizing i with
  | nil => exact .inl ⟨rfl, rfl⟩
  | cons hab _ ih =>
    cases i with
    | zero => exact .inr ⟨_, _, rfl, rfl, hab⟩
    | succ i => exact ih i

theorem forall₂_set (h : List.Forall₂ R l l') (i : Nat) {a b : α} (hab : R a b) :
    List.Forall₂ R (l.set i a) (l'.set i b) := by
  induction h generalizing i with
  | nil => exact .nil
  | cons hfirst hrest ih =>
    cases i with
    | zero => exact .cons hab hrest
    | succ i => exact .cons hfirst (ih i)

end Pairs

/-! ## §2 Steps -/

/-- What two steps come to: clients that are alike, and records that show the same. -/
structure Agree (x x' : Engine × History) : Prop where
  alike : x.1.Alike x'.1
  shown : x.2.shown = x'.2.shown

section Step

variable {e e' : Engine}

/-- A change of one batch of either client. -/
theorem Alike.change (h : e.Alike e') (number : Nat) {f : Batch → Batch × List Placed}
    (hf : ∀ b b', b.Alike b' → (f b).1.Alike (f b').1 ∧
      (f b).2.filterMap Placed.shown? = (f b').2.filterMap Placed.shown?) :
    Agree (e.change number f) (e'.change number f) := by
  unfold Engine.change
  rcases forall₂_getElem? h.batches number with ⟨hb, hb'⟩ | ⟨b, b', hb, hb', hbatch⟩
  · rw [hb, hb']
    exact ⟨h, rfl⟩
  · rw [hb, hb']
    obtain ⟨halike, hshown⟩ := hf b b' hbatch
    exact ⟨{ h with batches := forall₂_set h.batches number halike },
      records_shown (congrArg Clock.now h.clock) number hshown⟩

/-- A change that both batches agree on, as one of the whole batch. -/
theorem Alike.changeWhole (h : e.Alike e') (number : Nat) {f : Batch → Batch × List Effect}
    (hf : ∀ b b', b.Alike b' → Batch.Agree (f b) (f b')) :
    Agree (e.change number fun b => ((f b).1, unplaced (f b).2))
      (e'.change number fun b => ((f b).1, unplaced (f b).2)) := by
  refine h.change number fun b b' hb => ⟨(hf b b' hb).alike, ?_⟩
  dsimp only [unplaced]
  rw [shown_placed, shown_placed, (hf b b' hb).shown]

theorem Alike.signal (h : e.Alike e') (number position : Nat) (s : Signal) :
    Agree (e.signal number position s) (e'.signal number position s) := by
  obtain ⟨clock, client, tokens, batches, openings⟩ := e
  obtain ⟨clock', client', tokens', batches', openings'⟩ := e'
  obtain ⟨rfl, rfl, rfl, rfl, hblind, hbatches⟩ := h
  unfold Engine.signal
  rcases forall₂_getElem? hbatches number with ⟨hb, hb'⟩ | ⟨b, b', hb, hb', hbatch⟩
  · simp only [hb, hb']
    exact ⟨⟨rfl, rfl, rfl, rfl, hblind, hbatches⟩, rfl⟩
  · have hsignal := hbatch.signal clock tokens openings position s
    -- Openings of the body are among what is shown.
    have hopenings : countOpenings b.plan.body (b.signal clock tokens openings position s).2 =
        countOpenings b'.plan.body (b'.signal clock tokens openings position s).2 := by
      unfold countOpenings
      rw [hbatch.plan, count_opened_eq_of_shown hsignal.shown]
    simp only [hb, hb', hopenings]
    refine ⟨⟨rfl, rfl, rfl, rfl, hblind, forall₂_set hbatches number hsignal.alike⟩,
      records_shown rfl number ?_⟩
    rw [shown_placed, shown_placed, hsignal.shown]

/-- A batch that begins. -/
theorem Alike.dispatch (h : e.Alike e') {op : Operation}
    (hop : ∀ handler ∈ op.handler, handler.Blind) {targets targets' : List Target}
    (htargets : List.Forall₂ op.Twins targets targets') :
    Agree (e.dispatch op targets) (e'.dispatch op targets') := by
  have hprepared := Operation.prepareAll_alike h.blind htargets e.openings
  have hopenings {preparations preparations' : List Operation.Preparation}
      (h : List.Forall₂ Operation.Preparation.Alike preparations preparations') (sum : Nat) :
      preparations.foldl (fun sum p => sum + p.openings op.body) sum =
        preparations'.foldl (fun sum p => sum + p.openings op.body) sum := by
    induction h generalizing sum with
    | nil => rfl
    | cons hp _ ih =>
      simp only [List.foldl_cons, Operation.Preparation.openings, hp.opened]
      exact ih _
  obtain ⟨clock, client, tokens, batches, openings⟩ := e
  obtain ⟨clock', client', tokens', batches', openings'⟩ := e'
  obtain ⟨rfl, rfl, rfl, rfl, hblind, hbatches⟩ := h
  have hfresh := fresh_alike ⟨clock, client, tokens, batches, openings⟩ hop hprepared
  obtain ⟨halike, hshown⟩ := placeAll_alike client (op.retryPolicyFor client) hprepared hfresh 0
  have hbegun : List.Forall₂ Batch.Alike (batches ++ [_]) (batches' ++ [_]) :=
    List.rel_append hbatches (.cons halike .nil)
  unfold Engine.dispatch
  dsimp only at hprepared ⊢
  rw [hopenings hprepared, htargets.length_eq, hbatches.length_eq]
  refine ⟨⟨rfl, rfl, rfl, rfl, hblind, hbegun⟩, records_shown rfl _ ?_⟩
  exact congrArg (_ :: ·) hshown

/-- The clock is a variable here, so that it is never computed. -/
theorem Alike.atClock (h : e.Alike e') (c : Clock) :
    Agree ({ e with toClock := c }, []) ({ e' with toClock := c }, []) :=
  ⟨{ h with clock := rfl }, rfl⟩

/-- **What happens to both of them leaves them alike and shows the same.** -/
theorem step_alike (h : e.Alike e') {event event' : Event} (hevent : event.Alike event') :
    Agree (e.step event) (e'.step event') := by
  cases hevent with
  | dispatch hop htargets => exact h.dispatch hop htargets
  | @replicate op targets targets' threshold acceptance ha htargets =>
    have htargets : List.Forall₂ ({ op with handler := none } : Operation).Twins targets targets' :=
      htargets.imp fun _ _ => Operation.Twins.withoutHandler
    have hbegun := h.dispatch (by simp) htargets
    have hdecided := hbegun.alike.change
      (f := fun b => (b.begin (.decide threshold acceptance), [])) e.batches.length
      fun b b' hb => ⟨hb.begin ha, rfl⟩
    simp only [step, ← h.batches.length_eq]
    refine ⟨hdecided.alike, ?_⟩
    rw [History.shown_append, History.shown_append, hbegun.shown,
      records_shown (congrArg Clock.now h.clock) _ rfl]
  | signal number position s => exact h.signal number position s
  | cancel number =>
    refine h.change (f := fun b => (b.release.1, [(none, .cancelled b.release.2)])) number
      fun b b' hb => ?_
    obtain ⟨hreleased, heffective⟩ := hb.release
    exact ⟨hreleased, by simp only [heffective]⟩
  | cancelToken name => exact ⟨{ h with tokens := congrArg (name :: ·) h.tokens }, rfl⟩
  | @reduce number goal hgoal =>
    exact h.change (f := fun b => (b.begin goal, [])) number fun b b' hb => ⟨hb.begin hgoal, rfl⟩
  | poll number =>
    have hpoll := h.changeWhole number fun b b' hb => hb.poll e.toClock e.tokens
    simp only [step, ← h.clock, ← h.tokens]
    exact hpoll
  | drop number => exact h.changeWhole number fun b b' hb => hb.drop
  | advance d =>
    rw [step_advance, step_advance, h.clock]
    exact h.atClock _
  | tick =>
    rw [step_tick, step_tick, h.clock]
    exact h.atClock _

/-! ## §3 Runs -/

theorem run_alike (h : e.Alike e') {events events' : List Event}
    (hevents : List.Forall₂ Event.Alike events events') :
    Agree (e.run events) (e'.run events') := by
  induction hevents generalizing e e' with
  | nil => exact ⟨h, rfl⟩
  | cons hevent _ ih =>
    obtain ⟨halike, hshown⟩ := step_alike h hevent
    obtain ⟨hafter, hothers⟩ := ih halike
    exact ⟨hafter, by simp only [run, History.shown_append, hshown, hothers]⟩

end Step

/-- **Userinfo shows in two kinds of log events only.**  The same happens to two clients of the same
    make, up to the userinfo of the targets.  Where a request comes of a target, it is shown as a
    URL, and neither the interceptor nor a handler nor an acceptance looks at the userinfo.  Then all
    that the two clients tell is the same, span by span and event by event, up to the base URL and
    the text that was no URI in the events `Log.bareMessages`; and so is all that they do, apart from
    requests, outcomes and errors. -/
theorem run_shown {client : Client} (hclient : ∀ i ∈ client.interceptor, Interceptor.Blind i)
    (now : Instant) {events events' : List Event}
    (hevents : List.Forall₂ Event.Alike events events') :
    ((start client now).run events).2.shown = ((start client now).run events').2.shown := by
  have hstart : (start client now).Alike (start client now) :=
    ⟨rfl, rfl, rfl, rfl, hclient, .nil⟩
  exact (run_alike hstart hevents).shown

/-- A quorum of two replicas: the first one declines, and the second one may have no URI. -/
def declined (first second : String) : List Event :=
  [.replicate { Operation.new .get "" with retryPolicy := some .disabled }
      [⟨0, first⟩, ⟨1, second⟩] .all Acceptance.ok,
    .signal 0 0 .turn, .signal 0 0 .turn,
    .signal 0 0 (.answer (.response ⟨.tooManyRequests, .http11, Header.Map.empty⟩)),
    .signal 0 0 .bodyEnd, .poll 0, .poll 0, .poll 0]

/-- The same happens with and without a userinfo. -/
theorem declined_alike :
    List.Forall₂ Event.Alike (declined "http://user:secret@a" "http://user:secret@[")
      (declined "http://a" "http://[") := by
  have hplain : ("user:secret".toList.all (!Url.endsAuthority ·)) = true := by decide
  have huser : Url.IsUserinfo "user:secret@".toList :=
    .inr ⟨"user:secret".toList, rfl, fun c hc => by simpa using List.all_eq_true.mp hplain c hc⟩
  have hbase : Uri.SameButUserinfo "http://user:secret@a".toList "http://a".toList :=
    @Uri.SameButUserinfo.intro "http".toList _ [] 'a' [] (by decide) huser (.inl rfl) (by decide)
  let op : Operation := { Operation.new .get "" with retryPolicy := some .disabled }
  let u : Uri := ⟨some ("http".toList, "user:secret@a".toList), ['/'], none⟩
  have hu : op.uriFor ⟨0, "http://user:secret@a"⟩ = .ok u := by decide +kernel
  have hu' : op.uriFor ⟨0, "http://a"⟩ = .ok ⟨some ("http".toList, ['a']), ['/'], none⟩ := by
    decide +kernel
  have hurl : Url.parse? u.text ≠ none := by decide +kernel
  have hnone : op.uriFor ⟨1, "http://user:secret@["⟩ = .error "http://user:secret@[".toList := by
    decide +kernel
  have hnone' : op.uriFor ⟨1, "http://["⟩ = .error "http://[".toList := by decide +kernel
  have htargets : List.Forall₂ op.Twins
      [⟨0, "http://user:secret@a"⟩, ⟨1, "http://user:secret@["⟩]
      [⟨0, "http://a"⟩, ⟨1, "http://["⟩] :=
    .cons (.resolved rfl hbase hu hu' hurl) (.cons (.refused rfl hnone hnone') .nil)
  exact .cons (.replicate .all (Acceptance.ofStatuses_blind _) htargets)
    (.cons (.signal 0 0 _) (.cons (.signal 0 0 _) (.cons (.signal 0 0 _) (.cons (.signal 0 0 _)
      (.cons (.poll 0) (.cons (.poll 0) (.cons (.poll 0) .nil)))))))

/-- What is shown of the two runs is the same. -/
theorem run_shown_declined :
    List.Forall₂ Event.Alike (declined "http://user:secret@a" "http://user:secret@[")
        (declined "http://a" "http://[") ∧
      (plain.run (declined "http://user:secret@a" "http://user:secret@[")).2.shown =
        (plain.run (declined "http://a" "http://[")).2.shown :=
  ⟨declined_alike, run_shown (fun i hi => by cases hi) ⟨0⟩ declined_alike⟩

/-- Not all of a log stays the same: a base URL is told as it is. -/
theorem run_leaks :
    ¬ ∀ (client : Client) (now : Instant) (events events' : List Event),
      (∀ i ∈ client.interceptor, Interceptor.Blind i) → List.Forall₂ Event.Alike events events' →
      ((start client now).run events).2.loose = ((start client now).run events').2.loose := by
  intro hall
  have hsame := hall (ClientBuilder.ofConfig .standard).build ⟨0⟩ _ _ (fun i hi => by cases hi)
    declined_alike
  have hdiffer : (plain.run (declined "http://user:secret@a" "http://user:secret@[")).2.loose ≠
      (plain.run (declined "http://a" "http://[")).2.loose := by
    decide +kernel
  exact hdiffer hsame

end Engine

end Replicast
