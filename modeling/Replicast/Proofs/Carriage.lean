import Replicast.Proofs.Requests
/-!
# What is sent for a target

The head of a request crosses the interceptor, is kept by the worker, and is built anew for every
attempt; its body is the copy that was opened with it, a fresh copy, or nothing.

## Overview

* `Header.Map.values_rebuilt` says that building a map anew keeps every value.
* `Operation.shown?` is the head that the interceptor is asked about, `Operation.left` is the one
  that it leaves, and `Operation.passes` says whether it lets the target pass.
* `Worker.Carriage` lists what a move opens and sends, and `Worker.Provided` is the invariant of the
  effects for one target.
* `Engine.run_carries` is the result: the head that the interceptor leaves is sent, whatever it was
  shown, and `Engine.replaced_head_is_sent` is a run in which that is another one.
-/

namespace Replicast

/-! ## §1 Headers built anew -/

namespace Header.Map

/-- A value that is added to a name comes after the others, and other names keep theirs. -/
theorem filter_addLast (name : Name) (value : Value) (other : Name) (entries : List (Name × Value)) :
    (addLast name value entries).filter (·.1 == other) =
      entries.filter (·.1 == other) ++ if name == other then [(name, value)] else [] := by
  induction entries with
  | nil => simp [addLast, List.filter_cons]
  | cons entry rest ih =>
    unfold addLast
    by_cases hlast : (entry.1 == name && !rest.any (·.1 == name)) = true
    · -- The last entry of the name: none of the rest is one.
      rw [if_pos hlast]
      simp only [Bool.and_eq_true, beq_iff_eq, Bool.not_eq_true', List.any_eq_false] at hlast
      obtain ⟨rfl, hrest⟩ := hlast
      by_cases hname : entry.1 = other
      · have hnone : rest.filter (·.1 == other) = [] :=
          List.filter_eq_nil_iff.mpr fun x hx => by simpa using hname ▸ hrest x hx
        simp [hname, hnone]
      · simp [hname]
    · rw [if_neg hlast, List.filter_cons, List.filter_cons, ih]
      split <;> simp

theorem values_append (m : Map) (name : Name) (value : Value) (other : Name) :
    (m.append name value).values other =
      m.values other ++ if name == other then [value] else [] := by
  unfold values append
  rw [filter_addLast, List.map_append]
  split <;> rfl

theorem values_appendAll (m : Map) (pairs : List (Name × Value)) (name : Name) :
    (m.appendAll pairs).values name =
      m.values name ++ (pairs.filter (·.1 == name)).map (·.2) := by
  unfold appendAll
  induction pairs generalizing m with
  | nil => simp
  | cons pair rest ih =>
    rw [List.foldl_cons, ih, values_append, List.filter_cons]
    split <;> simp

/-- **A map that is built anew holds the same values under every name**, in the same order. -/
@[simp] theorem values_rebuilt (m : Map) (name : Name) : m.rebuilt.values name = m.values name := by
  unfold rebuilt
  rw [values_appendAll]
  simp [values, empty]

end Header.Map

/-- Heads with the same method, the same URI and the same values under every name. -/
structure RequestHead.Agrees (r s : RequestHead) : Prop where
  method : r.method = s.method
  uri : r.uri = s.uri
  values : ∀ name, r.headers.values name = s.headers.values name

theorem RequestHead.rebuilt_agrees (r : RequestHead) : r.rebuilt.Agrees r :=
  ⟨rfl, rfl, r.headers.values_rebuilt⟩

theorem RequestHead.agrees_rebuilt (r : RequestHead) : r.Agrees r.rebuilt :=
  ⟨rfl, rfl, fun name => (r.headers.values_rebuilt name).symm⟩

/-! ## §2 The request of a target -/

namespace Operation

/-- The head that the interceptor is asked about, if the URI of the target can be resolved. -/
def shown? (op : Operation) (client : Client) (t : Target) : Option RequestHead :=
  match op.uriFor t with
  | .ok uri => some ⟨op.method, uri, op.headersFor client⟩
  | .error _ => none

/-- The head that the interceptor of a client leaves of the one it is shown; without an interceptor
    it stays. -/
def left (client : Client) (t : Target) (shown : RequestHead) : RequestHead :=
  (intercept client t shown).elim shown (·.head)

/-- The interceptor is asked about the method of the operation and the URI of the target. -/
theorem shown?_eq_some {op : Operation} {client : Client} {t : Target} {shown : RequestHead}
    (h : op.shown? client t = some shown) :
    shown.method = op.method ∧ op.uriFor t = .ok shown.uri := by
  unfold shown? at h
  split at h
  · rename_i huri
    obtain rfl := Option.some.inj h
    exact ⟨rfl, huri⟩
  · cases h

/-- Whether a target has a URI and is not refused by the interceptor. -/
def passes (op : Operation) (client : Client) (t : Target) : Bool :=
  (op.shown? client t).any fun shown => ((intercept client t shown).bind (·.refusal)).isNone

/-- What a preparation says about its target. -/
structure Prepared (op : Operation) (client : Client) (t : Target) (p : Preparation) : Prop where
  intercepted : p.intercepted = if client.interceptor.isSome then op.shown? client t else none
  opened : p.opened = op.passes client t
  /-- Only a target that passes gets a copy of the body. -/
  copied : p.copy.isOk = true → p.opened = true
  head : ∀ shown, op.shown? client t = some shown → p.head = left client t shown

theorem prepare_prepared (op : Operation) (client : Client) (t : Target) (openings : Nat) :
    Prepared op client t (op.prepare client t openings) := by
  unfold prepare
  cases huri : op.uriFor t with
  | error text =>
    refine ⟨by simp [shown?, huri], by simp [passes, shown?, huri], ?_, by simp [shown?, huri]⟩
    simp [Except.isOk, Except.toBool]
  | ok uri =>
    have hshown : op.shown? client t = some ⟨op.method, uri, op.headersFor client⟩ := by
      simp [shown?, huri]
    have hconsulted : (intercept client t ⟨op.method, uri, op.headersFor client⟩).map
          (fun _ => (⟨op.method, uri, op.headersFor client⟩ : RequestHead)) =
        if client.interceptor.isSome then op.shown? client t else none := by
      rw [hshown]
      unfold intercept
      cases client.interceptor <;> rfl
    have hhead (shown : RequestHead) (hshown' : op.shown? client t = some shown) :
        (intercept client t ⟨op.method, uri, op.headersFor client⟩).elim
          (⟨op.method, uri, op.headersFor client⟩ : RequestHead) (·.head) = left client t shown := by
      obtain rfl := Option.some.inj (hshown.symm.trans hshown')
      rfl
    have hpasses : op.passes client t =
        ((intercept client t ⟨op.method, uri, op.headersFor client⟩).bind (·.refusal)).isNone := by
      simp [passes, hshown]
    dsimp only
    cases hrefusal :
        (intercept client t ⟨op.method, uri, op.headersFor client⟩).bind (·.refusal) with
    | some e =>
      exact ⟨hconsulted, by simp [hpasses, hrefusal], by simp [Except.isOk, Except.toBool], hhead⟩
    | none =>
      cases op.body.openCopy openings <;>
        exact ⟨hconsulted, by simp [hpasses, hrefusal], fun _ => rfl, hhead⟩

/-- A request that could be built is the one that the interceptor left; what it kept is that of the
    operation and of the target. -/
theorem Prepared.agrees {op : Operation} {client : Client} {t : Target} {p : Preparation}
    (h : Prepared op client t p) (hbuilt : p.copy.isOk = true) :
    ∃ shown, op.shown? client t = some shown ∧ p.head.rebuilt.Agrees (left client t shown) ∧
      ((left client t shown).method = shown.method → p.head.rebuilt.method = op.method) ∧
      ((left client t shown).uri = shown.uri → op.uriFor t = .ok p.head.rebuilt.uri) := by
  have hpasses : op.passes client t = true := h.opened ▸ h.copied hbuilt
  obtain ⟨shown, hshown, _⟩ := (Option.any_eq_true _ _).mp hpasses
  obtain ⟨hmethod, huri⟩ := shown?_eq_some hshown
  have hagrees : p.head.rebuilt.Agrees (left client t shown) := by
    rw [← h.head shown hshown]
    exact p.head.rebuilt_agrees
  refine ⟨shown, hshown, hagrees, fun hkept => ?_, fun hkept => ?_⟩
  · exact hagrees.method.trans (hkept.trans hmethod)
  · rw [huri, hagrees.uri, hkept]

end Operation

/-! ## §3 What a move opens and sends -/

namespace Effect

/-- The head that the interceptor was asked about. -/
def consulted? : Effect → Option RequestHead
  | .consulted head => some head
  | _ => none

/-- The head of a request that was handed to the transport. -/
def sent? : Effect → Option RequestHead
  | .sent head _ => some head
  | _ => none

variable {x : Effect}

theorem isAttempt_of_isRequest (h : x.isRequest = true) : x.isAttempt = true := by
  cases x <;> first | rfl | cases h

theorem isAttempt_of_opened (h : (x == .opened) = true) : x.isAttempt = true := by
  obtain rfl := eq_of_beq h
  rfl

theorem consulted?_of_isOwn (h : x.isOwn = true) : x.consulted? = none := by
  cases x <;> first | rfl | cases h

end Effect

theorem countP_filter_attempt {q : Effect → Bool} (hq : ∀ x, q x = true → x.isAttempt = true)
    (effects : List Effect) : (effects.filter Effect.isAttempt).countP q = effects.countP q := by
  rw [List.countP_filter]
  refine List.countP_congr fun x _ => ?_
  simp only [Bool.and_eq_true]
  exact ⟨fun h => h.1, fun h => ⟨h, hq x h⟩⟩

namespace Worker

variable {p : Plan} {stop : Option Error} {openings : Nat} {w : Worker} {s : Signal} {m : Move}

/-- What a move opens and sends, given the number of openings so far. -/
inductive Carriage (p : Plan) (openings : Nat) (w : Worker) (m : Move) : List Effect → Prop where
  | nothing :
      m.worker.initial = w.initial → (∀ o, m.outcome = some o → o.isUnopened = false) →
      Carriage p openings w m []
  /-- The copy that was opened when the request was built. -/
  | initial {copy : Stream} :
      w.isLive = true → w.initial = some copy → m.worker.initial = none → m.outcome = none →
      Carriage p openings w m [.sent w.request.rebuilt copy]
  | fresh {copy : Stream} :
      w.isLive = true → w.initial = none → p.replays w.request = true →
      p.body.openCopy openings = .ok copy →
      m.worker.initial = none → m.outcome = none →
      Carriage p openings w m [.opened, .sent w.request.rebuilt copy]
  | empty :
      w.isLive = true → w.initial = none → p.replays w.request = false → m.worker.initial = none →
      m.outcome = none → Carriage p openings w m [.sent w.request.rebuilt []]
  /-- No fresh copy could be opened, so that nothing was sent. -/
  | unopened {o : Outcome} :
      w.isLive = true → w.initial = none → p.replays w.request = true → m.worker.isLive = false →
      m.outcome = some o → o.isUnopened = true → Carriage p openings w m [.opened]

/-- An end by itself neither opens nor sends. -/
private theorem finish_carriage (w : Worker) (events : List Log.Event) (o : Outcome) :
    (w.finish events o).effects.filter Effect.isAttempt = [] := by
  refine List.filter_eq_nil_iff.mpr fun x hx => ?_
  rcases mem_finish_effects hx with ⟨event, rfl⟩ | rfl | rfl <;> simp [Effect.isAttempt]

theorem Attempt.carriage (h : Attempt p openings w m) (hlive : w.isLive = true) :
    Carriage p openings w m (m.effects.filter Effect.isAttempt) := by
  cases h with
  | initial hinitial => exact .initial hlive hinitial rfl rfl
  | fresh hinitial hreplays hcopy => exact .fresh hlive hinitial hreplays hcopy rfl rfl
  | empty hinitial hreplays => exact .empty hlive hinitial hreplays rfl rfl
  | unopened hinitial hreplays _ hm =>
    subst hm
    have hfail (e : Error) : (w.nextAttempt.fail e).effects.filter Effect.isAttempt = [] :=
      finish_carriage _ _ _
    simp only [List.filter_cons, Effect.isAttempt, if_true, hfail]
    exact .unopened hlive hinitial hreplays rfl rfl
      (by simp [Outcome.isUnopened, Error.code, nextAttempt])

theorem Reception.carriage {a : Answer} (h : Reception p w a m) :
    Carriage p openings w m (m.effects.filter Effect.isAttempt) := by
  cases h with
  | final _ => exact .nothing rfl (by simp [readFrom])
  | @again head _ _ =>
    unfold retryAfter
    cases p.retryPolicy.backoffAfter head.status <;> exact .nothing rfl (by simp)
  | @failed f _ =>
    have hfail : (w.fail (w.transportError f)).effects.filter Effect.isAttempt = [] :=
      finish_carriage _ _ _
    simp only [List.filter_cons, Effect.isAttempt, Bool.false_eq_true, if_false, hfail]
    exact .nothing rfl
      (by simp [fail, finish, Outcome.isUnopened, transportError, Error.code])
  | failedAgain _ => exact .nothing rfl (by simp)

/-- **Every move carries one of these**, as long as being stopped is something else than to lack a
    copy of the body. -/
theorem Transition.carriage (h : Transition p stop openings w s m)
    (hstop : ∀ e, stop = some e → e.code ≠ .bodyReplay) :
    Carriage p openings w m (m.effects.filter Effect.isAttempt) := by
  have hended {events : List Log.Event} {o : Outcome} (ho : o.isUnopened = false) :
      Carriage p openings w (w.finish events o)
        ((w.finish events o).effects.filter Effect.isAttempt) := by
    rw [finish_carriage]
    exact .nothing rfl (by simp [finish, ho])
  cases h with
  | stay _ => exact .nothing rfl (by simp [Worker.stay])
  | enter _ | resume _ _ => exact .nothing rfl (by simp)
  | stop hstopped _ | stopReading hstopped _ =>
    exact hended (by simp [Outcome.isUnopened, hstop _ hstopped])
  | attempt _ hphase =>
    exact (attempt_attempt p openings w).carriage (isLive_of_phase hphase (by simp))
  | receive a _ _ => exact (receive_reception p w a).carriage
  | @frame head reader f _ _ =>
    unfold readFrame
    cases reader.step p.maxResponseBodyBytes f with
    | ok next => exact .nothing rfl (by simp)
    | error fault =>
      exact hended (by cases fault <;> simp [Outcome.isUnopened, bodyError, Error.code])
  | bodyEnd _ _ => exact hended (by simp [Outcome.isUnopened])
  | panic _ _ =>
    exact .nothing rfl (by simp [abort, Outcome.isUnopened, Outcome.failed, Error.code])

/-! ## §4 What a target was provided with -/

/-- How many attempts after the first asked for a copy of the body, if the request is one whose body
    is sent again: those that were sent, and one that was not, for want of the copy. -/
def reopened (p : Plan) (request : RequestHead) (effects : List Effect) : Nat :=
  if p.replays request then
    effects.countP Effect.isRequest - 1 +
      (effects.filterMap Effect.posted?).countP Outcome.isUnopened
  else 0

/-- How the effects for a target stand to the preparation of its request. -/
structure Provided (pre : Operation.Preparation) (p : Plan) (w : Worker) (effects : List Effect) :
    Prop where
  request : w.request = pre.head
  started : w.isLive = true → pre.copy.isOk = true
  /-- The copy of the preparation is held until the first request. -/
  held : w.isLive = true →
    (∃ copy, pre.copy = .ok copy ∧ w.initial = some copy ∧ effects.countP Effect.isRequest = 0) ∨
      w.initial = none ∧ 0 < effects.countP Effect.isRequest
  sent : ∀ head body, .sent head body ∈ effects →
    head = pre.head.rebuilt ∧ pre.copy.isOk = true
  reported : ∀ o ∈ effects.filterMap Effect.posted?, o.request = pre.head
  opened : effects.count .opened = pre.opened.toNat + reopened p pre.head effects
  consulted : effects.filterMap Effect.consulted? = pre.intercepted.toList

/-- What a move does for its target, besides its outcome, is what it carries. -/
theorem Move.mem_doings_sent {posting : Channel.Posting} {head : RequestHead} {body : Stream}
    (h : .sent head body ∈ m.doings posting) :
    .sent head body ∈ m.effects.filter Effect.isAttempt := by
  rcases List.mem_append.mp h with h | h
  · exact List.mem_filter.mpr ⟨h, rfl⟩
  · cases hout : m.outcome <;> simp [hout] at h

theorem Move.countP_doings {q : Effect → Bool} (hq : ∀ x, q x = true → x.isAttempt = true)
    (posting : Channel.Posting) :
    (m.doings posting).countP q = (m.effects.filter Effect.isAttempt).countP q := by
  rw [countP_filter_attempt hq, doings, List.countP_append]
  cases hout : m.outcome with
  | none => rfl
  | some o =>
    have hpost : q (.posted o posting) ≠ true := fun h => by cases hq _ h
    simp [hpost]

/-- A request is sent for a live worker, with the head that it keeps, built anew. -/
theorem Carriage.sent {carried : List Effect} (h : Carriage p openings w m carried)
    {head : RequestHead} {body : Stream} (hsent : .sent head body ∈ carried) :
    w.isLive = true ∧ head = w.request.rebuilt := by
  cases h with
  | nothing _ _ => cases hsent
  | initial hlive _ _ _ | fresh hlive _ _ _ _ _ | empty hlive _ _ _ _ =>
    simp only [List.mem_cons, List.not_mem_nil, or_false, reduceCtorEq, false_or] at hsent
    exact ⟨hlive, (Effect.sent.inj hsent).1⟩
  | unopened _ _ _ _ _ _ => simp at hsent

/-- Only an attempt after the first one asks for a copy again. -/
theorem Provided.reopened {pre : Operation.Preparation} {effects more carried : List Effect}
    (h : Provided pre p w effects) (hcarriage : Carriage p openings w m carried)
    (hrequests : more.countP Effect.isRequest = carried.countP Effect.isRequest)
    (hposted : more.filterMap Effect.posted? = m.outcome.toList) :
    reopened p pre.head (effects ++ more) =
      reopened p pre.head effects + carried.count .opened := by
  rw [← h.request]
  unfold Worker.reopened
  rw [List.countP_append, hrequests, List.filterMap_append, hposted, List.countP_append]
  cases hcarriage with
  | nothing _ hnot =>
    have hnone : m.outcome.toList.countP Outcome.isUnopened = 0 :=
      List.countP_eq_zero.mpr fun o ho => by simp [hnot o (Option.mem_toList.mp ho)]
    simp [hnone]
  | initial hlive hinitial _ hout =>
    -- The first request, for which the copy is there.
    rcases h.held hlive with ⟨_, _, _, hfirst⟩ | ⟨hnone, _⟩
    · simp [hout, hfirst, Effect.isRequest]
    · simp [hinitial] at hnone
  | fresh hlive hinitial hreplays _ _ hout =>
    rcases h.held hlive with ⟨_, _, hsome, _⟩ | ⟨_, hlater⟩
    · simp [hinitial] at hsome
    · simp only [hreplays, if_true, hout, Option.toList_none, List.countP_nil, List.countP_cons,
        Effect.isRequest, List.count_cons, List.count_nil]
      simp
      omega
  | empty _ _ hreplays _ _ => simp [hreplays]
  | unopened _ _ hreplays _ hout hunopened =>
    simp [hreplays, hout, hunopened, Effect.isRequest, Nat.add_assoc]

/-- Every move keeps what was provided in order. -/
theorem Provided.transition {pre : Operation.Preparation} {effects : List Effect}
    (h : Provided pre p w effects) (hmove : Transition p stop openings w s m)
    (hstop : ∀ e, stop = some e → e.code ≠ .bodyReplay) (posting : Channel.Posting) :
    Provided pre p m.worker (effects ++ m.doings posting) := by
  have hlawful := hmove.lawful
  have hgoing (hlive : m.worker.isLive = true) : w.isLive = true ∧ m.outcome = none := by
    rcases hlawful.progress with ⟨hnone, hsame⟩ | ⟨o, hends⟩
    · exact ⟨hsame ▸ hlive, hnone⟩
    · exact absurd hlive (by simp [hends.ended])
  have hcarriage := hmove.carriage hstop
  have hrequests := m.countP_doings (fun _ => Effect.isAttempt_of_isRequest) posting
  have hopened : (m.doings posting).count .opened =
      (m.effects.filter Effect.isAttempt).count .opened :=
    m.countP_doings (fun _ => Effect.isAttempt_of_opened) posting
  have hsent : ∀ head body, .sent head body ∈ m.doings posting →
      .sent head body ∈ m.effects.filter Effect.isAttempt := fun _ _ => Move.mem_doings_sent
  generalize m.effects.filter Effect.isAttempt = carried at hcarriage hrequests hopened hsent
  refine ⟨hlawful.request.trans h.request, fun hlive => h.started (hgoing hlive).1, fun hlive => ?_,
    fun head body hmem => ?_, fun o ho => ?_, ?_, ?_⟩
  · -- The copy is held until a request takes it.
    obtain ⟨hwas, _⟩ := hgoing hlive
    rw [List.countP_append, hrequests]
    cases hcarriage with
    | nothing hsame _ => simpa [hsame] using h.held hwas
    | initial _ _ hafter _ | fresh _ _ _ _ hafter _ | empty _ _ _ hafter _ =>
      exact .inr ⟨hafter, by simp [Effect.isRequest]⟩
    | unopened _ _ _ hended _ _ => exact absurd hlive (by simp [hended])
  · rcases List.mem_append.mp hmem with hmem | hmem
    · exact h.sent head body hmem
    · obtain ⟨hlive, rfl⟩ := hcarriage.sent (hsent head body hmem)
      exact ⟨by rw [h.request], h.started hlive⟩
  · rw [List.filterMap_append, hlawful.posted posting, List.mem_append] at ho
    rcases ho with ho | ho
    · exact h.reported o ho
    · rcases hlawful.progress with ⟨hnone, _⟩ | ⟨o', hends⟩
      · simp [hnone] at ho
      · obtain rfl : o = o' := by simpa [hends.outcome, eq_comm] using ho
        exact hends.request.trans h.request
  · rw [List.count_append, hopened, h.opened,
      h.reopened hcarriage hrequests (hlawful.posted posting), Nat.add_assoc]
  · -- Only the dispatch asks the interceptor.
    have hnone : (m.doings posting).filterMap Effect.consulted? = [] := by
      refine List.filterMap_eq_nil_iff.mpr fun x hx => ?_
      rcases List.mem_append.mp hx with hx | hx
      · exact Effect.consulted?_of_isOwn (hlawful.own x hx)
      · cases hout : m.outcome <;> simp [hout] at hx
        subst hx
        rfl
    rw [List.filterMap_append, hnone, List.append_nil, h.consulted]

/-- The body of a request: the copy that was held, a fresh copy, or nothing. -/
theorem Provided.body {pre : Operation.Preparation} {effects carried : List Effect}
    (h : Provided pre p w effects) (hcarriage : Carriage p openings w m carried)
    {head : RequestHead} {body : Stream} (hsent : .sent head body ∈ carried) :
    (effects.countP Effect.isRequest = 0 → pre.copy = .ok body) ∧
      (0 < effects.countP Effect.isRequest →
        if p.replays pre.head then
          p.body.openCopy openings = .ok body ∧ carried.count .opened = 1
        else body = []) := by
  rw [← h.request]
  cases hcarriage with
  | nothing _ _ => cases hsent
  | unopened _ _ _ _ _ _ => simp at hsent
  | initial hlive hinitial _ _ =>
    obtain ⟨_, rfl⟩ := Effect.sent.inj (List.mem_singleton.mp hsent)
    rcases h.held hlive with ⟨copy, hcopy, hsome, hfirst⟩ | ⟨hnone, _⟩
    · obtain rfl := Option.some.inj (hinitial.symm.trans hsome)
      exact ⟨fun _ => hcopy, fun hlater => absurd hfirst (Nat.ne_of_gt hlater)⟩
    · simp [hinitial] at hnone
  | fresh hlive hinitial hreplays hcopy _ _ =>
    obtain ⟨_, rfl⟩ := Effect.sent.inj ((List.mem_cons.mp hsent).resolve_left (by simp)
      |> List.mem_singleton.mp)
    rcases h.held hlive with ⟨_, _, hsome, _⟩ | ⟨_, hlater⟩
    · simp [hinitial] at hsome
    · exact ⟨fun hfirst => absurd hfirst (Nat.ne_of_gt hlater), fun _ => by simp [hreplays, hcopy]⟩
  | empty hlive hinitial hreplays _ _ =>
    obtain ⟨_, rfl⟩ := Effect.sent.inj (List.mem_singleton.mp hsent)
    rcases h.held hlive with ⟨_, _, hsome, _⟩ | ⟨_, hlater⟩
    · simp [hinitial] at hsome
    · exact ⟨fun hfirst => absurd hfirst (Nat.ne_of_gt hlater), fun _ => by simp [hreplays]⟩

/-- What is done for a target when its batch is dispatched is in order. -/
theorem provided_workerOf (pre : Operation.Preparation) (p : Plan) (client : Client)
    (policy : RetryPolicy) : Provided pre p (Engine.workerOf pre) (pre.doings client policy) := by
  have hunsent : (pre.doings client policy).filter Effect.isTrial = [] :=
    Engine.doings_trials _ _ _
  have hrequests : (pre.doings client policy).countP Effect.isRequest = 0 := by
    rw [← countP_filter_trial fun _ => Effect.isTrial_of_isRequest, hunsent]
    rfl
  have hopened : (pre.doings client policy).count .opened = pre.opened.toNat := by
    unfold Operation.Preparation.doings
    cases pre.intercepted <;> cases pre.opened <;> cases pre.copy <;> simp
  have hconsulted : (pre.doings client policy).filterMap Effect.consulted? =
      pre.intercepted.toList := by
    unfold Operation.Preparation.doings
    cases pre.intercepted <;> cases pre.opened <;> cases pre.copy <;> rfl
  have hnone (head : RequestHead) (body : Stream) :
      .sent head body ∉ pre.doings client policy := fun hmem =>
    List.filter_eq_nil_iff.mp hunsent _ hmem rfl
  -- The outcome of a target whose request could not be built tells of no attempt.
  have hreopened : reopened p pre.head (pre.doings client policy) = 0 := by
    unfold reopened
    rw [hrequests, pre.doings_posted, Operation.Preparation.failure?]
    cases pre.copy <;> simp [Outcome.isUnopened, Outcome.failed]
  have hreported : ∀ o ∈ (pre.doings client policy).filterMap Effect.posted?,
      o.request = pre.head := by
    rw [pre.doings_posted, Operation.Preparation.failure?]
    cases pre.copy <;> simp [Outcome.failed]
  unfold Engine.workerOf
  cases hcopy : pre.copy with
  | ok copy =>
    exact ⟨rfl, fun _ => by rw [hcopy]; rfl, fun _ => .inl ⟨copy, hcopy, rfl, hrequests⟩,
      fun head body hmem => absurd hmem (hnone head body), hreported,
      by rw [hopened, hreopened, Nat.add_zero], hconsulted⟩
  | error e =>
    exact ⟨rfl, by simp [isLive], by simp [isLive],
      fun head body hmem => absurd hmem (hnone head body), hreported,
      by rw [hopened, hreopened, Nat.add_zero], hconsulted⟩

end Worker

/-! ## §5 Runs -/

namespace Engine

open Operation

variable {client : Client} {now : Instant}

/-- To be stopped is no lack of a copy. -/
theorem stopFor_opened {b : Batch} {e : Engine} {w : Worker} {error : Error}
    (h : b.stopFor e w = some error) : error.code ≠ .bodyReplay := by
  rcases stopFor_reason h with hcode | hcode <;> simp [hcode]

/-- In every run, every target of a batch is provided with what its preparation says. -/
theorem run_provided (before after : List Event) {event : Event} {op : Operation}
    {targets : List Target} (hop : event.operation? = some op)
    (htargets : event.targets? = some targets) {i : Nat} {pre : Preparation}
    (hpre : (op.prepareAll client ((start client now).run before).1.openings targets)[i]? =
      some pre) :
    let done := (start client now).run (before ++ event :: after)
    let number := ((start client now).run before).1.batches.length
    ∃ b w, done.1.batches[number]? = some b ∧ b.workers[i]? = some w ∧
      b.plan.body = op.body ∧ w.Provided pre b.plan ((done.2.of number).effectsAt i) := by
  intro done number
  suffices hrun : ∃ b, done.1.batches[number]? = some b ∧ ∃ w, b.workers[i]? = some w ∧
      b.plan.body = op.body ∧ w.Provided pre b.plan ((done.2.of number).effectsAt i) by
    obtain ⟨b, hb, w, hrest⟩ := hrun
    exact ⟨b, w, hb, hrest⟩
  refine run_of_birth (P := fun b d => ∃ w, b.workers[i]? = some w ∧ b.plan.body = op.body ∧
    w.Provided pre b.plan (d.effectsAt i)) before after htargets ?_ ?_
  · intro b d hbirth
    have hclient : ((start client now).run before).1.client = client := run_client _ before
    obtain ⟨op', hop', hplan, hnew⟩ := hbirth.prepared
    obtain rfl := Option.some.inj (hop.symm.trans hop')
    rw [hclient] at hnew
    refine ⟨workerOf pre, by simp [hnew.workers, hpre], by rw [hplan]; rfl, ?_⟩
    rw [hnew.here i pre hpre]
    exact Worker.provided_workerOf pre _ _ _
  · rintro e b d after k ⟨w, hw, hbody, hprovided⟩ hmove
    rw [hmove.persists.plan, Doings.effectsAt_append]
    rcases hmove.at hw with ⟨hsame, hnothing⟩ | ⟨s, hworker, heffects⟩
    · exact ⟨w, hsame, hbody, by rwa [hnothing, List.append_nil]⟩
    · refine ⟨_, hworker, hbody, ?_⟩
      rw [heffects]
      exact hprovided.transition (Worker.step_transition _ _ _ _ _) (fun _ => stopFor_opened) _

/-- A signal counts the copies of a factory that its worker asks for. -/
theorem step_openings {e : Engine} {number i : Nat} {b : Batch} {w : Worker}
    (hb : e.batches[number]? = some b) (hw : b.workers[i]? = some w) (s : Signal) :
    (e.step (.signal number i s)).1.openings = e.openings +
      countOpenings b.plan.body
        ((w.step b.plan (b.stopFor e w) e.openings s).doings b.channel.posting) := by
  simp only [step, signal, hb, Batch.signal_eq e hw s]
  rfl

/-- **What is sent, and what is sent again.**  Take a target of a batch after any run.  Its
    interceptor was asked once if the URI of the target can be resolved, and never otherwise.  Every
    request for it has the method and the URI that the interceptor left, those of the operation and
    of the target where it left them as they were, and under every name the values that it left, and
    the outcome of the target tells of the same head.  A copy of the body was opened if the target
    passed the interceptor, and one more for every further attempt if the method sends the body
    again.  And whatever comes next, the first request carries the copy that was opened when it was
    built; a later one carries a fresh copy, if the method is one that sends the body again and there
    is a body, and nothing otherwise. -/
theorem run_carries (client : Client) (now : Instant) (before after : List Event) {event : Event}
    {op : Operation} {targets : List Target} (hop : event.operation? = some op)
    (htargets : event.targets? = some targets) {i : Nat} {t : Target}
    (ht : targets[i]? = some t) :
    let first := ((start client now).run before).1
    let number := first.batches.length
    let done := (start client now).run (before ++ event :: after)
    let effects := (done.2.of number).effectsAt i
    let outcomes := (done.2.of number).postedAt i
    let sent := done.2.requestsFor number i
    ∃ pre, (op.prepareAll client first.openings targets)[i]? = some pre ∧
      let replays := (pre.head.method == .post || pre.head.method == .put) && !op.body.isEmpty
      effects.filterMap Effect.consulted? =
        (if client.interceptor.isSome then op.shown? client t else none).toList ∧
      (∀ shown, op.shown? client t = some shown → pre.head = left client t shown) ∧
      (∀ head body, .sent head body ∈ effects → ∃ shown, op.shown? client t = some shown ∧
        head.Agrees (left client t shown) ∧
        ((left client t shown).method = shown.method → head.method = op.method) ∧
        ((left client t shown).uri = shown.uri → op.uriFor t = .ok head.uri) ∧
        ∀ o ∈ outcomes, o.request.Agrees head) ∧
      effects.count .opened = (op.passes client t).toNat +
        (if replays then sent - 1 + outcomes.countP Outcome.isUnopened else 0) ∧
      ∀ s head body,
        .sent head body ∈ ((done.1.step (.signal number i s)).2.of number).effectsAt i →
        (sent = 0 → pre.copy = .ok body) ∧
        (0 < sent →
          if replays then
            op.body.openCopy done.1.openings = .ok body ∧
              (op.body.isFactory = true →
                (done.1.step (.signal number i s)).1.openings = done.1.openings + 1)
          else body = []) := by
  intro first number done effects outcomes sent
  obtain ⟨pre, hpre⟩ : ∃ pre, (op.prepareAll client first.openings targets)[i]? = some pre := by
    have hlt : i < (op.prepareAll client first.openings targets).length := by
      rw [prepareAll_length]
      exact (List.getElem?_eq_some_iff.mp ht).1
    exact ⟨_, List.getElem?_eq_getElem hlt⟩
  have hprepared : Prepared op client t pre := by
    obtain ⟨t', openings, ht', rfl⟩ := prepareAll_getElem? op client hpre
    obtain rfl := Option.some.inj (ht.symm.trans ht')
    exact prepare_prepared op client t openings
  obtain ⟨b, w, hb, hw, hbody, hprovided⟩ := run_provided before after hop htargets hpre
  refine ⟨pre, hpre, ?_⟩
  intro replays
  have hreplays : b.plan.replays pre.head = replays := by
    simp only [Plan.replays, hbody, Method.replaysBody, replays]
  refine ⟨by rw [← hprepared.intercepted]; exact hprovided.consulted, hprepared.head, ?_, ?_, ?_⟩
  · intro head body hmem
    obtain ⟨rfl, hbuilt⟩ := hprovided.sent head body hmem
    obtain ⟨shown, hshown, hagrees, hmethod, huri⟩ := hprepared.agrees hbuilt
    refine ⟨shown, hshown, hagrees, hmethod, huri, fun o ho => ?_⟩
    rw [hprovided.reported o ho]
    exact pre.head.agrees_rebuilt
  · have hopened := hprovided.opened
    unfold Worker.reopened at hopened
    rw [hreplays, hprepared.opened] at hopened
    exact hopened
  · intro s head body hmem
    have hcarriage := (Worker.step_transition b.plan (b.stopFor done.1 w) done.1.openings w
      s).carriage fun _ => stopFor_opened
    rw [(step_share hb _).2, (b.react_told done.1 number hw s).2] at hmem
    obtain ⟨hfirst, hlater⟩ := hprovided.body hcarriage (Worker.Move.mem_doings_sent hmem)
    refine ⟨hfirst, fun hsent => ?_⟩
    have hbody' := hlater hsent
    rw [hreplays, hbody] at hbody'
    split
    · rename_i hagain
      rw [if_pos hagain] at hbody'
      refine ⟨hbody'.1, fun hfactory => ?_⟩
      have hcount := Worker.Move.countP_doings (m := w.step b.plan (b.stopFor done.1 w)
        done.1.openings s) (fun _ => Effect.isAttempt_of_opened) b.channel.posting
      rw [step_openings hb hw s, countOpenings, hbody, if_pos hfactory]
      exact congrArg (done.1.openings + ·) (hcount.trans hbody'.2)
    · rename_i hagain
      rwa [if_neg hagain] at hbody'

/-- A client whose interceptor adds two values of one name, and refuses the target of index two. -/
def tagging : Client :=
  { (ClientBuilder.ofConfig .standard).build with
    interceptor := some fun t head =>
      ⟨{ head with headers := (head.headers.append ⟨"x-tag"⟩ ⟨"a"⟩).append ⟨"x-tag"⟩ ⟨"b"⟩ },
        if t.index = 2 then some (.custom "no") else none⟩ }

/-- A body that is another one on every opening. -/
def numbered : Operation :=
  { Operation.new .put "x" with body := .factory fun n => .ok [.data [UInt8.ofNat n]] }

/-- Three targets: the second one has no URI, and the third one is refused. -/
def taggedTargets : List Target := [⟨0, "http://a"⟩, ⟨1, "::"⟩, ⟨2, "http://c"⟩]

/-- The first target is not reached at its first attempt. -/
def taggedEvents : List Event :=
  [.signal 0 0 .turn, .signal 0 0 .turn, .signal 0 0 (.answer (.failure (.client .connect [])))]

/-- The first of `taggedTargets` is sent the second copy of the body at its second attempt, and both
    values of the name that the interceptor added are sent. -/
theorem run_carries_tagged :
    let done := (start tagging ⟨0⟩).run (.dispatch numbered taggedTargets :: taggedEvents)
    let next := done.1.step (.signal 0 0 .turn)
    done.2.requestsFor 0 0 = 1 ∧
      (∃ shown, ((done.2.of 0).effectsAt 0).filterMap Effect.consulted? = [shown]) ∧
      (∃ head body, .sent head body ∈ (done.2.of 0).effectsAt 0 ∧
        head.headers.values ⟨"x-tag"⟩ = [⟨"a"⟩, ⟨"b"⟩]) ∧
      ((done.2.of 0).effectsAt 0).count .opened = 1 ∧
      (∃ head, .sent head [.data [1]] ∈ (next.2.of 0).effectsAt 0) ∧ next.1.openings = 2 := by
  intro done next
  have hop : (Event.dispatch numbered taggedTargets).operation? = some numbered := rfl
  have htarget : taggedTargets[0]? = some ⟨0, "http://a"⟩ := rfl
  obtain ⟨pre, hpre, hconsulted, _, hsent, hopened, hbody⟩ :=
    run_carries tagging ⟨0⟩ [] taggedEvents hop rfl htarget
  have hrequests : done.2.requestsFor 0 0 = 1 := by decide +kernel
  have hshown : ((numbered.shown? tagging ⟨0, "http://a"⟩).any fun shown =>
      (left tagging ⟨0, "http://a"⟩ shown).headers.values ⟨"x-tag"⟩ == [⟨"a"⟩, ⟨"b"⟩]) = true := by
    decide +kernel
  obtain ⟨shown, hshown, hvalues⟩ := (Option.any_eq_true _ _).mp hshown
  have hfirst : (((done.2.of 0).effectsAt 0).any Effect.isRequest) = true := by decide +kernel
  have hsecond : (((next.2.of 0).effectsAt 0).any Effect.isRequest) = true := by decide +kernel
  have hopenings : done.1.openings = 1 := by decide +kernel
  have hput : pre.head.method = .put := by
    have hmethod : (numbered.prepareAll tagging 0 taggedTargets)[0]?.map (·.head.method) =
      some .put := by decide +kernel
    rw [show (numbered.prepareAll tagging 0 taggedTargets)[0]? = some pre from hpre] at hmethod
    exact Option.some.inj hmethod
  rw [hput] at hopened
  simp only [hput] at hbody
  refine ⟨hrequests, ⟨shown, hconsulted.trans ?_⟩, ?_, hopened.trans ?_, ?_⟩
  · rw [hshown]
    rfl
  · obtain ⟨x, hx, hrequest⟩ := List.any_eq_true.mp hfirst
    cases x with
    | sent head body =>
      obtain ⟨shown', hshown', hagrees, _⟩ := hsent head body hx
      obtain rfl := Option.some.inj (hshown.symm.trans hshown')
      exact ⟨head, body, hx, (hagrees.values _).trans (eq_of_beq hvalues)⟩
    | _ => cases hrequest
  · decide +kernel
  · obtain ⟨x, hx, hrequest⟩ := List.any_eq_true.mp hsecond
    cases x with
    | sent head body =>
      obtain ⟨hcopy, hcount⟩ := (hbody .turn head body hx).2 (Nat.lt_of_lt_of_eq Nat.one_pos
        hrequests.symm)
      have hcopy : numbered.body.openCopy done.1.openings = .ok body := hcopy
      rw [hopenings] at hcopy
      obtain rfl := Except.ok.inj hcopy
      exact ⟨⟨head, hx⟩, (hcount rfl).trans (congrArg (· + 1) hopenings)⟩
    | _ => cases hrequest

/-- A client whose interceptor puts one request in the place of every other. -/
def replacing : Client :=
  { (ClientBuilder.ofConfig .standard).build with
    interceptor := some fun _ head =>
      ⟨⟨.delete, ⟨some ("http".toList, "b".toList), ['/'], none⟩, head.headers⟩, none⟩ }

/-- An interceptor may leave neither the method nor the URI as they were: the request that is sent is
    the one that it leaves. -/
theorem replaced_head_is_sent :
    let done := (start replacing ⟨0⟩).run
      [.dispatch numbered taggedTargets, .signal 0 0 .turn, .signal 0 0 .turn]
    ∃ head body, .sent head body ∈ (done.2.of 0).effectsAt 0 ∧ head.method ≠ numbered.method ∧
      numbered.uriFor ⟨0, "http://a"⟩ ≠ .ok head.uri := by
  intro done
  have hdone : (((done.2.of 0).effectsAt 0).any fun x => x.sent?.any fun head =>
      head.method == .delete && head.uri.authority == "b".toList) = true := by
    decide +kernel
  have hplace : (numbered.uriFor ⟨0, "http://a"⟩).toOption.map Uri.authority =
      some "a".toList := by
    decide +kernel
  obtain ⟨x, hx, hsent⟩ := List.any_eq_true.mp hdone
  cases x with
  | sent head body =>
    obtain ⟨hmethod, huri⟩ := (Bool.and_eq_true _ _).mp hsent
    refine ⟨head, body, hx, ?_, fun hsame => ?_⟩
    · rw [eq_of_beq hmethod]
      decide
    · simp [hsame, Except.toOption, eq_of_beq huri] at hplace
  | _ => cases hsent

end Engine

end Replicast
