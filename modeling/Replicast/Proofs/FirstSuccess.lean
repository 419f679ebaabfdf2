import Replicast.Proofs.Agreement.Course
import Replicast.Proofs.Verdicts
/-!
# The first success

A reducer that is after the first success returns the earliest outcome, in the order of the posts,
that is accepted.  A drain that is told the same outcomes would have accepted that one first, and it
reports as many failures as there are targets exactly when there is no success to return.

## Overview

* `Doings.delivered` are the outcomes that reached the channel, and `Batch.Delivered` relates them
  to those that were posted and those that were taken.
* `Reducer.first_result` is what a search for the first success returns.
* `Reducer.Beside` says when a drain and a search are told the same.
* `Reducer.first_finds` is the result.
-/

namespace Replicast

/-! ## §1 Outcomes that reach the channel -/

/-- The outcome that an effect puts into the channel. -/
def Effect.delivered? : Effect → Option Outcome
  | .posted o .delivered => some o
  | _ => none

/-- The outcomes that reached the channel, in order. -/
def Doings.delivered (d : Doings) : List Outcome := d.filterMap fun x => x.2.delivered?

@[simp] theorem Doings.delivered_append (d k : Doings) :
    (d ++ k).delivered = d.delivered ++ k.delivered :=
  List.filterMap_append

/-- What is posted reaches the channel, all of it or nothing. -/
theorem Doings.delivered_eq {d : Doings} {isOpen : Bool}
    (h : ∀ place o posting, (place, .posted o posting) ∈ d →
      posting = if isOpen then .delivered else .unread) :
    d.delivered = if isOpen then d.posted else [] := by
  have heach : ∀ x ∈ d, x.2.delivered? = if isOpen then x.2.posted? else none := by
    rintro ⟨place, effect⟩ hx
    cases effect with
    | posted o posting =>
      obtain rfl := h place o posting hx
      cases isOpen <;> rfl
    | _ => cases isOpen <;> rfl
  rw [delivered, List.filterMap_congr heach]
  cases isOpen
  · simp
  · rfl

namespace Batch

variable {b after : Batch} {d k : Doings}

/-- The outcomes that reached the channel of a batch are those that were posted while it was read,
    and what was taken comes from them. -/
structure Delivered (b : Batch) (d : Doings) : Prop where
  flow : b.channel.isOpen = true → d.delivered = d.posted
  taken : d.consumed <+: d.delivered
  posted : d.delivered <+: d.posted

/-- Whatever a turn does, it does while the channel is read. -/
theorem Ledger.isOpen_of_turn {c : Clock} {tokens : List String} {effects : List Effect}
    (h : b.Ledger d) (hturn : b.Turn c tokens after effects) :
    (after = b ∧ effects = []) ∨ b.channel.isOpen = true := by
  cases hturn with
  | idle => exact .inl ⟨rfl, rfl⟩
  | complete hstage _ | cutShort hstage _ _ | take hstage _ _ _ =>
    exact .inr (h.reducing _ _ hstage).1

/-- A move posts into the channel as it finds it. -/
theorem Ledger.posting_of_move {e : Engine} {place : Option Nat} {o : Outcome}
    {posting : Channel.Posting} (h : b.Ledger d) (hmove : b.Move e after k)
    (hpost : (place, .posted o posting) ∈ k) :
    posting = if b.channel.isOpen then .delivered else .unread := by
  -- Only a signal posts anything.
  cases hmove with
  | rest | begin _ => cases hpost
  | cancel => cases List.mem_singleton.mp hpost
  | signal position s =>
    obtain ⟨effect, hx, heq⟩ := List.mem_map.mp hpost
    obtain ⟨-, rfl⟩ := Prod.mk.inj heq
    cases hw : b.workers[position]? with
    | none =>
      rw [signal_of_none e hw s] at hx
      cases hx
    | some w =>
      have hm := (Worker.step_transition b.plan (b.stopFor e w) e.openings w s).lawful
      rw [signal_eq e hw s] at hx
      rcases List.mem_append.mp hx with hx | hx
      · cases hm.own _ hx
      -- Only a worker that was live has an outcome.
      rcases hm.progress with ⟨hnone, -⟩ | ⟨o', hends⟩
      · simp [hnone] at hx
      · simp only [hends.outcome, Option.elim_some, List.mem_singleton] at hx
        obtain ⟨-, rfl⟩ := Effect.posted.inj hx
        exact h.posting (List.mem_of_getElem? hw) hends.wasLive
  | poll hturn =>
    obtain ⟨effect, hx, heq⟩ := List.mem_map.mp hpost
    obtain ⟨-, rfl⟩ := Prod.mk.inj heq
    cases List.filterMap_eq_nil_iff.mp hturn.posts_nothing _ hx
  | drop =>
    obtain ⟨effect, hx, heq⟩ := List.mem_map.mp hpost
    obtain ⟨-, rfl⟩ := Prod.mk.inj heq
    obtain ⟨event, hevent⟩ := drop_effects b _ hx
    cases hevent

/-- A channel that is not read any more stays so. -/
theorem Ledger.isOpen_of_move {e : Engine} (h : b.Ledger d) (hmove : b.Move e after k)
    (hopen : after.channel.isOpen = true) : b.channel.isOpen = true := by
  cases hmove with
  | rest => exact hopen
  | signal position s =>
    cases hw : b.workers[position]? with
    | none => simpa [signal_of_none e hw s] using hopen
    | some w =>
      rw [signal_eq e hw s] at hopen
      cases hout : (w.step b.plan (b.stopFor e w) e.openings s).outcome with
      | none => simpa [hout] using hopen
      | some o =>
        simp only [hout, Option.elim_some, Channel.post] at hopen
        split at hopen <;> exact hopen
  | cancel => simpa using hopen
  | begin goal =>
    unfold Batch.begin at hopen
    split at hopen <;> exact hopen
  | poll hturn =>
    -- Whatever a turn leaves, the channel was read when it began.
    rcases h.isOpen_of_turn hturn with ⟨rfl, -⟩ | hread
    · exact hopen
    · exact hread
  | drop =>
    unfold Batch.drop at hopen
    split at hopen
    · simp [Channel.close] at hopen
    · simp [Channel.close] at hopen
    · exact hopen
    · exact hopen

theorem Delivered.move {e : Engine} (h : Delivered b d) (hledger : b.Ledger d)
    (hmove : b.Move e after k) : Delivered after (d ++ k) := by
  have hdelivered := Doings.delivered_eq fun _ _ _ hpost => hledger.posting_of_move hmove hpost
  cases hread : b.channel.isOpen with
  | true =>
    -- What is posted is delivered, so that the ledger says the rest.
    have hsame : (d ++ k).delivered = (d ++ k).posted := by
      rw [Doings.delivered_append, Doings.posted_append, h.flow hread, hdelivered, if_pos hread]
    exact ⟨fun _ => hsame, hsame ▸ (hledger.move hmove).taken, hsame ▸ List.prefix_rfl⟩
  | false =>
    -- Nothing is delivered any more, and nothing is taken.
    have hclosed : after.channel.isOpen ≠ true := fun hopen => by
      rw [hledger.isOpen_of_move hmove hopen] at hread
      cases hread
    have hsame : (d ++ k).delivered = d.delivered := by
      rw [Doings.delivered_append, hdelivered, if_neg (by simp [hread]), List.append_nil]
    have htaken : k.consumed = [] := by
      rcases hmove.beside with ⟨effects, rfl, hturn⟩ | ⟨hconsumed, -⟩
      · rcases hledger.isOpen_of_turn hturn with ⟨-, rfl⟩ | hopen
        · rfl
        · rw [hopen] at hread
          cases hread
      · exact hconsumed
    refine ⟨fun hopen => absurd hopen hclosed, ?_, ?_⟩
    · rw [hsame, Doings.consumed_append, htaken, List.append_nil]
      exact h.taken
    · rw [hsame, Doings.posted_append]
      exact h.posted.trans (List.prefix_append _ _)

/-- The failures of a dispatch find room in the channel. -/
theorem delivered_of_newborn {e : Engine} {targets : List Target}
    {preparations : List Operation.Preparation}
    (h : Engine.Newborn e targets b d preparations) : Delivered b d := by
  have hpostings : ∀ place o posting, (place, .posted o posting) ∈ d →
      posting = if true then .delivered else .unread := by
    intro place o posting hpost
    have hdispatching := h.dispatching _ hpost
    cases posting with
    | delivered => rfl
    | full | unread => cases hdispatching
  have hsame : d.delivered = d.posted := (Doings.delivered_eq hpostings).trans (if_pos rfl)
  refine ⟨fun _ => hsame, ?_, hsame ▸ List.prefix_rfl⟩
  rw [h.consumed]
  exact List.nil_prefix

end Batch

theorem Engine.run_delivered {client : Client} {now : Instant} (events : List Event) {number : Nat}
    {b : Batch} (hb : ((start client now).run events).1.batches[number]? = some b) :
    b.Delivered (((start client now).run events).2.of number) :=
  (run_invariant (P := fun b d => b.Ledger d ∧ b.Delivered d)
    (fun _ _ _ _ _ hbirth =>
      let ⟨_, hnew⟩ := hbirth.newborn
      ⟨Batch.ledger_of_newborn hnew, Batch.delivered_of_newborn hnew⟩)
    (fun _ _ _ _ _ h hmove => ⟨h.1.move hmove, h.2.move h.1 hmove⟩) events hb).2

/-! ## §2 Searches -/

/-- The failures that a result reports. -/
def Reduction.failures : Reduction → List Error
  | .failed e => e.errors
  | _ => []

open Engine

namespace Reducer

variable {r w : Reducer} {b b' : Batch} {result told : Reduction}

/-- What a search for the first success may have returned: the outcome that it took last, or nothing
    but failures. -/
inductive Found (b : Batch) (d : Doings) : Reduction → Prop where
  | accepted {declined : List Outcome} {o : Outcome} :
      d.consumed = declined ++ [o] → (∀ x ∈ declined, x.isAccepted b.handler = false) →
      o.isAccepted b.handler = true → Found b d (.first o)
  | declined :
      (∀ x ∈ d.consumed, x.isAccepted b.handler = false) →
      Found b d (.failed ⟨Handler.failures b.handler d.consumed, b.size,
        d.consumed.length < b.size⟩)

theorem first_result (hbegins : r.Begins b) (hgoal : r.goal = .first)
    (hreturns : r.Returns result) : Found b r.doings result := by
  obtain ⟨later, hlater, hkept, hjudging⟩ := judging hbegins (by rw [hgoal]; rfl)
  obtain ⟨last, hlast, hstage⟩ := hreturns
  obtain rfl := Option.some.inj (hlater.symm.trans hlast)
  have hcourse := hjudging.course
  rw [hgoal] at hcourse
  cases hcourse with
  | going hgoing _ _ => rw [hstage] at hgoing; cases hgoing
  | accepted _ hreduced htaken hnone haccept =>
    rw [hstage] at hreduced
    obtain rfl := Stage.reduced.inj hreduced
    rw [hkept.handler] at hnone haccept
    exact .accepted htaken hnone haccept
  | returned hreduced hnone =>
    rw [hstage, Batch.resultOf_congr hkept.size, hkept.size, hkept.handler] at hreduced
    obtain rfl := Stage.reduced.inj hreduced
    rw [hkept.handler] at hnone
    exact .declined (hnone rfl)
  | dropped hdropped => rw [hstage] at hdropped; cases hdropped

/-- What a reducer has taken reached the channel before, and no more did than there are targets. -/
theorem taken_delivered (hbegins : r.Begins b) :
    r.doings.consumed <+: r.doings.delivered ∧ r.doings.delivered <+: r.doings.posted ∧
      r.doings.consumed <+: r.doings.posted ∧ r.doings.delivered.length ≤ b.size := by
  obtain ⟨later, hlater, hkept⟩ := run_persists (.reduce r.number r.goal :: r.after) hbegins.there
  have hthere : r.run.1.batches[r.number]? = some later := by
    rw [Reducer.run, Reducer.events, run_append]
    exact hlater
  have hdelivered := run_delivered r.events hthere
  have hledger := run_ledger r.events hthere
  exact ⟨hdelivered.taken, hdelivered.posted, hledger.taken,
    hkept.size ▸ Nat.le_trans hdelivered.posted.length_le hledger.posted_le⟩

/-! ## §3 Searches and drains -/

/-- A drain and a search that have one handler and as many targets.  The outcomes reach their
    channels in one order, as far as they do, and neither of them is cut short. -/
structure Beside (w : Reducer) (b' : Batch) (r : Reducer) (b : Batch) : Prop where
  drains : w.goal = .drain
  begins : w.Begins b'
  handler : b'.handler = b.handler
  size : b'.size = b.size
  alike : Alike w.doings.delivered r.doings.delivered
  drainWhole : ¬ w.IsCutShort b'
  searchWhole : ¬ r.IsCutShort b

/-- A drain that has returned, and was not cut short, has taken what ever reached the channel. -/
theorem consumed_of_drain (hbegins : w.Begins b') (hgoal : w.goal = .drain)
    (hreturns : w.Returns told) (hwhole : ¬ w.IsCutShort b') :
    w.doings.consumed.length = b'.size ∧ w.doings.consumed = w.doings.delivered := by
  have hresult := drain_result hbegins hgoal hreturns
  have hcut : w.IsCutShort b' ↔ w.doings.consumed.length < b'.size :=
    isCutShort_iff hbegins hreturns fun o ho => by
      rw [hresult, Batch.resultOf] at ho
      split at ho <;> cases ho
  have hall : b'.size ≤ w.doings.consumed.length := Nat.not_lt.mp fun h => hwhole (hcut.mpr h)
  obtain ⟨htaken, -, -, hle⟩ := taken_delivered hbegins
  have hsame := htaken.eq_of_length_le (Nat.le_trans hle hall)
  exact ⟨Nat.le_antisymm (hsame ▸ hle) hall, hsame⟩

/-- What the search has taken is how the drain began. -/
theorem Beside.consumed (h : Beside w b' r b) (hbegins : r.Begins b) (htold : w.Returns told) :
    r.doings.consumed <+: w.doings.consumed := by
  obtain ⟨hlength, hsame⟩ := consumed_of_drain h.begins h.drains htold h.drainWhole
  obtain ⟨htaken, -, -, hle⟩ := taken_delivered hbegins
  rw [hsame]
  rcases h.alike with halike | halike
  · -- The drain has taken an outcome of every target, so that the search was told no more.
    have hlong : r.doings.delivered.length ≤ w.doings.delivered.length := by
      rw [← hsame, hlength, h.size]
      exact hle
    rwa [halike.eq_of_length_le hlong]
  · exact htaken.trans halike

theorem failures_of_drain (hbegins : w.Begins b') (hgoal : w.goal = .drain)
    (hreturns : w.Returns told) :
    told.failures = Handler.failures b'.handler w.doings.consumed := by
  rw [drain_result hbegins hgoal hreturns, Batch.resultOf]
  split
  · exact (List.isEmpty_iff.mp ‹_›).symm
  · rfl

/-- A search and a drain beside it: nothing but failures, and the same ones, or the first outcome
    that the drain accepts. -/
theorem Beside.agree (h : Beside w b' r b) (hbegins : r.Begins b) (hgoal : r.goal = .first)
    (htold : w.Returns told) (hreturns : r.Returns result) :
    (told.failures.length = b.size ∧ ∃ e, result = .failed e ∧ e.errors = told.failures) ∨
      (told.failures.length ≠ b.size ∧ ∃ o, result = .first o ∧
        w.doings.consumed.find? (·.isAccepted b.handler) = some o) := by
  have hbegan := h.consumed hbegins htold
  obtain ⟨hlength, -⟩ := consumed_of_drain h.begins h.drains htold h.drainWhole
  rw [failures_of_drain h.begins h.drains htold, h.handler]
  rw [h.size] at hlength
  cases first_result hbegins hgoal hreturns with
  | @accepted declined o htaken hnone haccept =>
    obtain ⟨rest, hrest⟩ := hbegan
    rw [htaken, List.append_assoc, List.singleton_append] at hrest
    refine .inr ⟨fun hfailures => ?_, o, rfl, ?_⟩
    · -- As many failures as outcomes: the one that was accepted is among them.
      have hmem : o ∈ w.doings.consumed := by simp [← hrest]
      have hdeclined := Handler.length_failures.mp (hfailures.trans hlength.symm) o hmem
      rw [haccept] at hdeclined
      cases hdeclined
    · rw [List.find?_eq_some_iff_append]
      exact ⟨haccept, declined, rest, hrest.symm, fun x hx => by simp [hnone x hx]⟩
  | declined hnone =>
    -- The search has gone on to the end, as the drain has.
    have hcut := isCutShort_iff hbegins hreturns (by simp)
    have hall : b.size ≤ r.doings.consumed.length :=
      Nat.not_lt.mp fun hless => h.searchWhole (hcut.mpr hless)
    have hsame := hbegan.eq_of_length_le (hlength ▸ hall)
    refine .inl ⟨?_, _, rfl, ?_⟩
    · rw [← hsame, Handler.length_failures.mpr hnone, hsame, hlength]
    · rw [← hsame]

/-- **A search returns the first success, and agrees with a drain.**  The outcomes are taken in the
    order in which they were posted, so that each was taken after all that were posted before it,
    and the handler is asked about each that is taken, once and in order.  A success that is
    returned is the earliest outcome in the order of the posts that is accepted, and the last that
    was taken.  Without one, all that was taken was declined; the error holds these failures in
    order, and says that it was interrupted exactly when they are fewer than the targets.  Nothing
    else is returned.  A search that has nothing to wait for comes to its end by its own turns, and
    every search does so when it has waited for the timer for the deadline.

    A drain that is told the same reports as many failures as there are targets exactly when the
    search has failed, and they are the same failures; otherwise the search has returned the first
    outcome that the drain accepts. -/
theorem first_finds (r : Reducer) {b : Batch} (hbegins : r.Begins b) (hgoal : r.goal = .first) :
    r.doings.answers = Handler.answers b.handler r.doings.consumed ∧
      r.doings.consumed <+: r.doings.posted ∧
      (∀ o, r.Returns (.first o) →
        r.doings.posted.find? (·.isAccepted b.handler) = some o ∧
        ∃ declined, r.doings.consumed = declined ++ [o] ∧
          ∀ x ∈ declined, x.isAccepted b.handler = false) ∧
      (∀ e, r.Returns (.failed e) →
        (∀ x ∈ r.doings.consumed, x.isAccepted b.handler = false) ∧
        e.errors = Handler.failures b.handler r.doings.consumed ∧ e.dispatched = b.size ∧
        (e.interrupted = true ↔ e.errors.length < e.dispatched) ∧
        (e.interrupted = true ↔ r.IsCutShort b)) ∧
      (∀ result, r.Returns result → (∃ o, result = .first o) ∨ ∃ e, result = .failed e) ∧
      (∀ later progress, r.run.1.batches[r.number]? = some later →
        later.stage = .reducing r.goal progress →
        (later.hasLive = false ∨ later.isAlarmed r.run.1.toClock r.run.1.tokens = true →
          ∃ turns result, (r.more (List.replicate turns (.poll r.number))).Returns result) ∧
        ∃ wait turns result, (r.more
          (.advance wait :: .tick :: List.replicate turns (.poll r.number))).Returns result) ∧
      ∀ (w : Reducer) (b' : Batch), Beside w b' r b →
        ∀ told result, w.Returns told → r.Returns result →
          ((∃ e, result = .failed e) ↔ told.failures.length = b.size) ∧
          (∀ e, result = .failed e → e.errors = told.failures) ∧
          (told.failures.length ≠ b.size → ∃ o, result = .first o ∧
            w.doings.consumed.find? (·.isAccepted b.handler) = some o) := by
  obtain ⟨later, hlater, hkept, hjudging⟩ := judging hbegins (by rw [hgoal]; rfl)
  have hposted : r.doings.consumed <+: r.doings.posted := (taken_delivered hbegins).2.2.1
  refine ⟨hkept.handler ▸ hjudging.answers, hposted, fun o hreturns => ?_, fun e hreturns => ?_,
    fun result hreturns => ?_, fun _ _ hthere hstage => returns_more hthere hstage,
    fun w b' hbeside told result htold hreturns => ?_⟩
  · cases first_result hbegins hgoal hreturns with
    | @accepted declined _ htaken hnone haccept =>
    obtain ⟨rest, hrest⟩ := hposted
    rw [htaken, List.append_assoc, List.singleton_append] at hrest
    refine ⟨?_, declined, htaken, hnone⟩
    rw [List.find?_eq_some_iff_append]
    exact ⟨haccept, declined, rest, hrest.symm, fun x hx => by simp [hnone x hx]⟩
  · have hcut := isCutShort_iff hbegins hreturns (by simp)
    cases first_result hbegins hgoal hreturns with
    | declined hnone =>
    refine ⟨hnone, rfl, rfl, ?_, ?_⟩
    · rw [Handler.length_failures.mpr hnone]
      exact decide_eq_true_iff
    · rw [hcut]
      exact decide_eq_true_iff
  · cases first_result hbegins hgoal hreturns with
    | accepted _ _ _ => exact .inl ⟨_, rfl⟩
    | declined _ => exact .inr ⟨_, rfl⟩
  · rcases hbeside.agree hbegins hgoal htold hreturns with
      ⟨hall, e, rfl, herrors⟩ | ⟨hsome, o, rfl, hfirst⟩
    · refine ⟨⟨fun _ => hall, fun _ => ⟨e, rfl⟩⟩, fun e' he => ?_, fun hne => absurd hall hne⟩
      obtain rfl := Reduction.failed.inj he
      exact herrors
    · exact ⟨⟨by simp, fun hall => absurd hall hsome⟩, by simp, fun _ => ⟨o, rfl, hfirst⟩⟩

/-- Three targets: the first has a panic, and the second answers. -/
def oneAnswer : List Event :=
  [.signal 0 0 .turn, .signal 0 1 .turn, .signal 0 2 .turn, .signal 0 0 .turn, .signal 0 1 .turn,
    .signal 0 2 .turn, .signal 0 0 .panic,
    .signal 0 1 (.answer (.response ⟨Status.ok, .http11, Header.Map.empty⟩)), .signal 0 1 .bodyEnd]

/-- A reducer of a batch of three whose handler accepts successes. -/
def ofThree (goal : Goal) (after : List Event) : Reducer where
  client := (ClientBuilder.ofConfig .standard).build
  now := ⟨0⟩
  before := [.dispatch { Operation.new .get "x" with handler := some Handler.successStatus }
    [⟨0, "http://a"⟩, ⟨1, "http://b"⟩, ⟨2, "http://c"⟩]]
  number := 0
  goal
  after

/-- The search returns while the third target has not answered. -/
def searching : Reducer := ofThree .first (oneAnswer ++ [.poll 0, .poll 0])

/-- The drain waits for the third target, which answers as well. -/
def draining : Reducer :=
  ofThree .drain (oneAnswer ++
    [.signal 0 2 (.answer (.response ⟨Status.ok, .http11, Header.Map.empty⟩)), .signal 0 2 .bodyEnd,
      .poll 0, .poll 0, .poll 0, .poll 0])

/-- The search returns the answer of the second target, which is the first outcome that the drain
    accepts; the drain reports one failure. -/
theorem first_finds_second :
    ∃ b o told, searching.Begins b ∧ Beside draining b searching b ∧
      searching.Returns (.first o) ∧ draining.Returns told ∧ told.failures.length ≠ b.size ∧
      searching.doings.answers = [(0, false), (1, true)] ∧
      searching.doings.posted.find? (·.isAccepted b.handler) = some o ∧
      draining.doings.consumed.map (·.target.index) = [0, 1, 2] ∧
      draining.doings.consumed.find? (·.isAccepted b.handler) = some o := by
  obtain ⟨b, hbegins, hsize⟩ : ∃ b, searching.Begins b ∧ b.size = 3 :=
    exists_begins (by decide +kernel)
  have hdrains : draining.Begins b := ⟨hbegins.there, hbegins.kept⟩
  have hbeside : Beside draining b searching b :=
    { drains := rfl
      begins := hdrains
      handler := rfl
      size := rfl
      alike := by decide +kernel
      drainWhole := not_isCutShort (by decide +kernel) b
      searchWhole := not_isCutShort (by decide +kernel) b }
  obtain ⟨result, hreturns⟩ : ∃ result, searching.Returns result :=
    exists_returns (by decide +kernel)
  obtain ⟨told, htold⟩ : ∃ told, draining.Returns told := exists_returns (by decide +kernel)
  obtain ⟨hanswers, -, hfound, hfailed, -, -, hagree⟩ := first_finds searching hbegins rfl
  obtain ⟨hall, -, hfirst⟩ := hagree draining b hbeside told result htold hreturns
  have hasked : searching.doings.answers = [(0, false), (1, true)] := by decide +kernel
  -- The answer of the second target was accepted, so that the search has not failed.
  have hsome : told.failures.length ≠ b.size := fun hlength => by
    obtain ⟨e, rfl⟩ := hall.mpr hlength
    have hmem : (1, true) ∈ Handler.answers b.handler searching.doings.consumed := by
      rw [← hanswers, hasked]
      simp
    obtain ⟨o, ho, haccept⟩ := Handler.mem_of_mem_answers hmem
    rw [(hfailed e hreturns).1 o ho] at haccept
    cases haccept
  obtain ⟨o, rfl, hsame⟩ := hfirst hsome
  exact ⟨b, o, told, hbegins, hbeside, hreturns, htold, hsome, hasked, (hfound o hreturns).1,
    by decide +kernel, hsame⟩

end Reducer

end Replicast
