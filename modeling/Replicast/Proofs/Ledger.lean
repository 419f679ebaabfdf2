import Replicast.Proofs.Engine.Position
/-!
# The ledger of a channel

Each live worker of a batch owes one outcome.  What was posted is what the reducer took followed by
what still waits in the channel, so that the channel, which has room for an outcome of every target,
is never full when a worker posts.

## Overview

* `Batch.Ledger` relates the workers, the channel and the stage of a batch to what the batch did.
* `Engine.run_ledger` says that the ledger of every batch is right in every run.
-/

namespace Replicast

namespace Batch

/-- The ledger of a batch. -/
structure Ledger (b : Batch) (d : Doings) : Prop where
  capacity : b.channel.capacity = max b.size 1
  /-- Every worker has posted or is still live. -/
  owed : d.posted.length + b.workers.countP Worker.isLive = b.size
  /-- While the channel is read, nothing is lost in it. -/
  flow : b.channel.isOpen = true → d.posted = d.consumed ++ b.channel.queue
  taken : d.consumed <+: d.posted
  noOverflow : ∀ x ∈ d, x.2.isOverflow = false
  placed : ∀ x ∈ d, x.2.posted? ≠ none → ∃ i < b.size, x.1 = some i
  kept : b.stage = .kept → b.channel.isOpen = true ∧ d.consumed = []
  reducing : ∀ goal progress, b.stage = .reducing goal progress →
    b.channel.isOpen = true ∧ d.consumed = progress.consumed

variable {b after : Batch} {d : Doings}

/-! ## §1 The beginning -/

/-- A worker is live exactly when its request could be built. -/
theorem isLive_workerOf (p : Operation.Preparation) :
    (Engine.workerOf p).isLive = p.failure?.isNone := by
  unfold Engine.workerOf Operation.Preparation.failure?
  cases p.copy <;> rfl

theorem countP_workerOf (preparations : List Operation.Preparation) :
    (preparations.filterMap Operation.Preparation.failure?).length +
        (preparations.map Engine.workerOf).countP Worker.isLive = preparations.length := by
  -- Each preparation leads to a failure or to a live worker, and never to both.
  induction preparations with
  | nil => rfl
  | cons p rest ih =>
    cases hp : p.failure? with
    | none =>
      have hlive : (Engine.workerOf p).isLive = true := by simp [isLive_workerOf, hp]
      simp only [List.filterMap_cons, hp, List.map_cons, List.countP_cons_of_pos hlive,
        List.length_cons]
      omega
    | some o =>
      have hended : ¬ (Engine.workerOf p).isLive = true := by simp [isLive_workerOf, hp]
      simp only [List.filterMap_cons, hp, List.map_cons, List.countP_cons_of_neg hended,
        List.length_cons]
      omega

/-- The ledger of a new batch is right. -/
theorem ledger_of_newborn {e : Engine} {targets : List Target}
    {preparations : List Operation.Preparation}
    (h : Engine.Newborn e targets b d preparations) : Ledger b d := by
  have hsize : b.size = preparations.length := by simp [Batch.size, h.workers]
  have hlength : targets.length = preparations.length := by
    rw [← h.prepared, List.length_map]
  refine ⟨?_, ?_, ?_, ?_, fun x hx => Effect.isOverflow_of_isDispatching (h.dispatching x hx),
    ?_, ?_, ?_⟩
  · rw [h.capacity, hsize, hlength]
  · rw [h.posted, h.workers, hsize]
    exact countP_workerOf preparations
  · intro _
    rw [h.posted, h.consumed, h.queue]
    rfl
  · rw [h.consumed]
    exact List.nil_prefix
  · rw [hsize, ← hlength]
    exact h.placed
  · exact fun _ => ⟨h.isOpen, h.consumed⟩
  · intro goal progress hstage
    rcases h.stage with hkept | ⟨goal', hreducing⟩
    · rw [hkept] at hstage
      cases hstage
    · rw [hreducing] at hstage
      cases hstage
      exact ⟨h.isOpen, h.consumed⟩

/-! ## §2 Posts -/

/-- While a worker is live there is room for its outcome. -/
theorem Ledger.room (h : Ledger b d) (hopen : b.channel.isOpen = true) {w : Worker}
    (hw : w ∈ b.workers) (hlive : w.isLive = true) :
    b.channel.queue.length < b.channel.capacity := by
  -- The worker's own outcome is still owed, so that fewer than all were posted.
  have hpos : 0 < b.workers.countP Worker.isLive := List.countP_pos_iff.mpr ⟨w, hw, hlive⟩
  have hposted : d.posted.length = d.consumed.length + b.channel.queue.length := by
    rw [h.flow hopen, List.length_append]
  have howed := h.owed
  have hcapacity := h.capacity
  omega

/-- When every outcome was posted, nobody is live any more. -/
theorem Ledger.hasLive_eq_false (h : Ledger b d) (hall : b.size ≤ d.posted.length) :
    b.hasLive = false := by
  have howed := h.owed
  have hnone : b.workers.countP Worker.isLive = 0 := by omega
  exact List.any_eq_false.mpr (List.countP_eq_zero.mp hnone)

/-- A live worker's post is delivered while the channel is read, and ignored afterwards. -/
theorem Ledger.posting (h : Ledger b d) {w : Worker} (hw : w ∈ b.workers)
    (hlive : w.isLive = true) :
    b.channel.posting = if b.channel.isOpen then .delivered else .unread := by
  unfold Channel.posting
  by_cases hopen : b.channel.isOpen = true
  · simp [hopen, h.room hopen hw hlive]
  · simp [hopen]

theorem countP_set_live {workers : List Worker} {i : Nat} {w v : Worker}
    (hw : workers[i]? = some w) (hsame : v.isLive = w.isLive) :
    (workers.set i v).countP Worker.isLive = workers.countP Worker.isLive := by
  obtain ⟨hlt, rfl⟩ := List.getElem?_eq_some_iff.mp hw
  -- Replacing a worker takes its mark away and puts the new one in its place.
  rw [List.countP_set hlt, hsame]
  have hle : (if workers[i].isLive = true then 1 else 0) ≤ workers.countP Worker.isLive := by
    split
    · rename_i hlive
      exact List.countP_pos_iff.mpr ⟨_, List.getElem_mem hlt, hlive⟩
    · omega
  omega

theorem countP_set_ended {workers : List Worker} {i : Nat} {w v : Worker}
    (hw : workers[i]? = some w) (hlive : w.isLive = true) (hended : v.isLive = false) :
    (workers.set i v).countP Worker.isLive + 1 = workers.countP Worker.isLive := by
  obtain ⟨hlt, rfl⟩ := List.getElem?_eq_some_iff.mp hw
  have hpos : 0 < workers.countP Worker.isLive :=
    List.countP_pos_iff.mpr ⟨_, List.getElem_mem hlt, hlive⟩
  rw [List.countP_set hlt, hlive, hended]
  simp only [if_true, Bool.false_eq_true, if_false]
  omega

/-- A worker's move that leaves it as live as it was leaves the ledger right. -/
theorem Ledger.going {i : Nat} {w : Worker} {m : Worker.Move} (h : Ledger b d)
    (hw : b.workers[i]? = some w) (hm : w.Lawful m) (hlive : m.worker.isLive = w.isLive) :
    Ledger { b with workers := b.workers.set i m.worker } (d ++ Doings.here i m.effects) := by
  have hposted : Doings.posted (Doings.here i m.effects) = [] := by
    rw [Doings.posted_here]
    exact List.filterMap_eq_nil_iff.mpr fun x hx => Effect.posted?_of_isOwn (hm.own x hx)
  have hconsumed : Doings.consumed (Doings.here i m.effects) = [] := by
    rw [Doings.consumed_here]
    exact List.filterMap_eq_nil_iff.mpr fun x hx => Effect.consumed?_of_isOwn (hm.own x hx)
  have hown : ∀ x ∈ Doings.here i m.effects, x.2.isOwn = true := by
    intro x hx
    obtain ⟨effect, heffect, rfl⟩ := List.mem_map.mp hx
    exact hm.own effect heffect
  -- Nothing is posted or taken; the count of live workers is the same.
  refine ⟨?_, ?_, ?_, ?_, ?_, ?_, ?_, ?_⟩
  · simpa [Batch.size] using h.capacity
  · simpa [Batch.size, hposted, countP_set_live hw hlive] using h.owed
  · simpa [hposted, hconsumed] using h.flow
  · simpa [hposted, hconsumed] using h.taken
  · intro x hx
    rcases List.mem_append.mp hx with hx | hx
    · exact h.noOverflow x hx
    · exact Effect.isOverflow_of_isOwn (hown x hx)
  · intro x hx hpost
    rcases List.mem_append.mp hx with hx | hx
    · simpa [Batch.size] using h.placed x hx hpost
    · exact absurd (Effect.posted?_of_isOwn (hown x hx)) hpost
  · simpa [hconsumed] using h.kept
  · simpa [hconsumed] using h.reducing

/-- A post of an outcome that is owed leaves the ledger right. -/
theorem Ledger.post {i : Nat} {w v : Worker} (h : Ledger b d) (hw : b.workers[i]? = some w)
    (hlive : w.isLive = true) (hended : v.isLive = false) (o : Outcome) :
    Ledger { b with workers := b.workers.set i v, channel := b.channel.post o }
      (d ++ [(some i, .posted o b.channel.posting)]) := by
  have hlt : i < b.size := (List.getElem?_eq_some_iff.mp hw).1
  have hposting := h.posting (List.mem_of_getElem? hw) hlive
  have hopen : (b.channel.post o).isOpen = b.channel.isOpen := by
    unfold Channel.post
    split <;> rfl
  have hqueue (hread : b.channel.isOpen = true) :
      (b.channel.post o).queue = b.channel.queue ++ [o] := by
    simp [Channel.post, hposting, hread]
  have hposted : Doings.posted [(some i, .posted o b.channel.posting)] = [o] := rfl
  have hconsumed : Doings.consumed [(some i, .posted o b.channel.posting)] = [] := rfl
  -- One outcome more was posted, by a worker that owes nothing any more.
  refine ⟨?_, ?_, ?_, ?_, ?_, ?_, ?_, ?_⟩
  · simpa [Batch.size] using h.capacity
  · have howed := h.owed
    have hcount := countP_set_ended hw hlive hended
    simp only [Batch.size, Doings.posted_append, hposted, List.length_append, List.length_set,
      List.length_singleton] at howed ⊢
    omega
  · intro hread
    rw [hopen] at hread
    rw [Doings.posted_append, Doings.consumed_append, hposted, hconsumed, hqueue hread,
      h.flow hread, List.append_nil, List.append_assoc]
  · rw [Doings.posted_append, Doings.consumed_append, hconsumed, List.append_nil]
    exact h.taken.trans (List.prefix_append _ _)
  · intro x hx
    rcases List.mem_append.mp hx with hx | hx
    · exact h.noOverflow x hx
    · obtain rfl := List.mem_singleton.mp hx
      rw [hposting]
      cases b.channel.isOpen <;> rfl
  · intro x hx hpost
    rcases List.mem_append.mp hx with hx | hx
    · simpa [Batch.size] using h.placed x hx hpost
    · obtain rfl := List.mem_singleton.mp hx
      exact ⟨i, by simpa [Batch.size] using hlt, rfl⟩
  · simpa [hopen, hconsumed] using h.kept
  · simpa [hopen, hconsumed] using h.reducing

/-- A signal leaves the ledger right. -/
theorem Ledger.signal (h : Ledger b d) (e : Engine) (i : Nat) (s : Signal) :
    Ledger (b.signal e.toClock e.tokens e.openings i s).1
      (d ++ Doings.here i (b.signal e.toClock e.tokens e.openings i s).2) := by
  cases hw : b.workers[i]? with
  | none => simpa [signal_of_none e hw s, Doings.here] using h
  | some w =>
    have hm := (Worker.step_transition b.plan (b.stopFor e w) e.openings w s).lawful
    rw [signal_eq e hw s]
    generalize w.step b.plan (b.stopFor e w) e.openings s = m at hm ⊢
    rcases hm.progress with ⟨hnone, hlive⟩ | ⟨o, hends⟩
    · simpa [hnone] using h.going hw hm hlive
    · -- The effects come before the post: first the move as if it went on, then the post.
      have hfirst := h.going (m := { m with worker := w, outcome := none }) hw
        ⟨rfl, rfl, hm.own, .inl ⟨rfl, rfl⟩⟩ rfl
      obtain ⟨hlt, rfl⟩ := List.getElem?_eq_some_iff.mp hw
      simp only [List.set_getElem_self] at hfirst
      simpa [hends.outcome, Doings.here] using hfirst.post hw hends.wasLive hends.ended o

/-- Beyond the last target nothing is posted. -/
theorem Ledger.postedAt_of_le (h : Ledger b d) {i : Nat} (hi : b.size ≤ i) :
    d.postedAt i = [] := by
  refine List.filterMap_eq_nil_iff.mpr fun x hx => ?_
  by_contra hposted
  obtain ⟨j, hj, hplace⟩ := h.placed _ (Doings.mem_effectsAt.mp hx) hposted
  obtain rfl := Option.some.inj hplace
  omega

/-! ## §3 Turns -/

/-- A move that only concludes leaves the ledger right if it leaves the stage right. -/
theorem Ledger.conclude {k : Doings} (h : Ledger b d) (hkeeps : Keeps b after)
    (hconcluding : ∀ x ∈ k, x.2.isConcluding = true)
    (hflow : after.channel.isOpen = true →
      b.channel.isOpen = true ∧ after.channel.queue = b.channel.queue)
    (hkept : after.stage = .kept → after.channel.isOpen = true ∧ d.consumed = [])
    (hreducing : ∀ goal progress, after.stage = .reducing goal progress →
      after.channel.isOpen = true ∧ d.consumed = progress.consumed) :
    Ledger after (d ++ k) := by
  have hposted := Doings.posted_of_concluding hconcluding
  have hconsumed := Doings.consumed_of_concluding hconcluding
  -- Judging and returning leave the accounts as they are; only the stage and the channel change.
  refine ⟨?_, ?_, ?_, ?_, ?_, ?_, ?_, ?_⟩
  · rw [hkeeps.capacity, hkeeps.size]
    exact h.capacity
  · simpa [hposted, hkeeps.workers, hkeeps.size] using h.owed
  · intro hopen
    obtain ⟨hbefore, hqueue⟩ := hflow hopen
    simpa [hposted, hconsumed, hqueue] using h.flow hbefore
  · simpa [hposted, hconsumed] using h.taken
  · intro x hx
    rcases List.mem_append.mp hx with hx | hx
    · exact h.noOverflow x hx
    · exact Effect.isOverflow_of_isConcluding (hconcluding x hx)
  · intro x hx hpost
    rcases List.mem_append.mp hx with hx | hx
    · rw [hkeeps.size]
      exact h.placed x hx hpost
    · exact absurd (Effect.posted?_of_isConcluding (hconcluding x hx)) hpost
  · simpa [hconsumed] using hkept
  · simpa [hconsumed] using hreducing

/-- A batch whose channel is not read any more has nothing to answer for. -/
theorem Ledger.closed {k : Doings} (h : Ledger b d) (hkeeps : Keeps b after)
    (hconcluding : ∀ x ∈ k, x.2.isConcluding = true) (hclosed : after.channel.isOpen = false)
    (hkept : after.stage ≠ .kept)
    (hreducing : ∀ goal progress, after.stage ≠ .reducing goal progress) :
    Ledger after (d ++ k) :=
  h.conclude hkeeps hconcluding (fun hopen => absurd hopen (by simp [hclosed]))
    (fun hstage => absurd hstage hkept) fun goal progress hstage =>
    absurd hstage (hreducing goal progress)

/-- Taking the first outcome leaves the ledger right. -/
theorem Ledger.takeFirst {goal : Goal} {progress : Progress} {o : Outcome} {rest : Channel}
    (h : Ledger b d) (hstage : b.stage = .reducing goal progress)
    (hreceive : b.channel.receive? = some (o, rest)) :
    Ledger
      { b with
        channel := rest
        stage := .reducing goal { progress with consumed := progress.consumed ++ [o] } }
      (d ++ [(none, .consumed o)]) := by
  obtain ⟨hopen, hconsumed⟩ := h.reducing goal progress hstage
  obtain ⟨queue, hqueue, rfl⟩ : ∃ queue, b.channel.queue = o :: queue ∧
      rest = { b.channel with queue } := by
    unfold Channel.receive? at hreceive
    split at hreceive
    · cases hreceive
    · rename_i hqueue
      cases hreceive
      exact ⟨_, hqueue, rfl⟩
  have hposted : Doings.posted [(none, .consumed o)] = [] := rfl
  have htaken : Doings.consumed [(none, .consumed o)] = [o] := rfl
  -- What leaves the queue is what is added to the progress.
  have hflow := h.flow hopen
  rw [hqueue] at hflow
  refine ⟨h.capacity, ?_, ?_, ?_, ?_, ?_, ?_, ?_⟩
  · simpa [hposted, Batch.size] using h.owed
  · intro _
    simp [hposted, htaken, hflow]
  · rw [Doings.posted_append, Doings.consumed_append, hposted, htaken, List.append_nil, hflow]
    exact ⟨queue, by simp⟩
  · intro x hx
    rcases List.mem_append.mp hx with hx | hx
    · exact h.noOverflow x hx
    · obtain rfl := List.mem_singleton.mp hx
      rfl
  · intro x hx hpost
    rcases List.mem_append.mp hx with hx | hx
    · exact h.placed x hx hpost
    · obtain rfl := List.mem_singleton.mp hx
      exact absurd rfl hpost
  · intro hkept
    cases hkept
  · intro goal' progress' hreducing
    cases hreducing
    exact ⟨hopen, by simp [htaken, hconsumed]⟩

/-- A turn of the reducer leaves the ledger right. -/
theorem Ledger.turn {c : Clock} {tokens : List String} {effects : List Effect}
    (h : Ledger b d) (hturn : Turn c tokens b after effects) :
    Ledger after (d ++ Engine.unplaced effects) := by
  have hkeeps := hturn.keeps
  cases hturn with
  | idle => simpa [Engine.unplaced] using h
  | @complete goal progress _ _ =>
    -- A reducer that returns closes the channel.
    have hconcluding := Doings.unplaced_concluding (finish_concluding b goal progress false)
    rw [finish_eq_close] at hkeeps ⊢
    exact h.closed hkeeps hconcluding (by simp [Channel.close]) (by simp) (by simp)
  | @cutShort goal progress _ _ _ =>
    have hconcluding := Doings.unplaced_concluding (finish_concluding b goal progress true)
    rw [finish_eq_close] at hkeeps ⊢
    refine h.closed hkeeps (fun x hx => ?_) (by simp [Channel.close]) (by simp) (by simp)
    -- Only the event that tells about the interruption comes before the ending.
    simp only [Engine.unplaced, List.map_append, List.mem_append, List.map_map] at hx
    rcases hx with hx | hx
    · obtain ⟨event, _, rfl⟩ := List.mem_map.mp hx
      rfl
    · exact hconcluding x hx
  | @take goal progress o rest hstage _ _ hreceive =>
    -- First the outcome is taken, and then it is judged.
    have hfirst := h.takeFirst hstage hreceive
    have hmore := consume_keeps { b with channel := rest } goal progress o
    have hconcluding :=
      Doings.unplaced_concluding (consume_concluding { b with channel := rest } goal progress o)
    rw [Engine.unplaced_cons, List.append_cons]
    obtain ⟨hopen, hconsumed⟩ := hfirst.reducing _ _ rfl
    rcases consume_taken { b with channel := rest } goal progress o with
      ⟨hnext, hafter, hchannel⟩ | ⟨_, _, hafter, hchannel, _⟩
    · refine hfirst.conclude (hmore.fromStage _) hconcluding ?_ (by simp [hafter]) ?_
      · intro _
        exact ⟨hopen, by rw [hchannel]⟩
      · intro goal' progress' hstage'
        rw [hafter] at hstage'
        cases hstage'
        exact ⟨by rw [hchannel]; exact hopen, by rw [hconsumed, hnext]⟩
    · exact hfirst.closed (hmore.fromStage _) hconcluding (by rw [hchannel]; rfl) (by simp [hafter])
        (by simp [hafter])

/-! ## §4 Runs -/

theorem Ledger.begin (h : Ledger b d) (goal : Goal) : Ledger (b.begin goal) d := by
  unfold Batch.begin
  split
  · rename_i hkept
    obtain ⟨hopen, hnothing⟩ := h.kept hkept
    -- A batch that was kept has consumed nothing, as a new progress says.
    have h' := h.conclude (k := []) (keeps_stage b (.reducing goal Progress.start)) (by simp)
      (fun _ => ⟨hopen, rfl⟩) (by simp) fun goal' progress' hstage => by
        cases hstage
        exact ⟨hopen, hnothing⟩
    simpa using h'
  · exact h

theorem Ledger.drop (h : Ledger b d) : Ledger b.drop.1 (d ++ Engine.unplaced b.drop.2) := by
  have hconcluding := Doings.unplaced_concluding (drop_concluding b)
  have hkeeps := drop_keeps b
  unfold Batch.drop at hconcluding hkeeps ⊢
  -- Only a batch that was not reduced yet is closed by a drop.
  split
  all_goals rename_i hstage; simp only [hstage] at hconcluding hkeeps
  · exact h.closed hkeeps hconcluding (by simp [Channel.close]) (by simp) (by simp)
  · exact h.closed hkeeps hconcluding (by simp [Channel.close]) (by simp) (by simp)
  · simpa [Engine.unplaced] using h
  · simpa [Engine.unplaced] using h

/-- Every move leaves the ledger right. -/
theorem Ledger.move {e : Engine} {k : Doings} (h : Ledger b d) (hmove : b.Move e after k) :
    Ledger after (d ++ k) := by
  cases hmove with
  | rest => simpa using h
  | signal position s => exact h.signal e position s
  | cancel =>
    exact h.conclude (release_keeps b) (by simp [Effect.isConcluding])
      (fun hopen => ⟨by simpa using hopen, by simp⟩) (by simpa using h.kept)
      (by simpa using h.reducing)
  | begin goal => simpa using h.begin goal
  | poll hturn => exact h.turn hturn
  | drop => exact h.drop

end Batch

/-- **The ledger of every batch is right in every run.** -/
theorem Engine.run_ledger {client : Client} {now : Instant} (events : List Event) {number : Nat}
    {b : Batch} (hb : ((start client now).run events).1.batches[number]? = some b) :
    b.Ledger (((start client now).run events).2.of number) :=
  run_invariant (fun _ _ _ _ _ hbirth =>
      let ⟨_, hnew⟩ := hbirth.newborn
      Batch.ledger_of_newborn hnew)
    (fun _ _ _ _ _ h hmove => h.move hmove) events hb

end Replicast
