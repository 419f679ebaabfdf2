import Replicast.Proofs.Engine.Origin
import Replicast.Proofs.Settings
/-!
# Limits in force

A batch is bound by a timeout, a number of attempts and a number of bytes for each body.  All three
come from settings of the configuration, of the client and of the operation, some of which bring
their limit to the least one and some of which do not.

## Overview

* `RetryPolicy.Made` are the retry policies that can be made; they allow an attempt.
* `ClientBuilder.built_limit` is the body limit of a client: the last setting with a say decides it.
* `Engine.run_limits` is the result: timeouts and attempts are bounded from below in every run, and
  so is the body limit, unless a limit of zero is assigned as it is and nothing is said after it.
-/

namespace Replicast

/-! ## §1 Retry policies -/

/-- The retry policies that can be made of the two given ones. -/
inductive RetryPolicy.Made : RetryPolicy → Prop where
  | disabled : Made RetryPolicy.disabled
  | standard : Made RetryPolicy.standard
  | withMaxAttempts {p : RetryPolicy} (n : Nat) : Made p → Made (p.withMaxAttempts n)
  | withBackoff {p : RetryPolicy} (d : Duration) : Made p → Made (p.withBackoff d)

/-- They are those that allow an attempt. -/
theorem RetryPolicy.made_iff {p : RetryPolicy} : p.Made ↔ 1 ≤ p.maxAttempts := by
  constructor
  · intro h
    induction h with
    | disabled | standard => decide
    | withMaxAttempts n _ _ => exact Nat.le_max_right n 1
    | withBackoff d _ ih => exact ih
  · intro h
    have hmade : ((standard.withMaxAttempts p.maxAttempts).withBackoff p.rateLimitBackoff).Made :=
      .withBackoff _ (.withMaxAttempts _ .standard)
    have hbound : Nat.max p.maxAttempts 1 = p.maxAttempts := Nat.max_eq_left h
    unfold withBackoff withMaxAttempts at hmade
    rwa [hbound] at hmade

/-! ## §2 What settings say -/

/-- The retry policy that a setting brings. -/
def Config.Setting.policy? : Config.Setting → Option RetryPolicy
  | .retryPolicy p => some p
  | _ => none

/-- The body limit that a setting leaves in force. -/
def Config.Setting.limit? : Config.Setting → Option Nat
  | .maxResponseBodyBytes n => some (Nat.max n 1)
  | .rawMaxResponseBodyBytes n => some n
  | _ => none

theorem Config.apply_policy (c : Config) (s : Config.Setting) :
    (c.apply s).retryPolicy = s.policy?.getD c.retryPolicy := by
  cases s <;> rfl

theorem Config.apply_limit (c : Config) (s : Config.Setting) :
    (c.apply s).maxResponseBodyBytes = s.limit?.getD c.maxResponseBodyBytes := by
  cases s <;> rfl

namespace ClientBuilder

/-- The retry policy that a setting brings, alone or with a whole configuration. -/
def Setting.policy? : Setting → Option RetryPolicy
  | .config s => s.policy?
  | .replaceConfig c => some c.retryPolicy
  | _ => none

/-- The body limit that a setting leaves in force, if it has a say. -/
def Setting.limit? : Setting → Option Nat
  | .config s => s.limit?
  | .replaceConfig c => some c.maxResponseBodyBytes
  | _ => none

/-- Whether a setting assigns a body limit of zero as it is, alone or with a whole configuration. -/
def Setting.assignsNoBytes : Setting → Bool
  | .config (.rawMaxResponseBodyBytes n) => n == 0
  | .replaceConfig c => c.maxResponseBodyBytes == 0
  | _ => false

theorem Setting.configured_policy (c : Config) (s : Setting) :
    (s.configured c).retryPolicy = s.policy?.getD c.retryPolicy := by
  cases s with
  | config s => exact c.apply_policy s
  | _ => rfl

theorem Setting.configured_limit (c : Config) (s : Setting) :
    (s.configured c).maxResponseBodyBytes = s.limit?.getD c.maxResponseBodyBytes := by
  cases s with
  | config s => exact c.apply_limit s
  | _ => rfl

/-- A setter never leaves a limit of zero. -/
theorem Setting.limit?_eq_zero_iff {s : Setting} :
    s.limit? = some 0 ↔ s.assignsNoBytes = true := by
  cases s with
  | config s =>
    cases s with
    | maxResponseBodyBytes n =>
      have hpositive : Nat.max n 1 ≠ 0 := Nat.ne_of_gt (Nat.le_max_right n 1)
      simp [limit?, Config.Setting.limit?, assignsNoBytes, hpositive]
    | _ => simp [limit?, Config.Setting.limit?, assignsNoBytes]
  | _ => simp [limit?, assignsNoBytes]

/-- All that a client is told: a configuration, its settings, and the settings of the client. -/
def said (config : Config) (told : List Config.Setting) (settings : List Setting) : List Setting :=
  .replaceConfig config :: (told.map Setting.config ++ settings)

/-! ## §3 The limits of a client -/

variable {config : Config} {told : List Config.Setting} {settings : List Setting}
  {b : ClientBuilder}

/-- The retry policy of a client is one that it was told. -/
theorem built_policy (h : (ofConfig (config.applyAll told)).applyAll settings = .ok b)
    (hmade : ∀ s ∈ said config told settings, ∀ p, s.policy? = some p → p.Made) :
    1 ≤ b.build.retryPolicy.maxAttempts := by
  rw [ofConfig_applyAll] at h
  have hconfig : config.retryPolicy.Made :=
    hmade (.replaceConfig config) List.mem_cons_self _ rfl
  have hkept : b.config.retryPolicy.Made := by
    refine Told.preserves (P := fun b => b.config.retryPolicy.Made) ?_ hconfig h
    intro s hs before after hbefore hstep
    rw [(apply_told hstep).1, s.configured_policy]
    cases hpolicy : s.policy? with
    | none => exact hbefore
    | some p => exact hmade s (List.mem_cons_of_mem _ hs) p hpolicy
  exact RetryPolicy.made_iff.mp hkept

/-- The body limit of a client is what the last setting with a say has left. -/
theorem built_limit (h : (ofConfig (config.applyAll told)).applyAll settings = .ok b) :
    ((said config told settings).filterMap Setting.limit?).getLast? =
      some b.build.maxResponseBodyBytes := by
  rw [ofConfig_applyAll] at h
  have hlast := Told.read_last (fun b : ClientBuilder => b.config.maxResponseBodyBytes)
    Setting.limit? (fun b s b' hstep => by rw [(apply_told hstep).1, s.configured_limit]) h
  rw [said, List.filterMap_cons_some (f := Setting.limit?) rfl, List.getLast?_cons]
  exact congrArg some hlast.symm

/-- It is zero only if zero was assigned as it is and nothing was said about it afterwards. -/
theorem built_limit_eq_zero_iff (h : (ofConfig (config.applyAll told)).applyAll settings = .ok b) :
    b.build.maxResponseBodyBytes = 0 ↔ ∃ earlier s later,
      said config told settings = earlier ++ s :: later ∧ s.assignsNoBytes = true ∧
        ∀ x ∈ later, x.limit? = none := by
  have hlimit : b.build.maxResponseBodyBytes = 0 ↔
      ((said config told settings).reverse.findSome? Setting.limit?) = some 0 := by
    rw [← List.getLast?_filterMap, built_limit h, Option.some.injEq]
  rw [hlimit, List.findSome?_eq_some_iff]
  constructor
  · rintro ⟨later, s, earlier, hsplit, hzero, hsilent⟩
    refine ⟨earlier.reverse, s, later.reverse, ?_, Setting.limit?_eq_zero_iff.mp hzero, ?_⟩
    · have hsplit := congrArg List.reverse hsplit
      simpa using hsplit
    · intro x hx
      exact hsilent x (List.mem_reverse.mp hx)
  · rintro ⟨earlier, s, later, hsplit, hzero, hsilent⟩
    refine ⟨later.reverse, s, earlier.reverse, ?_, Setting.limit?_eq_zero_iff.mpr hzero, ?_⟩
    · rw [hsplit]
      simp
    · intro x hx
      exact hsilent x (List.mem_reverse.mp hx)

end ClientBuilder

/-! ## §4 The limits of a batch -/

namespace Operation

/-- Limits of its own that do not fall below the least ones. -/
structure Bounded (op : Operation) : Prop where
  timeout : ∀ d, op.timeout = some d → minRequestTimeout ≤ d
  retryPolicy : ∀ p, op.retryPolicy = some p → 1 ≤ p.maxAttempts

theorem new_bounded (method : Method) (path : String) : (new method path).Bounded := by
  constructor
  · intro d hd
    cases hd
  · intro p hp
    cases hp

/-- The settings of an operation bring its own limits to the least ones. -/
theorem applyAll_bounded {op op' : Operation} {settings : List Setting} (hop : op.Bounded)
    (hmade : ∀ s ∈ settings, ∀ p, s = .retryPolicy p → p.Made)
    (h : op.applyAll settings = .ok op') : op'.Bounded := by
  refine Told.preserves (P := Bounded) ?_ hop h
  intro s hs before after hbefore hstep
  obtain ⟨_, htimeout, hpolicy⟩ := apply_told hstep
  constructor
  · intro d hd
    rw [htimeout] at hd
    cases s with
    | timeout d' =>
      obtain rfl := Option.some.inj hd
      exact d'.le_longer_right minRequestTimeout
    | _ => exact hbefore.timeout d hd
  · intro p hp
    rw [hpolicy] at hp
    cases s with
    | retryPolicy p' =>
      obtain rfl := Option.some.inj hp
      exact RetryPolicy.made_iff.mp (hmade _ hs _ rfl)
    | _ => exact hbefore.retryPolicy p hp

/-- What is not the operation's own limit is its client's. -/
theorem Bounded.timeoutFor {op : Operation} (h : op.Bounded) {client : Client}
    (hclient : minRequestTimeout ≤ client.requestTimeout) :
    minRequestTimeout ≤ op.timeoutFor client := by
  unfold Operation.timeoutFor
  cases htimeout : op.timeout with
  | none => exact hclient
  | some d => exact h.timeout d htimeout

theorem Bounded.retryPolicyFor {op : Operation} (h : op.Bounded) {client : Client}
    (hclient : 1 ≤ client.retryPolicy.maxAttempts) :
    1 ≤ (op.retryPolicyFor client).maxAttempts := by
  unfold Operation.retryPolicyFor
  cases hpolicy : op.retryPolicy with
  | none => exact hclient
  | some p => exact h.retryPolicy p hpolicy

end Operation

namespace Engine

/-- **Limits are in force however they were set.**  Take any configuration, any settings of it, any
    settings of the client that is built from it, and any retry policies that can be made.  The
    client has a timeout of a millisecond at least and allows an attempt, and so does every batch
    that it begins, whatever its operation was told and whatever happens before and after; the
    deadline of the batch is that timeout away from the dispatch.  The body limit of every batch is
    the client's, and it is a byte at least unless zero was assigned as it is, with nothing said
    about the limit afterwards. -/
theorem run_limits (config : Config) (told : List Config.Setting)
    (settings : List ClientBuilder.Setting)
    (hmade : ∀ s ∈ ClientBuilder.said config told settings, ∀ p, s.policy? = some p → p.Made)
    {b : ClientBuilder}
    (hb : (ClientBuilder.ofConfig (config.applyAll told)).applyAll settings = .ok b) :
    minRequestTimeout ≤ b.build.requestTimeout ∧
    1 ≤ b.build.retryPolicy.maxAttempts ∧
    (b.build.maxResponseBodyBytes = 0 ↔ ∃ earlier s later,
      ClientBuilder.said config told settings = earlier ++ s :: later ∧
        s.assignsNoBytes = true ∧ ∀ x ∈ later, x.limit? = none) ∧
    ∀ (now : Instant) (before after : List Event) (event : Event) (method : Method) (path : String)
      (more : List Operation.Setting) (op : Operation),
      (∀ s ∈ more, ∀ p, s = .retryPolicy p → p.Made) →
      (Operation.new method path).applyAll more = .ok op → event.requested? = some op →
      let first := ((start b.build now).run before).1
      ∃ batch,
        ((start b.build now).run (before ++ event :: after)).1.batches[first.batches.length]? =
          some batch ∧
        minRequestTimeout ≤ batch.plan.timeout ∧
        batch.plan.deadline = Instant.deadlineAfter first.now batch.plan.timeout ∧
        1 ≤ batch.plan.retryPolicy.maxAttempts ∧
        batch.plan.maxResponseBodyBytes = b.build.maxResponseBodyBytes := by
  have htimeout : minRequestTimeout ≤ b.build.requestTimeout :=
    b.config.requestTimeout.le_longer_right minRequestTimeout
  have hattempts := ClientBuilder.built_policy hb hmade
  refine ⟨htimeout, hattempts, ClientBuilder.built_limit_eq_zero_iff hb, ?_⟩
  intro now before after event method path more op hmore hop hevent first
  have hbounded : op.Bounded :=
    Operation.applyAll_bounded (Operation.new_bounded method path) hmore hop
  obtain ⟨handler, hoperation⟩ := Event.operation?_of_requested? hevent
  obtain ⟨batch, hbatch, hplan⟩ := run_planned b.build now before after hoperation
  have hclient : first.client = b.build := run_client (start b.build now) before
  refine ⟨batch, hbatch, ?_⟩
  rw [hplan]
  refine ⟨?_, rfl, ?_, ?_⟩
  · show minRequestTimeout ≤ op.timeoutFor first.client
    rw [hclient]
    exact hbounded.timeoutFor htimeout
  · show 1 ≤ (op.retryPolicyFor first.client).maxAttempts
    rw [hclient]
    exact hbounded.retryPolicyFor hattempts
  · show first.client.maxResponseBodyBytes = _
    rw [hclient]

/-- A configuration that was assigned no time and no bytes. -/
def slack : Config :=
  { Config.standard with requestTimeout := ⟨0⟩, maxResponseBodyBytes := 0 }

/-- Settings of a client that bring the body limit of `slack` back. -/
def tightening : List ClientBuilder.Setting :=
  [.replaceConfig slack, .config (.retryPolicy (RetryPolicy.disabled.withMaxAttempts 0)),
    .config (.maxResponseBodyBytes 0)]

/-- The client that is told so. -/
def tightened : Client :=
  { (ClientBuilder.ofConfig slack).build with
    retryPolicy := ⟨1, Duration.ofSeconds 1⟩, maxResponseBodyBytes := 1 }

/-- A write that asks for no time. -/
def hurried : Operation :=
  { Operation.new .put "x" with timeout := some (Duration.ofMillis 1) }

/-- A replicated write that asks for no time, by a client that was assigned none, has a millisecond,
    one attempt, and bodies of one byte. -/
theorem run_limits_tightened :
    ∃ batch,
      ((start tightened ⟨0⟩).run
        [.replicate hurried [⟨0, "http://a"⟩] .majority .ok]).1.batches[0]? = some batch ∧
      minRequestTimeout ≤ batch.plan.timeout ∧ 1 ≤ batch.plan.retryPolicy.maxAttempts ∧
      batch.plan.maxResponseBodyBytes = 1 := by
  have hmade : ∀ s ∈ ClientBuilder.said slack [.rawRequestTimeout ⟨0⟩] tightening,
      ∀ p, s.policy? = some p → p.Made := by
    intro s hs p hp
    apply RetryPolicy.made_iff.mpr
    simp only [ClientBuilder.said, tightening, List.map_cons, List.map_nil, List.cons_append,
      List.nil_append, List.mem_cons, List.not_mem_nil, or_false] at hs
    -- Two settings say nothing about attempts, and the policies of the others allow one.
    rcases hs with rfl | rfl | rfl | rfl | rfl <;> cases hp <;> decide
  obtain ⟨_, _, _, hrun⟩ := run_limits slack [.rawRequestTimeout ⟨0⟩] tightening hmade rfl
  obtain ⟨batch, hbatch, htimeout, _, hattempts, hlimit⟩ :=
    hrun ⟨0⟩ [] [] (.replicate hurried [⟨0, "http://a"⟩] .majority .ok) .put "x"
      [.timeout ⟨0⟩] hurried (by simp) rfl rfl
  exact ⟨batch, hbatch, htimeout, hattempts, hlimit⟩

/-- A limit of zero bytes that is assigned as it is stays in force. -/
theorem run_limits_slack :
    ¬ ∀ (config : Config) (settings : List ClientBuilder.Setting) (b : ClientBuilder),
      (∀ s ∈ ClientBuilder.said config [] settings, ∀ p, s.policy? = some p → p.Made) →
      (ClientBuilder.ofConfig config).applyAll settings = .ok b →
      1 ≤ b.build.maxResponseBodyBytes := by
  intro hall
  have hmade : ∀ s ∈ ClientBuilder.said slack [] [], ∀ p, s.policy? = some p → p.Made := by
    intro s hs p hp
    obtain rfl := List.mem_singleton.mp hs
    obtain rfl := Option.some.inj hp
    exact .standard
  have hlimit : 1 ≤ (ClientBuilder.ofConfig slack).build.maxResponseBodyBytes :=
    hall slack [] _ hmade rfl
  exact absurd hlimit (by decide)

end Engine

end Replicast
