import Replicast.Proofs.Delivery
import Replicast.Proofs.Engine.Origin
/-!
# What failed connections are put down to

The rough cause of a failure is told from what the failure says of itself.  A client that could not
connect says nothing but that, and what it was that failed is told by the errors behind it only.

## Overview

* `TransportFailure.chain` are the texts of a failure and of what lies behind it, and
  `TransportFailure.causeOfChain` is what these tell of a failed connection.
* `TransportFailure.kind_ne` says that no failure is put down to the look-up of a name or to a
  handshake.
* `Engine.run_causes` is the result for whole runs.
-/

namespace Replicast

namespace TransportFailure

/-! ## §1 Chains -/

/-- The texts of a failure and of the errors that lie behind it. -/
def chain : TransportFailure → List String
  | client fault behind => fault.text :: behind
  | io kind message => [message.getD kind.text]
  | plain message behind => message :: behind

/-- The cause of a failed connection, when the whole chain is looked at. -/
def causeOfChain (f : TransportFailure) : TransportErrorKind :=
  if f.chain.any (mentions dnsWords) then .dns
  else if f.chain.any (mentions tlsWords) then .tls
  else .connect

/-- Whether a text tells neither of a look-up nor of a handshake. -/
def isSilent (text : String) : Bool := !mentions dnsWords text && !mentions tlsWords text

/-- What a client says of a failed connection tells neither. -/
theorem connect_isSilent : isSilent ClientFault.connect.text = true := by decide +kernel

theorem kind_of_connect (behind : List String) : (client .connect behind).kind = .connect := by
  have hsilent := connect_isSilent
  simp only [isSilent, Bool.and_eq_true, Bool.not_eq_true'] at hsilent
  simp [kind, text, hsilent]

theorem kindOfText_ne (text : String) : kindOfText text ≠ .dns ∧ kindOfText text ≠ .tls := by
  unfold kindOfText
  split <;> exact ⟨nofun, nofun⟩

/-- **No failure is put down to the look-up of a name or to a handshake.** -/
theorem kind_ne (f : TransportFailure) : f.kind ≠ .dns ∧ f.kind ≠ .tls := by
  cases f with
  | client fault behind =>
    cases fault with
    | connect =>
      rw [kind_of_connect]
      exact ⟨nofun, nofun⟩
    | absoluteUriRequired => exact kindOfText_ne _
  | io kind message => cases kind <;> exact ⟨nofun, nofun⟩
  | plain message behind => exact kindOfText_ne _

/-- The chain tells more than the failure itself as soon as one of the errors behind it does. -/
theorem causeOfChain_eq_connect (behind : List String) :
    (client .connect behind).causeOfChain = .connect ↔ ∀ text ∈ behind, isSilent text = true := by
  have hsilent := connect_isSilent
  simp only [isSilent, Bool.and_eq_true, Bool.not_eq_true'] at hsilent
  -- The first text of the chain is that of the client, which tells neither.
  have hchain (words : List String) (hown : mentions words ClientFault.connect.text = false) :
      (client .connect behind).chain.any (mentions words) = false ↔
        ∀ text ∈ behind, mentions words text = false := by
    simp [chain, hown]
  unfold causeOfChain
  constructor
  · intro hcause text htext
    split at hcause
    · cases hcause
    · rename_i hdns
      split at hcause
      · cases hcause
      · rename_i htls
        rw [isSilent, (hchain _ hsilent.1).mp (Bool.eq_false_iff.mpr hdns) text htext,
          (hchain _ hsilent.2).mp (Bool.eq_false_iff.mpr htls) text htext]
        rfl
  · intro hall
    simp only [isSilent, Bool.and_eq_true, Bool.not_eq_true'] at hall
    rw [(hchain _ hsilent.1).mpr fun text htext => (hall text htext).1,
      (hchain _ hsilent.2).mpr fun text htext => (hall text htext).2]
    rfl

/-- A connection that failed because a name could not be looked up. -/
theorem connect_not_by_cause :
    ¬ ∀ behind, (client .connect behind).kind = (client .connect behind).causeOfChain := by
  intro hall
  have hdns := hall ["dns error: failed to lookup address information"]
  rw [kind_of_connect] at hdns
  exact absurd hdns (by decide +kernel)

end TransportFailure

/-! ## §2 Runs -/

namespace Engine

variable {e : Engine} {events : List Event} {r : Record} {o : Outcome}
  {posting : Channel.Posting}

/-- A transport error is posted at the answer of the transport that is its worker's last one. -/
theorem run_transport_error (hr : r ∈ (e.run events).2) (hposted : r.effect = .posted o posting)
    {kind : TransportErrorKind} {method : Method} {uri cause : String}
    (herror : o.error = some (.transport kind method uri cause)) :
    ∃ before i f after, events = before ++ .signal r.batch i (.answer (.failure f)) :: after ∧
      r.position = some i ∧ kind = f.kind ∧ cause = f.text := by
  obtain ⟨before, event, after, hsplit, _, horigin⟩ := run_origin hr hposted
  cases horigin with
  | refused _ _ _ _ hp hcopy ho =>
    -- An error of building a request has another code.
    obtain ⟨t, number, _, rfl⟩ := Operation.prepareAll_getElem? _ _ hp
    obtain rfl := Option.some.inj ((congrArg Outcome.error ho).symm.trans herror)
    rcases Operation.prepare_code _ _ _ _ hcopy with h | h | h <;> cases h
  | @ended b i w s hb hplace hw hending =>
    cases hending with
    | failed =>
      obtain ⟨rfl, _, _, rfl⟩ := Error.transport.inj (Option.some.inj herror)
      exact ⟨before, i, _, after, hsplit, hplace, rfl, rfl⟩
    | stopped hstop _ | stoppedReading hstop _ =>
      obtain rfl := Option.some.inj herror
      rcases stopFor_reason hstop with h | h <;> cases h
    | unopened _ _ _ _ | aborted _ _ => cases Option.some.inj herror
    | @unread f fault _ _ _ _ => cases fault <;> cases Option.some.inj herror
    | read _ _ => cases herror

/-- **What failed connections are put down to.**  Whatever lies behind a connection that failed, the
    kind of the failure is that of a connection; it is the one that the whole chain tells of exactly
    if no error behind it tells of a look-up or of a handshake.  And no run posts a transport error
    of another kind than its failure has: none of them is put down to a look-up or a handshake. -/
theorem run_causes (e : Engine) (events : List Event) :
    (∀ behind,
      let f := TransportFailure.client .connect behind
      f.kind = .connect ∧
        (f.kind = f.causeOfChain ↔
          ∀ text ∈ behind, TransportFailure.mentions TransportFailure.dnsWords text = false ∧
            TransportFailure.mentions TransportFailure.tlsWords text = false)) ∧
    ∀ {r : Record} {o : Outcome} {posting : Channel.Posting} {kind : TransportErrorKind}
      {method : Method} {uri cause : String},
      r ∈ (e.run events).2 → r.effect = .posted o posting →
      o.error = some (.transport kind method uri cause) →
      kind ≠ .dns ∧ kind ≠ .tls ∧
        ∃ before i f after, events = before ++ .signal r.batch i (.answer (.failure f)) :: after ∧
          r.position = some i ∧ kind = f.kind ∧ cause = f.text := by
  refine ⟨fun behind => ⟨TransportFailure.kind_of_connect behind, ?_⟩, ?_⟩
  · rw [TransportFailure.kind_of_connect, eq_comm, TransportFailure.causeOfChain_eq_connect]
    simp [TransportFailure.isSilent]
  · intro r o posting kind method uri cause hr hposted herror
    obtain ⟨before, i, f, after, hsplit, hplace, rfl, hcause⟩ :=
      run_transport_error hr hposted herror
    obtain ⟨hdns, htls⟩ := f.kind_ne
    exact ⟨hdns, htls, before, i, f, after, hsplit, hplace, rfl, hcause⟩

/-- A target whose name cannot be looked up, three times. -/
def lookupEvents : List Event :=
  let lost : Signal := .answer (.failure (.client .connect ["dns error", "no such host"]))
  .dispatch (.new .get "x") [⟨0, "http://a"⟩] ::
    ([.turn, .turn, lost, .turn, lost, .turn, lost] : List Signal).map (.signal 0 0)

/-- The outcome of `lookupEvents` has the kind of a failed connection. -/
theorem run_causes_lookup :
    ∃ r ∈ (plain.run lookupEvents).2, ∃ o posting kind method uri cause,
      r.effect = .posted o posting ∧ o.error = some (.transport kind method uri cause) ∧
      kind ≠ .dns ∧ kind ≠ .tls := by
  have hthere : ((plain.run lookupEvents).2.any fun r => r.effect.posted?.any fun o =>
      o.error.any (·.code == .transport)) = true := by decide +kernel
  obtain ⟨r, hr, o, posting, hposted, htransport⟩ := History.exists_post hthere
  obtain ⟨error, herror, hcode⟩ := (Option.any_eq_true _ _).mp htransport
  cases error with
  | transport kind method uri cause =>
    obtain ⟨hdns, htls, _⟩ := (run_causes plain lookupEvents).2 hr hposted herror
    exact ⟨r, hr, o, posting, kind, method, uri, cause, hposted, herror, hdns, htls⟩
  | _ => cases hcode

end Engine

end Replicast
