import Replicast.Proofs.Engine.Newborn
/-!
# Lists of settings

A client and an operation are told one setting after another, and the first refusal ends it.  What
a setting says about one part of the state, the last setting with a say decides; and whether a
setting is refused does not depend on what came before.

## Overview

* `Told.read_last`, `Told.preserves` and `Told.eq_error_iff` are the laws of steps that can be
  refused.
* `ClientBuilder.apply_told` and `Operation.apply_told` say what a setting does to the
  configuration, the headers and the limits, and `Setting.refusal?` says why it is refused.
* `Engine.Event.requested?` is the operation that an event dispatches, as it was made.
-/

namespace Replicast

/-! ## §1 Steps that can be refused -/

namespace Told

variable {σ α ε γ : Type} {f : σ → α → Except ε σ} {s s' : σ} {xs : List α}

/-- The first step, and then the others. -/
theorem cons_eq_ok {x : α} :
    (x :: xs).foldlM f s = .ok s' ↔ ∃ middle, f s x = .ok middle ∧ xs.foldlM f middle = .ok s' := by
  rw [List.foldlM_cons]
  cases f s x with
  | error e => simp [bind, Except.bind]
  | ok middle => simp [bind, Except.bind]

/-- **The last word counts**: when every step reads what it says about a part of the state, or
    leaves this part, a whole list leaves what the last step with a say has said. -/
theorem read_last (read : σ → γ) (word? : α → Option γ)
    (hstep : ∀ s x s', f s x = .ok s' → read s' = (word? x).getD (read s))
    (h : xs.foldlM f s = .ok s') :
    read s' = (xs.filterMap word?).getLast?.getD (read s) := by
  induction xs generalizing s with
  | nil =>
    obtain rfl := Except.ok.inj h
    rfl
  | cons x rest ih =>
    obtain ⟨middle, hfirst, hrest⟩ := cons_eq_ok.mp h
    rw [ih hrest, hstep s x middle hfirst, List.filterMap_cons]
    cases word? x with
    | none => rfl
    | some word =>
      rw [List.getLast?_cons]
      rfl

/-- What every accepted step keeps, a whole list keeps. -/
theorem preserves {P : σ → Prop} (hstep : ∀ x ∈ xs, ∀ s s', P s → f s x = .ok s' → P s')
    (hs : P s) (h : xs.foldlM f s = .ok s') : P s' := by
  induction xs generalizing s with
  | nil =>
    obtain rfl := Except.ok.inj h
    exact hs
  | cons x rest ih =>
    obtain ⟨middle, hfirst, hrest⟩ := cons_eq_ok.mp h
    exact ih (fun y hy => hstep y (List.mem_cons_of_mem x hy))
      (hstep x List.mem_cons_self s middle hs hfirst) hrest

/-- **The first refusal ends it**, when it is the step alone that decides whether it is refused. -/
theorem eq_error_iff {refusal? : α → Option ε}
    (hrefused : ∀ s x e, refusal? x = some e → f s x = .error e)
    (haccepted : ∀ s x, refusal? x = none → ∃ s', f s x = .ok s') {e : ε} :
    xs.foldlM f s = .error e ↔ xs.findSome? refusal? = some e := by
  induction xs generalizing s with
  | nil => constructor <;> intro h <;> cases h
  | cons x rest ih =>
    rw [List.foldlM_cons, List.findSome?_cons]
    cases hx : refusal? x with
    | some e' =>
      rw [hrefused s x e' hx]
      simp [bind, Except.bind]
    | none =>
      obtain ⟨middle, hmiddle⟩ := haccepted s x hx
      rw [hmiddle]
      exact ih

end Told

/-! ## §2 The settings of a client -/

namespace ClientBuilder

/-- Why a header by its texts is refused. -/
def headerRefusal? (name value : String) : Option Error :=
  match Header.Name.parse? name with
  | none => some (.invalidHeaderName name)
  | some n => if (Header.Value.parse? value).isNone then some (.invalidHeaderValue n.text) else none

theorem readHeader_eq_error {name value : String} {e : Error}
    (h : headerRefusal? name value = some e) : readHeader name value = .error e := by
  unfold headerRefusal? at h
  unfold readHeader
  cases hname : Header.Name.parse? name with
  | none =>
    rw [hname] at h
    exact congrArg Except.error (Option.some.inj h)
  | some n =>
    rw [hname] at h
    cases hvalue : Header.Value.parse? value with
    | none =>
      rw [hvalue] at h
      exact congrArg Except.error (Option.some.inj h)
    | some v => simp [hvalue] at h

theorem readHeader_eq_ok {name value : String} (h : headerRefusal? name value = none) :
    ∃ n v, Header.Name.parse? name = some n ∧ Header.Value.parse? value = some v ∧
      readHeader name value = .ok (n, v) := by
  unfold headerRefusal? at h
  unfold readHeader
  cases hname : Header.Name.parse? name with
  | none => simp [hname] at h
  | some n =>
    cases hvalue : Header.Value.parse? value with
    | none => simp [hname, hvalue] at h
    | some v => exact ⟨n, v, rfl, rfl, rfl⟩

/-- The configuration that a setting leaves. -/
def Setting.configured (c : Config) : Setting → Config
  | .config s => c.apply s
  | .replaceConfig c' => c'
  | _ => c

/-- The default headers that a setting sets. -/
def Setting.headerPairs : Setting → List (Header.Name × Header.Value)
  | .header name value => [(name, value)]
  | .defaultHeader name value => (readHeader name value).toOption.toList
  | _ => []

/-- What a setting does. -/
theorem apply_told {b b' : ClientBuilder} {s : Setting} (h : b.apply s = .ok b') :
    b'.config = s.configured b.config ∧
      b'.defaultHeaders = b.defaultHeaders.insertAll s.headerPairs := by
  cases s with
  | defaultHeader name value =>
    simp only [Setting.headerPairs]
    cases hread : readHeader name value with
    | error e => simp [apply, hread, bind, Except.bind] at h
    | ok header =>
      obtain ⟨n, v⟩ := header
      obtain rfl : { b with defaultHeaders := b.defaultHeaders.insert n v } = b' := by
        simpa [apply, hread, bind, Except.bind] using h
      exact ⟨rfl, rfl⟩
  | _ =>
    obtain rfl := Except.ok.inj h
    exact ⟨rfl, rfl⟩

/-- Why a setting is refused. -/
def Setting.refusal? : Setting → Option Error
  | .defaultHeader name value => headerRefusal? name value
  | _ => none

theorem apply_refused (b : ClientBuilder) (s : Setting) (e : Error) (h : s.refusal? = some e) :
    b.apply s = .error e := by
  cases s with
  | defaultHeader name value =>
    show (readHeader name value >>= _) = _
    rw [readHeader_eq_error h]
    rfl
  | _ => cases h

theorem apply_accepted (b : ClientBuilder) (s : Setting) (h : s.refusal? = none) :
    ∃ b', b.apply s = .ok b' := by
  cases s with
  | defaultHeader name value =>
    obtain ⟨n, v, _, _, hread⟩ := readHeader_eq_ok h
    refine ⟨{ b with defaultHeaders := b.defaultHeaders.insert n v }, ?_⟩
    show (readHeader name value >>= _) = _
    rw [hread]
    rfl
  | _ => exact ⟨_, rfl⟩

/-- A list of settings is refused when one of them is, and for the reason of the first one. -/
theorem applyAll_eq_error_iff {b : ClientBuilder} {settings : List Setting} {e : Error} :
    b.applyAll settings = .error e ↔ settings.findSome? Setting.refusal? = some e :=
  Told.eq_error_iff apply_refused apply_accepted

/-- The settings of a configuration, given to the client that is built from it. -/
theorem ofConfig_applyAll (config : Config) (told : List Config.Setting) (settings : List Setting) :
    (ofConfig (config.applyAll told)).applyAll settings =
      (ofConfig config).applyAll (told.map Setting.config ++ settings) := by
  induction told generalizing config with
  | nil => rfl
  | cons s rest ih => exact ih (config.apply s)

end ClientBuilder

/-! ## §3 The settings of an operation -/

namespace Operation

/-- The headers that a setting sets, in turn. -/
def Setting.headerPairs : Setting → List (Header.Name × Header.Value)
  | .header name value => [(name, value)]
  | .tryHeader name value => (ClientBuilder.readHeader name value).toOption.toList
  | .headers m => m.entries
  | .json (.ok _) => [(Header.Name.contentType, Header.Value.json)]
  | _ => []

/-- The deadline of its own that a setting leaves an operation. -/
def Setting.timed (timeout : Option Duration) : Setting → Option Duration
  | .timeout d => some (d.longer minRequestTimeout)
  | _ => timeout

/-- The retry policy of its own that a setting leaves an operation. -/
def Setting.retried (policy : Option RetryPolicy) : Setting → Option RetryPolicy
  | .retryPolicy p => some p
  | _ => policy

/-- What a setting does to the headers and the limits. -/
theorem apply_told {op op' : Operation} {s : Setting} (h : op.apply s = .ok op') :
    op'.headers = op.headers.insertAll s.headerPairs ∧ op'.timeout = s.timed op.timeout ∧
      op'.retryPolicy = s.retried op.retryPolicy := by
  cases s with
  | tryHeader name value =>
    simp only [Setting.headerPairs]
    cases hread : ClientBuilder.readHeader name value with
    | error e => simp [apply, hread, bind, Except.bind] at h
    | ok header =>
      obtain ⟨n, v⟩ := header
      obtain rfl : { op with headers := op.headers.insert n v } = op' := by
        simpa [apply, hread, bind, Except.bind] using h
      exact ⟨rfl, rfl, rfl⟩
  | json payload =>
    cases payload with
    | error cause => cases h
    | ok document =>
      obtain rfl := Except.ok.inj h
      exact ⟨rfl, rfl, rfl⟩
  | _ =>
    obtain rfl := Except.ok.inj h
    exact ⟨rfl, rfl, rfl⟩

/-- Why a setting is refused. -/
def Setting.refusal? : Setting → Option Error
  | .tryHeader name value => ClientBuilder.headerRefusal? name value
  | .json (.error cause) => some (.serializeJson cause)
  | _ => none

theorem apply_refused (op : Operation) (s : Setting) (e : Error) (h : s.refusal? = some e) :
    op.apply s = .error e := by
  cases s with
  | tryHeader name value =>
    show (ClientBuilder.readHeader name value >>= _) = _
    rw [ClientBuilder.readHeader_eq_error h]
    rfl
  | json payload =>
    cases payload with
    | error cause => exact congrArg Except.error (Option.some.inj h)
    | ok document => cases h
  | _ => cases h

theorem apply_accepted (op : Operation) (s : Setting) (h : s.refusal? = none) :
    ∃ op', op.apply s = .ok op' := by
  cases s with
  | tryHeader name value =>
    obtain ⟨n, v, _, _, hread⟩ := ClientBuilder.readHeader_eq_ok h
    refine ⟨{ op with headers := op.headers.insert n v }, ?_⟩
    show (ClientBuilder.readHeader name value >>= _) = _
    rw [hread]
    rfl
  | json payload =>
    cases payload with
    | error cause => cases h
    | ok document => exact ⟨_, rfl⟩
  | _ => exact ⟨_, rfl⟩

/-- A list of settings is refused when one of them is, and for the reason of the first one. -/
theorem applyAll_eq_error_iff {op : Operation} {settings : List Setting} {e : Error} :
    op.applyAll settings = .error e ↔ settings.findSome? Setting.refusal? = some e :=
  Told.eq_error_iff apply_refused apply_accepted

end Operation

/-! ## §4 The operation of an event -/

namespace Engine

/-- The operation that an event dispatches, as it was made. -/
def Event.requested? : Event → Option Operation
  | .dispatch op _ | .replicate op _ _ _ => some op
  | _ => none

/-- Its batch differs in the handler at most. -/
theorem Event.operation?_of_requested? {event : Event} {op : Operation}
    (h : event.requested? = some op) :
    ∃ handler, event.operation? = some { op with handler := handler } := by
  cases event with
  | dispatch op' _ =>
    obtain rfl := Option.some.inj h
    exact ⟨op'.handler, rfl⟩
  | replicate op' _ _ _ =>
    obtain rfl := Option.some.inj h
    exact ⟨none, rfl⟩
  | _ => cases h

end Engine

end Replicast
