import Replicast.Proofs.Carriage
import Replicast.Proofs.Settings
/-!
# One value under every name

The headers of a request are set by the client and by its operation, one pair after another.  Maps
can hold several values under a name, but every setting forgets the values that were there, and so
does the laying of one map over another.

## Overview

* `Header.Map.values_insert` and `Header.Map.values_insertAll` are the laws of setting pairs.
* `Header.Name.parse?_eq_of_lower` says that letter case does not count in a name.
* `Operation.headersFor_values` are the values that a request starts with: one under every name that
  was set, and the last word on it.
* `Engine.run_headers` is the result, about what an interceptor is shown in a run.
-/

namespace Replicast

/-! ## §1 Names -/

/-- Only letters are changed by lower case, and they stay letters. -/
theorem Token.isTokenChar_toLower (c : Char) : isTokenChar c.toLower = isTokenChar c := by
  by_cases hupper : c.isUpper = true
  · have hall : ∀ n ≤ 'Z'.toNat, 'A'.toNat ≤ n →
        isTokenChar (Char.ofNat n).toLower = isTokenChar (Char.ofNat n) := by decide
    obtain ⟨hlow, hhigh⟩ := of_decide_eq_true hupper
    have hletter := hall c.toNat hhigh hlow
    rwa [Char.ofNat_toNat] at hletter
  · rw [show c.toLower = c from dif_neg fun hletter => hupper (decide_eq_true hletter)]

theorem Token.isToken_lower (text : Chars) : isToken (Chars.lower text) = isToken text := by
  unfold isToken Chars.lower
  rw [List.isEmpty_map, List.all_map]
  congr 2
  funext c
  exact isTokenChar_toLower c

/-- Names that differ in letter case only are one name. -/
theorem Header.Name.parse?_eq_of_lower {text text' : String}
    (h : Chars.lower text.toList = Chars.lower text'.toList) : parse? text = parse? text' := by
  have htoken : Token.isToken text.toList = Token.isToken text'.toList := by
    rw [← Token.isToken_lower text.toList, h, Token.isToken_lower]
  have hlength : text.toList.length = text'.toList.length := by
    have hlower := congrArg List.length h
    rwa [Chars.lower, Chars.lower, List.length_map, List.length_map] at hlower
  have htext : String.ofList (text.toList.map Char.toLower) =
      String.ofList (text'.toList.map Char.toLower) := congrArg String.ofList h
  unfold parse?
  rw [htoken, hlength, htext]

/-! ## §2 Setting pairs -/

namespace Header

/-- The last value that some pairs give a name. -/
def lastValue? (name : Name) (pairs : List (Name × Value)) : Option Value :=
  ((pairs.filter (·.1 == name)).map (·.2)).getLast?

namespace Map

/-- A pair that is set stands for all pairs of its name, and other names keep theirs. -/
theorem filter_replaceFirst (name : Name) (value : Value) (other : Name)
    (entries : List (Name × Value)) :
    (replaceFirst name value entries).filter (·.1 == other) =
      if name == other then [(name, value)] else entries.filter (·.1 == other) := by
  induction entries with
  | nil =>
    rw [replaceFirst, List.filter_cons]
    rfl
  | cons entry rest ih =>
    unfold replaceFirst
    by_cases hentry : (entry.1 == name) = true
    · rw [if_pos hentry, List.filter_cons, List.filter_filter]
      obtain rfl := eq_of_beq hentry
      by_cases hname : (entry.1 == other) = true
      · -- The rest holds no further pair of the name.
        have hnone : rest.filter (fun x => x.1 == other && x.1 != entry.1) = [] := by
          apply List.filter_eq_nil_iff.mpr
          intro x _ hx
          obtain rfl := eq_of_beq hname
          simp [bne] at hx
        rw [if_pos hname, if_pos hname, hnone]
      · have hkept : rest.filter (fun x => x.1 == other && x.1 != entry.1) =
            rest.filter (·.1 == other) := by
          apply List.filter_congr
          intro x _
          by_cases hx : (x.1 == other) = true
          · obtain rfl := eq_of_beq hx
            have hne : entry.1 ≠ x.1 := fun h => hname (beq_iff_eq.mpr h)
            simp [bne, hne.symm]
          · simp [hx]
        rw [if_neg hname, if_neg hname, hkept, List.filter_cons, if_neg hname]
    · rw [if_neg hentry, List.filter_cons, List.filter_cons, ih]
      by_cases hname : (name == other) = true
      · obtain rfl := eq_of_beq hname
        rw [if_neg hentry, if_pos hname, if_pos hname]
      · rw [if_neg hname, if_neg hname]

/-- A name that is set holds one value, and other names keep theirs. -/
theorem values_insert (m : Map) (name : Name) (value : Value) (other : Name) :
    (m.insert name value).values other = if name == other then [value] else m.values other := by
  unfold values insert
  rw [filter_replaceFirst]
  split <;> rfl

/-- After some pairs were set in turn, a name holds the last value that they give it. -/
theorem values_insertAll (m : Map) (pairs : List (Name × Value)) (name : Name) :
    (m.insertAll pairs).values name = ((lastValue? name pairs).map ([·])).getD (m.values name) := by
  unfold insertAll
  induction pairs generalizing m with
  | nil => rfl
  | cons pair rest ih =>
    obtain ⟨first, value⟩ := pair
    rw [List.foldl_cons, ih, values_insert]
    unfold lastValue?
    rw [List.filter_cons]
    by_cases hname : (first == name) = true
    · rw [if_pos hname, if_pos hname, List.map_cons, List.getLast?_cons]
      cases ((rest.filter (·.1 == name)).map (·.2)).getLast? <;> rfl
    · rw [if_neg hname, if_neg hname]

end Map

end Header

/-! ## §3 The headers of a client and of an operation -/

/-- The last value that a setting of a client gives a name. -/
def ClientBuilder.Setting.value? (name : Header.Name) (s : ClientBuilder.Setting) :
    Option Header.Value :=
  Header.lastValue? name s.headerPairs

/-- The last value that a setting of an operation gives a name. -/
def Operation.Setting.value? (name : Header.Name) (s : Operation.Setting) : Option Header.Value :=
  Header.lastValue? name s.headerPairs

/-- A name without values before holds at most one value after some settings, the last one. -/
theorem Told.values_last {σ α : Type} {f : σ → α → Except Error σ} (read : σ → Header.Map)
    (pairs : α → List (Header.Name × Header.Value))
    (hstep : ∀ s x s', f s x = .ok s' → read s' = (read s).insertAll (pairs x)) {xs : List α}
    {s s' : σ} (h : xs.foldlM f s = .ok s') {name : Header.Name}
    (hnone : (read s).values name = []) :
    (read s').values name =
      ((xs.filterMap fun x => Header.lastValue? name (pairs x)).getLast?).toList := by
  have hlast := Told.read_last (fun s => (read s).values name)
    (fun x => (Header.lastValue? name (pairs x)).map ([·]))
    (fun s x s' hx => by rw [hstep s x s' hx, Header.Map.values_insertAll]) h
  rw [hlast, hnone, ← List.map_filterMap, List.getLast?_map]
  cases (xs.filterMap fun x => Header.lastValue? name (pairs x)).getLast? <;> rfl

theorem ClientBuilder.applyAll_values {config : Config} {settings : List ClientBuilder.Setting}
    {b : ClientBuilder} (h : (ofConfig config).applyAll settings = .ok b) (name : Header.Name) :
    b.defaultHeaders.values name = ((settings.filterMap (·.value? name)).getLast?).toList :=
  Told.values_last (f := apply) ClientBuilder.defaultHeaders ClientBuilder.Setting.headerPairs
    (fun _ _ _ hstep => (apply_told hstep).2) h rfl

namespace Operation

theorem applyAll_values {method : Method} {path : String} {settings : List Setting}
    {op : Operation} (h : (new method path).applyAll settings = .ok op) (name : Header.Name) :
    op.headers.values name = ((settings.filterMap (·.value? name)).getLast?).toList :=
  Told.values_last (f := apply) Operation.headers Setting.headerPairs
    (fun _ _ _ hstep => (apply_told hstep).1) h rfl

/-- The values that a request starts with. -/
theorem headersFor_values (op : Operation) (client : Client) (name : Header.Name) :
    (op.headersFor client).values name =
      if Header.Name.connection == name then [Header.Value.keepAlive]
      else
        ((op.headers.values name).getLast?.map ([·])).getD (client.defaultHeaders.values name) := by
  unfold headersFor Header.keepAlive Header.merge
  rw [Header.Map.values_insert, Header.Map.values_insertAll]
  rfl

/-- What a request of an operation holds under a name, given all settings. -/
def expected (defaults : List ClientBuilder.Setting) (settings : List Setting)
    (name : Header.Name) : Option Header.Value :=
  if Header.Name.connection == name then some Header.Value.keepAlive
  else ((settings.filterMap (·.value? name)).getLast?).or
    ((defaults.filterMap (·.value? name)).getLast?)

/-- The last word of the operation comes before the last word of its client. -/
theorem headersFor_expected {config : Config} {defaults : List ClientBuilder.Setting}
    {b : ClientBuilder} (hb : (ClientBuilder.ofConfig config).applyAll defaults = .ok b)
    {method : Method} {path : String} {settings : List Setting} {op : Operation}
    (hop : (new method path).applyAll settings = .ok op) (name : Header.Name) :
    (op.headersFor b.build).values name = (expected defaults settings name).toList := by
  have hdefaults : b.build.defaultHeaders.values name = _ := ClientBuilder.applyAll_values hb name
  rw [headersFor_values, applyAll_values hop, hdefaults]
  unfold expected
  split
  · rfl
  · cases (settings.filterMap (·.value? name)).getLast? <;> rfl

end Operation

/-! ## §4 Runs -/

namespace Engine

/-- What the interceptor of a client is shown for a target, in every run. -/
theorem run_consulted (client : Client) (now : Instant) (before after : List Event) {event : Event}
    {op : Operation} {targets : List Target} (hop : event.operation? = some op)
    (htargets : event.targets? = some targets) {i : Nat} {t : Target}
    (ht : targets[i]? = some t) :
    let number := ((start client now).run before).1.batches.length
    (((start client now).run (before ++ event :: after)).2.of number |>.effectsAt i).filterMap
        Effect.consulted? =
      (if client.interceptor.isSome then op.shown? client t else none).toList := by
  intro number
  obtain ⟨pre, hpre⟩ : ∃ pre, (op.prepareAll client
      ((start client now).run before).1.openings targets)[i]? = some pre := by
    have hlt : i < (op.prepareAll client
        ((start client now).run before).1.openings targets).length := by
      rw [Operation.prepareAll_length]
      exact (List.getElem?_eq_some_iff.mp ht).1
    exact ⟨_, List.getElem?_eq_getElem hlt⟩
  obtain ⟨t', openings, ht', rfl⟩ := Operation.prepareAll_getElem? op client hpre
  obtain rfl := Option.some.inj (ht.symm.trans ht')
  obtain ⟨_, _, _, _, _, hprovided⟩ := run_provided before after hop htargets hpre
  rw [hprovided.consulted, (Operation.prepare_prepared op client t openings).intercepted]

/-- **One value under every name, and the last word on it.**  A setting that is refused leaves no
    client or no operation, so that nothing is dispatched; the first one that is refused gives the
    reason.  Otherwise, whatever a client and an operation were told and whatever happens before and
    after, the interceptor is shown one head for every target whose URI can be resolved, and none
    for the others.  The head holds, under every name, `keep-alive` if it is the name of the
    connection, and else the last value that the operation was told; without one, the last default
    of the client; and without one, nothing.  Letter case does not count in names. -/
theorem run_headers (config : Config) (defaults : List ClientBuilder.Setting) (method : Method)
    (path : String) (settings : List Operation.Setting) :
    (∀ e, (ClientBuilder.ofConfig config).applyAll defaults = .error e ↔
      defaults.findSome? ClientBuilder.Setting.refusal? = some e) ∧
    (∀ e, (Operation.new method path).applyAll settings = .error e ↔
      settings.findSome? Operation.Setting.refusal? = some e) ∧
    (∀ text text' : String, Chars.lower text.toList = Chars.lower text'.toList →
      Header.Name.parse? text = Header.Name.parse? text') ∧
    ∀ (b : ClientBuilder) (op : Operation),
      (ClientBuilder.ofConfig config).applyAll defaults = .ok b →
      (Operation.new method path).applyAll settings = .ok op →
      ∀ (now : Instant) (before after : List Event) (event : Event) (targets : List Target),
        event.requested? = some op → event.targets? = some targets →
        ∀ i t, targets[i]? = some t →
        let number := ((start b.build now).run before).1.batches.length
        let done := (start b.build now).run (before ++ event :: after)
        let heads := ((done.2.of number).effectsAt i).filterMap Effect.consulted?
        heads.length = (b.interceptor.isSome && (op.uriFor t).isOk).toNat ∧
        ∀ head ∈ heads, ∀ name,
          head.headers.values name = (Operation.expected defaults settings name).toList := by
  refine ⟨fun e => ClientBuilder.applyAll_eq_error_iff, fun e => Operation.applyAll_eq_error_iff,
    fun text text' => Header.Name.parse?_eq_of_lower, ?_⟩
  intro b op hb hop now before after event targets hevent htargets i t ht number done heads
  obtain ⟨handler, hoperation⟩ := Event.operation?_of_requested? hevent
  have hheads : heads = (if b.interceptor.isSome then op.shown? b.build t else none).toList :=
    run_consulted b.build now before after hoperation htargets ht
  rw [hheads]
  constructor
  · cases b.interceptor.isSome with
    | false => rfl
    | true =>
      show (op.shown? b.build t).toList.length = (op.uriFor t).isOk.toNat
      unfold Operation.shown?
      cases op.uriFor t <;> rfl
  · intro head hhead name
    have hshown : op.shown? b.build t = some head := by
      cases hasked : b.interceptor.isSome with
      | false => simp [hasked] at hhead
      | true => simpa [hasked] using hhead
    unfold Operation.shown? at hshown
    cases huri : op.uriFor t with
    | error text => simp [huri] at hshown
    | ok uri =>
      obtain rfl : ⟨op.method, uri, op.headersFor b.build⟩ = head := by simpa [huri] using hshown
      exact Operation.headersFor_expected hb hop name

/-- Defaults of a client, one of them under two spellings. -/
def defaultSettings : List ClientBuilder.Setting :=
  [.defaultHeader "X-Tag" "first", .defaultHeader "x-tag" "second",
    .header ⟨"accept"⟩ ⟨"text/plain"⟩, .interceptor fun _ head => ⟨head, none⟩]

/-- Headers of a write: its own connection, a map with two values of a name, and a document. -/
def headerSettings : List Operation.Setting :=
  [.tryHeader "Connection" "close", .header Header.Name.contentType ⟨"text/plain"⟩,
    .headers ⟨[(⟨"accept"⟩, ⟨"a/b"⟩), (⟨"accept"⟩, ⟨"c/d"⟩)]⟩, .json (.ok .null)]

/-- The interceptor is shown the last word on every name. -/
theorem run_headers_last :
    ∃ b op,
      (ClientBuilder.ofConfig Config.standard).applyAll defaultSettings = .ok b ∧
      (Operation.new .put "x").applyAll headerSettings = .ok op ∧
      ∃ head, (((start b.build ⟨0⟩).run [.dispatch op [⟨0, "http://a"⟩]]).2.of 0
          |>.effectsAt 0).filterMap Effect.consulted? = [head] ∧
        head.headers.values Header.Name.connection = [Header.Value.keepAlive] ∧
        head.headers.values ⟨"accept"⟩ = [⟨"c/d"⟩] ∧
        head.headers.values Header.Name.contentType = [Header.Value.json] ∧
        head.headers.values ⟨"x-tag"⟩ = [⟨"second"⟩] ∧ head.headers.values ⟨"x-other"⟩ = [] := by
  obtain ⟨hdefaults, hsettings, _, hrun⟩ :=
    run_headers Config.standard defaultSettings .put "x" headerSettings
  obtain ⟨b, hb⟩ : ∃ b,
      (ClientBuilder.ofConfig Config.standard).applyAll defaultSettings = .ok b := by
    cases hb : (ClientBuilder.ofConfig Config.standard).applyAll defaultSettings with
    | ok b => exact ⟨b, rfl⟩
    | error e => cases (hdefaults e).mp hb
  obtain ⟨op, hop⟩ : ∃ op, (Operation.new .put "x").applyAll headerSettings = .ok op := by
    cases hop : (Operation.new .put "x").applyAll headerSettings with
    | ok op => exact ⟨op, rfl⟩
    | error e => cases (hsettings e).mp hop
  obtain ⟨hlength, hvalues⟩ := hrun b op hb hop ⟨0⟩ [] [] (.dispatch op [⟨0, "http://a"⟩])
    [⟨0, "http://a"⟩] rfl rfl 0 ⟨0, "http://a"⟩ rfl
  -- There is an interceptor, and the URI can be resolved.
  have hasked : (((ClientBuilder.ofConfig Config.standard).applyAll defaultSettings).toOption.any
      (·.interceptor.isSome)) = true := by decide +kernel
  have hresolved : (((Operation.new .put "x").applyAll headerSettings).toOption.any fun op =>
      (op.uriFor ⟨0, "http://a"⟩).isOk) = true := by decide +kernel
  rw [hb] at hasked
  rw [hop] at hresolved
  have hlength := hlength.trans (congrArg Bool.toNat
    (congrArg₂ (· && ·) (show b.interceptor.isSome = true from hasked)
      (show (op.uriFor ⟨0, "http://a"⟩).isOk = true from hresolved)))
  obtain ⟨head, hhead⟩ := List.length_eq_one_iff.mp hlength
  have hvalues := hvalues head (hhead ▸ List.mem_cons_self)
  refine ⟨b, op, hb, hop, head, hhead, ?_, ?_, ?_, ?_, ?_⟩
  · exact (hvalues _).trans (by decide +kernel)
  · exact (hvalues _).trans (by decide +kernel)
  · exact (hvalues _).trans (by decide +kernel)
  · exact (hvalues _).trans (by decide +kernel)
  · exact (hvalues _).trans (by decide +kernel)

end Engine

end Replicast
