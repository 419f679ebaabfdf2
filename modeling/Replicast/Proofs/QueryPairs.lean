import Replicast.Operation
import Replicast.Proofs.Form
import Replicast.Proofs.QueryPairs.Parts
/-!
# Query pairs

Names and values are added to the query of a text by way of the URL that the text is read as, or
behind the text when it is none.  The first way puts scheme, authority and path into their normal
form, and the second one loses the pairs where the text ends in a fragment.

## Overview

* `Uri.normalized` is the text as a URL would be written.
* `Uri.Extends` relates it to the text with pairs, and `Uri.addPairs_extends` says that pairs are
  added in this way.
* `Uri.resolve_place` compares the URI with pairs to the one without.
* `Operation.uriFor_pairs` says which pairs arrive.
-/

namespace Replicast

/-! ## §1 Adding pairs -/

theorem Utf8.length_encode_le {xs ys : List Char} (h : List.Sublist xs ys) :
    (encode xs).length ≤ (encode ys).length := by
  induction h with
  | slnil => exact Nat.le_refl _
  | cons c _ ih => exact Nat.le_trans ih (by simp [encode])
  | cons_cons c _ ih => simpa [encode] using ih

namespace Uri

/-- The normal form of a text: how the URL that it is read as is written.  What is no URL stays as
    it is. -/
def normalized (text : Chars) : Chars :=
  match Url.parse? text with
  | some url => url.text
  | none => text

theorem normalized_url {text : Chars} {url : Url} (h : Url.parse? text = some url) :
    normalized text = url.text := by
  rw [normalized, h]

theorem normalized_raw {text : Chars} (h : Url.parse? text = none) : normalized text = text := by
  rw [normalized, h]

/-- What has become of a text to which pairs were added. -/
inductive Added (text longer : Chars) (pairs : Form.Pairs) : Prop where
  /-- They are behind the query. -/
  | behind {query : Chars} :
      Url.parse? text ≠ none ∨ '#' ∉ text → query? longer = some query →
      (query? (normalized text)).getD [] <+: query →
      Form.decode query = Form.decode ((query? (normalized text)).getD []) ++ pairs →
      ('?' ∉ text → query? (normalized text) = none) → Added text longer pairs
  /-- They are in the fragment. -/
  | lost :
      Url.parse? text = none → '#' ∈ text → query? longer = query? text → Added text longer pairs

/-- A text and the text with pairs: scheme, authority and path are those of the URL. -/
structure Extends (text longer : Chars) (pairs : Form.Pairs) : Prop where
  sublist : List.Sublist (normalized text) longer
  front : front longer = front (normalized text)
  added : Added text longer pairs

/-- Pairs are added to the query of a URL. -/
theorem extends_url {text : Chars} {url : Url} {pairs : Form.Pairs}
    (hurl : Url.parse? text = some url) (hplace : place? (url.appendPairs pairs).text ≠ none) :
    Extends text (url.appendPairs pairs).text pairs := by
  have hnormal := normalized_url hurl
  obtain ⟨hcolon, hquery⟩ := Url.parse?_query hurl
  have hclosed := Url.front_closed hurl
    (Url.scheme_of_place? (u := url.appendPairs pairs) hcolon hplace)
  have hfree : '#' ∉ Form.appendTo (url.query.getD []) pairs := Form.appendTo_free (by
    cases hq : url.query with
    | none => exact List.not_mem_nil
    | some q => exact (hquery q hq).2) pairs
  -- The query is all that differs.
  have htext : (url.appendPairs pairs).text = url.front ++
      ((some (Form.appendTo (url.query.getD []) pairs)).elim [] ('?' :: ·) ++
        url.fragment.elim [] ('#' :: ·)) :=
    Url.text_eq_front _
  obtain ⟨hfront, hold⟩ := cut_parts hclosed url.query (fun q hq => (hquery q hq).2) url.fragment
  obtain ⟨hfront', hnew⟩ := cut_parts hclosed
    (some (Form.appendTo (url.query.getD []) pairs))
    (fun q hq => Option.some.inj hq ▸ hfree) url.fragment
  rw [← Url.text_eq_front, ← hnormal] at hfront hold
  rw [← htext] at hfront' hnew
  have hbegins := Form.prefix_appendTo (url.query.getD []) pairs
  refine ⟨?_, hfront'.trans hfront.symm, .behind (.inl (by simp [hurl])) hnew ?_ ?_ fun hmark => ?_⟩
  · rw [hnormal, Url.text_eq_front, htext]
    refine .append (List.Sublist.refl _) (.append ?_ (List.Sublist.refl _))
    cases hq : url.query with
    | none => exact List.nil_sublist _
    | some q => exact .cons_cons _ (by simpa [hq] using hbegins.sublist)
  · rw [hold]
    exact hbegins
  · rw [hold]
    exact Form.decode_appendTo _ _
  · rw [hold]
    cases hq : url.query with
    | none => rfl
    | some q => exact absurd (hquery q hq).1 hmark

/-- Pairs are put behind a text that is no URL. -/
theorem extends_raw {text : Chars} (pairs : Form.Pairs) (hurl : Url.parse? text = none) :
    Extends text (text ++ (if text.contains '?' then '&' else '?') :: Form.encode pairs) pairs := by
  have hnormal := normalized_raw hurl
  have hsublist (behind : Chars) : List.Sublist (normalized text) (text ++ behind) :=
    hnormal.symm ▸ List.sublist_append_left _ _
  by_cases hhash : '#' ∈ text
  · obtain ⟨hfront, hquery⟩ := parts_append_of_mem hhash
      ((if text.contains '?' then '&' else '?') :: Form.encode pairs)
    exact ⟨hsublist _, hnormal.symm ▸ hfront, .lost hurl hhash hquery⟩
  have hfree (sep : Char) (hsep : sep ≠ '#') : '#' ∉ text ++ sep :: Form.encode pairs := by
    simp [hhash, hsep.symm, Form.encode_free pairs]
  obtain ⟨hold, holdQuery⟩ := parts_of_free hhash
  by_cases hmark : '?' ∈ text
  · -- They go on where the query that is there ends.
    rw [if_pos (by simpa using hmark)]
    obtain ⟨hnew, hnewQuery⟩ := parts_of_free (hfree '&' (by decide))
    obtain ⟨rest, hcut, hcut'⟩ := Chars.cut_append_of_mem (p := (· == '?')) hmark rfl
      ('&' :: Form.encode pairs)
    rw [hcut] at holdQuery
    rw [hcut'] at hnew hnewQuery
    refine ⟨hsublist _, by rw [hnew, hnormal, hold], .behind (.inr hhash) hnewQuery ?_ ?_
      fun hnone => absurd hmark hnone⟩
    · rw [hnormal, holdQuery]
      exact List.prefix_append _ _
    · rw [hnormal, holdQuery, Option.getD_some, Form.decode_append, Form.decode_encode]
  · -- There is no query yet.
    rw [if_neg (by simpa using hmark)]
    obtain ⟨hnew, hnewQuery⟩ := parts_of_free (hfree '?' (by decide))
    rw [Chars.cut_of_free (Chars.beq_of_not_mem hmark)] at hold holdQuery
    rw [Chars.cut_append (Chars.beq_of_not_mem hmark)] at hnew hnewQuery
    refine ⟨hsublist _, by simp [hnew, hnormal, hold, Chars.cut], .behind (.inr hhash) hnewQuery ?_
      ?_ fun _ => hnormal.symm ▸ holdQuery⟩
    · rw [hnormal, holdQuery]
      exact List.nil_prefix
    · rw [hnormal, holdQuery, Form.decode_encode]
      rfl

theorem addPairs_extends (text : Chars) {pairs : Form.Pairs} (hpairs : pairs ≠ [])
    (hplace : place? (addPairs text pairs) ≠ none) : Extends text (addPairs text pairs) pairs := by
  rw [addPairs, if_neg (by simpa using hpairs)] at hplace ⊢
  cases hurl : Url.parse? text with
  | none => exact extends_raw pairs hurl
  | some url =>
    rw [hurl] at hplace
    exact extends_url hurl hplace

/-- What fits the grammar with pairs does so without them. -/
theorem Extends.fits {text longer path : Chars} {pairs : Form.Pairs} {origin : Chars × Chars}
    (h : Extends text longer pairs) (hfits : Fits longer origin path) :
    Fits (normalized text) origin path := by
  refine ⟨Nat.le_trans (Utf8.length_encode_le h.sublist) hfits.short, ?_, hfits.authority,
    hfits.path, ?_⟩
  · rw [place?, ← h.front]
    exact hfits.place
  · have hquery := hfits.query
    cases h.added with
    | @behind query _ hlonger hbegins _ _ =>
      rw [hlonger, Option.getD_some] at hquery
      exact List.all_eq_true.mpr fun c hc => List.all_eq_true.mp hquery c (hbegins.subset hc)
    | lost hurl _ hsame =>
      rw [normalized_raw hurl, ← hsame]
      exact hquery

theorem resolve_eq_ok {base path : Chars} {pairs : Form.Pairs} {u : Uri} :
    resolve base path pairs = .ok u ↔ parse? (addPairs (joinPath base path) pairs) = some u := by
  refine ⟨resolve_ok, fun h => ?_⟩
  rw [resolve, targetText, h]

/-! ## §2 Scheme, authority and path -/

/-- **Query pairs touch only the query of the normal form.**  If base and path resolve with pairs,
    then the normal form of the joined text is read, without pairs, as a URI of the same scheme,
    authority and path.  The joined text itself resolves without pairs to such a URI exactly if it
    is short enough, its scheme, authority and path are those of its normal form, and its query can
    stand in a URI as it is. -/
theorem resolve_place {base path : Chars} {pairs : Form.Pairs} {u : Uri} (hpairs : pairs ≠ [])
    (h : resolve base path pairs = .ok u) :
    let joined := joinPath base path
    (∃ v, parse? (normalized joined) = some v ∧ v.origin = u.origin ∧ v.path = u.path) ∧
      ((∃ v, resolve base path [] = .ok v ∧ v.origin = u.origin ∧ v.path = u.path) ↔
        (Utf8.encode joined).length ≤ maxLength ∧ place? joined = place? (normalized joined) ∧
          ((query? joined).getD []).all isQueryChar = true) ∧
      (normalized joined = joined →
        ∃ v, resolve base path [] = .ok v ∧ v.origin = u.origin ∧ v.path = u.path) := by
  intro joined
  obtain ⟨origin, horigin, -, hfits⟩ := parse?_eq_some_iff.mp (resolve_eq_ok.mp h)
  have hplace : place? (addPairs joined pairs) = some (origin, u.path) := hfits.place
  have hextends := addPairs_extends joined hpairs (by simp [hplace])
  have hnormal := hextends.fits hfits
  -- Any text that has this place and fits is read with the same origin and path.
  have hread {text : Chars} (hfits : Fits text origin u.path) :
      ∃ v, parse? text = some v ∧ v.origin = u.origin ∧ v.path = u.path :=
    ⟨⟨some origin, u.path, query? text⟩, parse?_eq_some_iff.mpr ⟨origin, rfl, rfl, hfits⟩,
      horigin.symm, rfl⟩
  have hresolve (v : Uri) : resolve base path [] = .ok v ↔ parse? joined = some v := by
    rw [resolve_eq_ok, addPairs, if_pos List.isEmpty_nil]
  simp only [hresolve]
  refine ⟨hread hnormal, ⟨?_, ?_⟩, fun hsame => hsame ▸ hread hnormal⟩
  · rintro ⟨v, hv, hvorigin, hvpath⟩
    obtain ⟨origin', horigin', -, hfits'⟩ := parse?_eq_some_iff.mp hv
    rw [hvorigin, horigin] at horigin'
    obtain rfl := Option.some.inj horigin'
    rw [hvpath] at hfits'
    exact ⟨hfits'.short, hfits'.place.trans hnormal.place.symm, hfits'.query⟩
  · rintro ⟨hshort, hplace, hquery⟩
    exact hread ⟨hshort, hplace.trans hnormal.place, hnormal.authority, hnormal.path, hquery⟩

/-- Here the normal form has another path, the text resolves without pairs as well, and the two URIs
    differ. -/
theorem resolve_place_dotted :
    let u : Uri := ⟨some ("http".toList, "a.test".toList), "/y".toList, some "k=v".toList⟩
    let joined := joinPath "http://a.test/x/../y".toList []
    resolve "http://a.test/x/../y".toList [] [("k".toList, "v".toList)] = .ok u ∧
      (∃ v, parse? (normalized joined) = some v ∧ v.origin = u.origin ∧ v.path = u.path) ∧
      ¬ ∃ v, resolve "http://a.test/x/../y".toList [] [] = .ok v ∧ v.origin = u.origin ∧
        v.path = u.path := by
  intro u joined
  have hresolve : resolve "http://a.test/x/../y".toList [] [("k".toList, "v".toList)] = .ok u := by
    decide +kernel
  obtain ⟨hnormal, hiff, -⟩ := resolve_place (by simp) hresolve
  have hplace : place? joined ≠ place? (normalized joined) := by decide +kernel
  exact ⟨hresolve, hnormal, fun hsame => hplace (hiff.mp hsame).2.1⟩

/-- Pairs have a say in more than the query where the text is not in its normal form. -/
theorem resolve_pairs_moves :
    ¬ ∀ (base path : Chars) (pairs : Form.Pairs) (u : Uri), pairs ≠ [] →
      resolve base path pairs = .ok u →
      ∃ v, resolve base path [] = .ok v ∧ v.origin = u.origin ∧ v.path = u.path := by
  intro hall
  obtain ⟨v, hv, -, hpath⟩ := hall "http://a.test/x/../y".toList [] [("k".toList, "v".toList)]
    ⟨some ("http".toList, "a.test".toList), "/y".toList, some "k=v".toList⟩ (by simp)
    (by decide +kernel)
  have hplain : resolve "http://a.test/x/../y".toList [] [] =
      .ok ⟨some ("http".toList, "a.test".toList), "/x/../y".toList, none⟩ := by decide +kernel
  obtain rfl := Except.ok.inj (hplain.symm.trans hv)
  revert hpath
  decide

end Uri

/-! ## §3 The pairs of an operation -/

namespace Operation

/-- The pairs that a setting adds. -/
def Setting.pairs : Setting → List (String × String)
  | .queryPair name value => [(name, value)]
  | .queryPairs pairs => pairs
  | _ => []

/-- Every setting adds its pairs behind those that are there. -/
theorem apply_query {op after : Operation} {setting : Setting} (h : op.apply setting = .ok after) :
    after.query = op.query ++ setting.pairs := by
  cases setting with
  | queryPair _ _ | queryPairs _ =>
    obtain rfl := Except.ok.inj h
    rfl
  | header _ _ | headers _ | body _ | timeout _ | retryPolicy _ | parent _ | handler _ =>
    obtain rfl := Except.ok.inj h
    exact (List.append_nil _).symm
  | tryHeader name value =>
    cases hread : ClientBuilder.readHeader name value with
    | error e => simp [apply, hread, bind, Except.bind] at h
    | ok found =>
      simp only [apply, hread, bind, Except.bind] at h
      obtain rfl := Except.ok.inj h
      exact (List.append_nil _).symm
  | json payload =>
    cases payload with
    | error cause => cases h
    | ok document =>
      obtain rfl := Except.ok.inj h
      exact (List.append_nil _).symm

/-- The pairs of an operation are those of its settings, in order. -/
theorem applyAll_query {op after : Operation} {settings : List Setting}
    (h : op.applyAll settings = .ok after) :
    after.query = op.query ++ settings.flatMap Setting.pairs := by
  induction settings generalizing op with
  | nil =>
    obtain rfl := Except.ok.inj h
    simp
  | cons setting rest ih =>
    cases hfirst : op.apply setting with
    | error e => simp [applyAll, hfirst, bind, Except.bind] at h
    | ok next =>
      have hrest : next.applyAll rest = .ok after := by
        simpa [applyAll, hfirst, bind, Except.bind] using h
      rw [ih hrest, apply_query hfirst, List.append_assoc, List.flatMap_cons]

/-- **Query pairs arrive intact.**  If the URI for a target resolves, it has a query.  This is read
    as what the query was before, followed by the pairs that the settings give, over any number of
    them and in order; and as these pairs alone if the joined text has no question mark.  There is
    one exception: behind the fragment of a text that is no URL the pairs are dropped, and the URI
    is the one without them. -/
theorem uriFor_pairs {method : Method} {path : String} {settings : List Setting} {op : Operation}
    (hop : (Operation.new method path).applyAll settings = .ok op) {t : Target} {u : Uri}
    (hpairs : settings.flatMap Setting.pairs ≠ []) (hu : op.uriFor t = .ok u) :
    let given := (settings.flatMap Setting.pairs).map fun pair => (pair.1.toList, pair.2.toList)
    let joined := Uri.joinPath t.baseUrl.toList op.path.toList
    (Url.parse? joined ≠ none ∨ '#' ∉ joined →
      ∃ query, u.query = some query ∧
        Form.decode query =
          Form.decode ((Uri.query? (Uri.normalized joined)).getD []) ++ given ∧
        ('?' ∉ joined → Form.decode query = given)) ∧
      (Url.parse? joined = none → '#' ∈ joined →
        Uri.resolve t.baseUrl.toList op.path.toList [] = .ok u) := by
  intro given joined
  have hquery : op.query = settings.flatMap Setting.pairs := applyAll_query hop
  rw [uriFor, hquery] at hu
  obtain ⟨origin, horigin, hsame, hfits⟩ := Uri.parse?_eq_some_iff.mp (Uri.resolve_eq_ok.mp hu)
  have hplace : Uri.place? (Uri.addPairs joined given) = some (origin, u.path) := hfits.place
  have hgiven : given ≠ [] := by simpa [given] using hpairs
  have hextends := Uri.addPairs_extends joined hgiven (by simp [hplace])
  have hsame : u.query = Uri.query? (Uri.addPairs joined given) := hsame
  cases hextends.added with
  | @behind query hkept hlonger _ hdecode hnone =>
    refine ⟨fun _ => ⟨query, hsame.trans hlonger, hdecode, fun hmark => ?_⟩, fun hraw hhash => ?_⟩
    · rw [hdecode, hnone hmark]
      rfl
    · exact absurd hkept (by simp [hraw, hhash])
  | lost hraw hhash hlonger =>
    -- The text with pairs has the parts of the text without them.
    refine ⟨fun hkept => absurd hkept (by simp [hraw, hhash]), fun _ _ => ?_⟩
    rw [Uri.resolve_eq_ok, Uri.addPairs, if_pos List.isEmpty_nil]
    have hfits := hextends.fits hfits
    rw [Uri.normalized_raw hraw] at hfits
    exact Uri.parse?_eq_some_iff.mpr ⟨origin, horigin, hsame.trans hlonger, hfits⟩

/-- Names and values with characters that have to be encoded, over two settings. -/
def pairSettings : List Setting :=
  [.queryPair "ключ" "a b&c=d", .queryPairs [("", "100%"), ("#", "+")]]

/-- They arrive at a target whose base URL has a query and a fragment. -/
theorem uriFor_pairs_encoded :
    ∃ op u query, (Operation.new .get "").applyAll pairSettings = .ok op ∧
      op.uriFor ⟨0, "http://a.test/x?y=1#z"⟩ = .ok u ∧ u.query = some query ∧
      Form.decode query = [("y".toList, "1".toList), ("ключ".toList, "a b&c=d".toList),
        ([], "100%".toList), ("#".toList, "+".toList)] := by
  let op : Operation :=
    { Operation.new .get "" with
      query := [("ключ", "a b&c=d"), ("", "100%"), ("#", "+")] }
  have hop : (Operation.new .get "").applyAll pairSettings = .ok op := rfl
  have hu : op.uriFor ⟨0, "http://a.test/x?y=1#z"⟩ =
      .ok ⟨some ("http".toList, "a.test".toList), "/x".toList,
        some "y=1&%D0%BA%D0%BB%D1%8E%D1%87=a+b%26c%3Dd&=100%25&%23=%2B".toList⟩ := by
    decide +kernel
  have hurl : Url.parse? (Uri.joinPath "http://a.test/x?y=1#z".toList []) ≠ none := by
    decide +kernel
  obtain ⟨query, hquery, hdecode, -⟩ := (uriFor_pairs hop (by decide) hu).1 (.inl hurl)
  have hbefore : Form.decode ((Uri.query? (Uri.normalized
      (Uri.joinPath "http://a.test/x?y=1#z".toList []))).getD []) = [("y".toList, "1".toList)] := by
    decide +kernel
  refine ⟨op, _, query, hop, hu, hquery, hdecode.trans ?_⟩
  rw [show op.path.toList = [] from rfl, hbefore]
  rfl

/-- Not all pairs arrive: a port may be too large for a URL, and a fragment may follow it. -/
theorem uriFor_loses_pairs :
    ¬ ∀ (op : Operation) (t : Target) (u : Uri), op.query ≠ [] → op.uriFor t = .ok u →
      ∃ query before, u.query = some query ∧ Form.decode query =
        before ++ op.query.map fun pair => (pair.1.toList, pair.2.toList) := by
  intro hall
  obtain ⟨query, _, hquery, -⟩ := hall { Operation.new .get "" with query := [("k", "v")] }
    ⟨0, "http://node.test:99999#top"⟩
    ⟨some ("http".toList, "node.test:99999".toList), "/".toList, none⟩ (by decide)
    (by decide +kernel)
  cases hquery

end Operation

end Replicast
