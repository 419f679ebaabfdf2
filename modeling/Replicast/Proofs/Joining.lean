import Mathlib.Data.List.DropRight
import Replicast.Proofs.QueryPairs
/-!
# A path behind a base URL

Base and path are joined as texts, before anything is read: the path comes behind the last character
of the base that is not a slash.  Where this character belongs to the path of the base, the path of
the request is the one of the base and the given one behind it.  Where it belongs to a query or to a
fragment, so does the given path.

## Overview

* `Uri.joinPath_appended` and `Uri.joinPath_nil` say what is joined.
* `Uri.place?_joined` is the place of a text with a path behind it.
* `Uri.resolve_joined` is the result, about the URIs with and without a path.
-/

namespace Replicast

/-! ## §1 Texts without slashes at their end -/

namespace Chars

/-- Without slashes at their end. -/
abbrev trimSlashes (text : Chars) : Chars := trimEnd (· == '/') text

/-- What is trimmed stays as it is when it is trimmed again. -/
theorem trimEnd_trimEnd (p : Char → Bool) (text : Chars) :
    trimEnd p (trimEnd p text) = trimEnd p text :=
  List.rdropWhile_idempotent p text

/-- Only characters of the class are trimmed. -/
theorem mem_trimEnd {p : Char → Bool} {text : Chars} {c : Char} (hc : p c = false) :
    c ∈ trimEnd p text ↔ c ∈ text := by
  constructor
  · intro h
    exact (List.rdropWhile_prefix p text).mem h
  · intro h
    obtain ⟨front, behind, rfl⟩ := List.append_of_mem h
    rw [trimEnd_append_cons hc]
    exact List.mem_append_right front List.mem_cons_self

/-- What stands in front of more than what is trimmed stays. -/
theorem trimEnd_append {p : Char → Bool} {behind : Chars} (h : trimEnd p behind ≠ [])
    (front : Chars) : trimEnd p (front ++ behind) = front ++ trimEnd p behind := by
  unfold trimEnd at h ⊢
  rw [List.reverse_append, List.dropWhile_append, if_neg (by simpa using h), List.reverse_append,
    List.reverse_reverse]

/-- The end of a trimmed text is trimmed, unless all of it is gone. -/
theorem trimEnd_of_append {p : Char → Bool} {front behind : Chars}
    (h : trimEnd p (front ++ behind) = front ++ behind) : trimEnd p behind = behind := by
  apply List.rdropWhile_eq_self_iff.mpr
  intro hne
  have hlast := List.rdropWhile_eq_self_iff.mp h (List.append_ne_nil_of_right_ne_nil front hne)
  rwa [List.getLast_append_of_ne_nil _ hne] at hlast

end Chars

namespace Uri

open Chars (trimSlashes)

/-! ## §2 What is joined -/

/-- A path without slashes at its beginning. -/
abbrev relative (path : Chars) : Chars := Chars.trimStart (· == '/') path

theorem joinPath_nil (base : Chars) : joinPath base [] = trimSlashes base := by
  unfold joinPath
  dsimp only
  split
  · rename_i hempty
    exact (List.isEmpty_iff.mp hempty).symm
  · rfl

/-- What a path puts behind a base. -/
def appended (path : Chars) : Chars :=
  if (relative path).isEmpty then [] else '/' :: relative path

theorem joinPath_appended {base : Chars} (h : trimSlashes base ≠ []) (path : Chars) :
    joinPath base path = trimSlashes base ++ appended path := by
  unfold joinPath appended
  dsimp only
  rw [if_neg (by simpa using h)]
  split
  · rw [List.append_nil]
  · rfl

theorem joinPath_eq {base path : Chars} (hbase : trimSlashes base ≠ [])
    (hpath : relative path ≠ []) :
    joinPath base path = trimSlashes base ++ '/' :: relative path := by
  rw [joinPath_appended hbase, appended, if_neg (by simpa using hpath)]

/-- A path with more than slashes has something behind them. -/
theorem relative_ne_nil {path : Chars} (h : ∃ c ∈ path, c ≠ '/') : relative path ≠ [] := by
  intro hempty
  obtain ⟨c, hc, hne⟩ := h
  exact hne (beq_iff_eq.mp (List.dropWhile_eq_nil_iff.mp hempty c hc))

theorem mem_of_mem_relative {path : Chars} {c : Char} (h : c ∈ relative path) : c ∈ path :=
  (List.dropWhile_sublist _).mem h

/-! ## §3 Parts of a text with a path behind it -/

variable {text more : Chars}

/-- Without a query and a fragment, the path of a text goes on with what is put behind it. -/
theorem place?_joined {origin : Chars × Chars} {path : Chars}
    (htrimmed : trimSlashes text = text) (htext : Url.Closed text) (hmore : Url.Closed more)
    (h : place? text = some (origin, path)) :
    place? (text ++ '/' :: more) = some (origin, trimSlashes path ++ '/' :: more) := by
  have hfront {text : Chars} (hclosed : Url.Closed text) : front text = text := by
    have hmark : '?' ∉ text := fun hc => (hclosed _ hc).1 rfl
    have hhash : '#' ∉ text := fun hc => (hclosed _ hc).2 rfl
    rw [(parts_of_free hhash).1, Chars.cut_of_free (Chars.beq_of_not_mem hmark)]
  have hlonger : Url.Closed (text ++ '/' :: more) := .append htext (.cons (by decide) hmore)
  unfold place? at h ⊢
  rw [hfront htext] at h
  rw [hfront hlonger]
  obtain ⟨⟨scheme, rest⟩, hcut, heq⟩ := Option.map_eq_some_iff.mp h
  obtain ⟨rfl, rfl⟩ := Prod.mk.inj heq
  obtain ⟨hscheme, rfl⟩ := cutScheme?_eq_some hcut
  rw [List.append_assoc _ rest, cutScheme?_append hscheme, Option.map_some]
  dsimp only
  rw [Chars.takeWhile_append_cons (by decide), Chars.dropWhile_append_cons (by decide)]
  -- The path of the text ends where the text does, and so in no slash.
  have hpath : trimSlashes (rooted (rest.dropWhile (· != '/'))) = rest.dropWhile (· != '/') := by
    have hwhole : scheme ++ "://".toList ++ rest =
        scheme ++ "://".toList ++ rest.takeWhile (· != '/') ++ rest.dropWhile (· != '/') := by
      rw [List.append_assoc _ (rest.takeWhile _), List.takeWhile_append_dropWhile]
    have hend : trimSlashes (rest.dropWhile (· != '/')) = rest.dropWhile (· != '/') := by
      rw [hwhole] at htrimmed
      exact Chars.trimEnd_of_append htrimmed
    unfold rooted
    split
    · rename_i hempty
      rw [List.isEmpty_iff.mp hempty]
      rfl
    · exact hend
  rw [hpath]
  unfold rooted
  rw [if_neg (by simp)]

/-- Nothing is cut off a closed text. -/
theorem query?_closed (h : Url.Closed text) : query? text = none := by
  have hmark : '?' ∉ text := fun hc => (h _ hc).1 rfl
  have hhash : '#' ∉ text := fun hc => (h _ hc).2 rfl
  rw [(parts_of_free hhash).2, Chars.cut_of_free (Chars.beq_of_not_mem hmark)]

/-! ## §4 The URI with a path and the one without -/

variable {u v : Uri}

/-- Texts with the same front are read with the same origin and path. -/
theorem parse?_front {text' : Chars} (hv : parse? text = some v) (hu : parse? text' = some u)
    (hfront : front text' = front text) : u.origin = v.origin ∧ u.path = v.path := by
  obtain ⟨origin, horigin, -, hfits⟩ := parse?_eq_some_iff.mp hv
  obtain ⟨origin', horigin', -, hfits'⟩ := parse?_eq_some_iff.mp hu
  have hplace := hfits.place
  have hplace' := hfits'.place
  unfold place? at hplace hplace'
  rw [hfront, hplace] at hplace'
  obtain ⟨rfl, hpath⟩ := Prod.mk.inj (Option.some.inj hplace')
  exact ⟨horigin'.trans horigin.symm, hpath.symm⟩

/-- What is put behind a path belongs to it. -/
theorem parse?_behind_path (htrimmed : trimSlashes text = text) (htext : Url.Closed text)
    (hmore : Url.Closed more) (hv : parse? text = some v)
    (hu : parse? (text ++ '/' :: more) = some u) :
    u.origin = v.origin ∧ u.path = trimSlashes v.path ++ '/' :: more ∧ u.query = v.query := by
  obtain ⟨origin, horigin, hquery, hfits⟩ := parse?_eq_some_iff.mp hv
  obtain ⟨origin', horigin', hquery', hfits'⟩ := parse?_eq_some_iff.mp hu
  have hplace := hfits'.place
  rw [place?_joined htrimmed htext hmore hfits.place] at hplace
  obtain ⟨rfl, hpath⟩ := Prod.mk.inj (Option.some.inj hplace)
  refine ⟨horigin'.trans horigin.symm, hpath.symm, ?_⟩
  rw [hquery, hquery', query?_closed htext, query?_closed (.append htext (.cons (by decide) hmore))]

/-- What is put behind a query belongs to it. -/
theorem parse?_behind_query (hhash : '#' ∉ text) (hmark : '?' ∈ text) (hmore : Url.Closed more)
    (hv : parse? text = some v) (hu : parse? (text ++ '/' :: more) = some u) :
    u.origin = v.origin ∧ u.path = v.path ∧
      ∃ query, v.query = some query ∧ u.query = some (query ++ '/' :: more) := by
  have hlonger : '#' ∉ text ++ '/' :: more := by
    intro hc
    rcases List.mem_append.mp hc with hc | hc
    · exact hhash hc
    · rcases List.mem_cons.mp hc with heq | hc
      · cases heq
      · exact (hmore _ hc).2 rfl
  obtain ⟨query, hcut, hcut'⟩ := Chars.cut_append_of_mem (p := (· == '?')) hmark rfl ('/' :: more)
  obtain ⟨hfront, hquery⟩ := parts_of_free hhash
  obtain ⟨hfront', hquery'⟩ := parts_of_free hlonger
  rw [hcut] at hfront hquery
  rw [hcut'] at hfront' hquery'
  obtain ⟨horigin, hpath⟩ := parse?_front hv hu (hfront'.trans hfront.symm)
  obtain ⟨_, -, hsame, -⟩ := parse?_eq_some_iff.mp hv
  obtain ⟨_, -, hsame', -⟩ := parse?_eq_some_iff.mp hu
  exact ⟨horigin, hpath, query, hsame.trans hquery, hsame'.trans hquery'⟩

/-- What is put behind a fragment is lost. -/
theorem parse?_behind_fragment (hhash : '#' ∈ text) (hv : parse? text = some v)
    (hu : parse? (text ++ more) = some u) : u = v := by
  obtain ⟨hfront, hquery⟩ := parts_append_of_mem hhash more
  obtain ⟨horigin, hpath⟩ := parse?_front hv hu hfront
  obtain ⟨_, -, hsame, -⟩ := parse?_eq_some_iff.mp hv
  obtain ⟨_, -, hsame', -⟩ := parse?_eq_some_iff.mp hu
  have hqueries : u.query = v.query := hsame'.trans (hquery.trans hsame.symm)
  cases u
  cases v
  cases horigin
  cases hpath
  cases hqueries
  rfl

/-- **A path is joined onto the path of the base, if the base ends in its path.**  Take a base that
    resolves on its own and a path, without question mark and number sign, that has more than
    slashes.  If base and path resolve, then scheme and authority are those of the base.  If the
    base has neither a query nor a fragment, then the path is that of the base without the slashes
    at its end, a slash, and the given path without the slashes at its beginning.  If the base has
    a fragment, the given path is lost; and otherwise, if it has a query, the given path goes to
    the end of the query. -/
theorem resolve_joined {base path : Chars} {u v : Uri} (hbase : resolve base [] [] = .ok v)
    (hpath : ∃ c ∈ path, c ≠ '/') (hclosed : Url.Closed path) (h : resolve base path [] = .ok u) :
    u.origin = v.origin ∧
      ('?' ∉ base → '#' ∉ base →
        u.path = trimSlashes v.path ++ '/' :: relative path ∧ u.query = v.query) ∧
      ('#' ∈ base → u = v) ∧
      ('#' ∉ base → '?' ∈ base →
        u.path = v.path ∧ ∃ query, v.query = some query ∧
          u.query = some (query ++ '/' :: relative path)) := by
  have hv : parse? (trimSlashes base) = some v := by
    have hv := resolve_eq_ok.mp hbase
    rwa [addPairs, if_pos List.isEmpty_nil, joinPath_nil] at hv
  have hne : trimSlashes base ≠ [] := by
    intro hempty
    rw [hempty] at hv
    cases hv
  have hu : parse? (trimSlashes base ++ '/' :: relative path) = some u := by
    have hu := resolve_eq_ok.mp h
    rwa [addPairs, if_pos List.isEmpty_nil, joinPath_eq hne (relative_ne_nil hpath)] at hu
  have hmark : '?' ∈ trimSlashes base ↔ '?' ∈ base := Chars.mem_trimEnd rfl
  have hhash : '#' ∈ trimSlashes base ↔ '#' ∈ base := Chars.mem_trimEnd rfl
  have hrelative : Url.Closed (relative path) := fun c hc => hclosed c (mem_of_mem_relative hc)
  by_cases hfragment : '#' ∈ base
  · obtain rfl := parse?_behind_fragment (hhash.mpr hfragment) hv hu
    exact ⟨rfl, fun _ hno => absurd hfragment hno, fun _ => rfl, fun hno => absurd hfragment hno⟩
  by_cases hasked : '?' ∈ base
  · obtain ⟨horigin, hsame, hquery⟩ := parse?_behind_query (hfragment ∘ hhash.mp)
      (hmark.mpr hasked) hrelative hv hu
    exact ⟨horigin, fun hno => absurd hasked hno, fun hyes => absurd hyes hfragment,
      fun _ _ => ⟨hsame, hquery⟩⟩
  · have htext : Url.Closed (trimSlashes base) := by
      intro c hc
      constructor
      · rintro rfl
        exact hasked (hmark.mp hc)
      · rintro rfl
        exact hfragment (hhash.mp hc)
    obtain ⟨horigin, hsame, hquery⟩ :=
      parse?_behind_path (Chars.trimEnd_trimEnd _ base) htext hrelative hv hu
    exact ⟨horigin, fun _ _ => ⟨hsame, hquery⟩, fun hyes => absurd hyes hfragment,
      fun _ hyes => absurd hyes hasked⟩

/-- A base with slashes at its end, and a path with slashes at its beginning. -/
theorem resolve_joined_slashes :
    let base := "http://a.test/x//".toList
    let path := "//p/q/".toList
    ∃ u, resolve base path [] = .ok u ∧
      u.origin = some ("http".toList, "a.test".toList) ∧ u.path = "/x/p/q/".toList := by
  intro base path
  have hbase : resolve base [] [] =
      .ok ⟨some ("http".toList, "a.test".toList), "/x".toList, none⟩ := by decide
  have hjoined : resolve base path [] =
      .ok ⟨some ("http".toList, "a.test".toList), "/x/p/q/".toList, none⟩ := by decide
  have hclosed : Url.Closed path := by decide
  obtain ⟨horigin, hpath, -, -⟩ :=
    resolve_joined hbase ⟨'p', by decide, by decide⟩ hclosed hjoined
  exact ⟨_, hjoined, horigin, (hpath (by decide) (by decide)).1⟩

/-- Behind a query the path goes astray, and behind a fragment it is lost. -/
theorem resolve_joined_astray :
    (¬ ∀ (base path : Chars) (u v : Uri), '#' ∉ base → resolve base [] [] = .ok v →
      (∃ c ∈ path, c ≠ '/') → Url.Closed path → resolve base path [] = .ok u →
      u.origin = v.origin ∧ u.path = trimSlashes v.path ++ '/' :: relative path ∧
        u.query = v.query) ∧
    ¬ ∀ (base path : Chars) (u v : Uri), '?' ∉ base → resolve base [] [] = .ok v →
      (∃ c ∈ path, c ≠ '/') → Url.Closed path → resolve base path [] = .ok u →
      u.origin = v.origin ∧ u.path = trimSlashes v.path ++ '/' :: relative path ∧
        u.query = v.query := by
  let origin := some ("http".toList, "a.test".toList)
  constructor
  · intro hall
    have hpath := (hall "http://a.test/x?y=1".toList "p".toList
      ⟨origin, "/x".toList, some "y=1/p".toList⟩ ⟨origin, "/x".toList, some "y=1".toList⟩
      (by decide) (by decide) ⟨'p', by decide, by decide⟩ (by decide)
      (by decide)).2.1
    exact absurd hpath (by decide)
  · intro hall
    have hpath := (hall "http://a.test/x#top".toList "p".toList
      ⟨origin, "/x".toList, none⟩ ⟨origin, "/x".toList, none⟩
      (by decide) (by decide) ⟨'p', by decide, by decide⟩ (by decide)
      (by decide)).2.1
    exact absurd hpath (by decide)

end Uri

end Replicast
