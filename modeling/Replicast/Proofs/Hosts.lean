import Replicast.Proofs.Hosts.Sites
import Replicast.Proofs.Joining
/-!
# Who chooses the host

The host of a request is the one of the base URL, whatever the path, as long as the base has one.
A base that goes no further than the slashes behind its scheme is no URL, and a request without
query pairs is refused.  With query pairs the joined text is read leniently before it is judged, and
then the slash between base and path is one of those in front of a host: the path chooses it.

## Overview

* `Authority.isValid_closed` and `Url.span_kept_of_isValid` compare the strict grammar and the
  lenient one: an authority of the former is cut out by the latter as well.
* `Url.readSite?_behind` says that a path behind a base keeps the site or breaks it.
* `Uri.baseOrigin` is the origin that a base gives, and `Uri.origin_joined` says that a request
  with query pairs has it.
* `Uri.resolve_host` is the result.
-/

namespace Replicast

/-! ## §1 Strict authorities -/

namespace Authority

/-- Neither a blank nor a slash of either kind can be read. -/
theorem Scan.step?_eq_none {c : Char} (h : Url.isEdge c = true ∨ Url.isSlash true c = true)
    (s : Scan) : s.step? c = none := by
  rcases h with hc | hc
  · have hplain : isAuthorityChar c = false := by
      have hall : ∀ n ≤ 0x20, isAuthorityChar (Char.ofNat n) = false := by decide
      have hchar := hall c.toNat (IsBlank.toNat_le hc)
      rwa [Char.ofNat_toNat] at hchar
    have hne (d : Char) (hd : Url.isEdge d = false) : (c == d) = false :=
      beq_eq_false_iff_ne.mpr (IsBlank.ne hc hd)
    simp only [step?, hne ':' rfl, hne '[' rfl, hne ']' rfl, hne '@' rfl, hne '%' rfl, hplain,
      Bool.false_eq_true, if_false]
  · simp only [Url.isSlash, Bool.true_and, Bool.or_eq_true, beq_iff_eq] at hc
    rcases hc with rfl | rfl <;> rfl

theorem scan_closed {text : Chars} {s t : Scan} (h : text.foldlM Scan.step? s = some t) :
    ∀ c ∈ text, Url.isEdge c = false ∧ Url.isSlash true c = false := by
  induction text generalizing s with
  | nil => exact fun c hc => absurd hc List.not_mem_nil
  | cons d rest ih =>
    rw [List.foldlM_cons] at h
    obtain ⟨next, hnext, hrest⟩ := Option.bind_eq_some_iff.mp h
    refine List.forall_mem_cons.mpr ⟨?_, ih hrest⟩
    rw [← Bool.not_eq_true, ← Bool.not_eq_true, ← not_or]
    intro hd
    rw [Scan.step?_eq_none hd s] at hnext
    cases hnext

/-- An authority has something in it, and neither a blank nor a slash of either kind. -/
theorem isValid_closed {text : Chars} (h : isValid text = true) :
    text ≠ [] ∧ ∀ c ∈ text, Url.isEdge c = false ∧ Url.isSlash true c = false := by
  unfold isValid at h
  split at h
  · cases h
  · rename_i s hscan
    simp only [Bool.and_eq_true, Bool.not_eq_true', List.isEmpty_eq_false_iff] at h
    exact ⟨h.1.1.1.1, scan_closed hscan⟩

end Authority

/-! ## §2 The site of a base with a path behind it -/

namespace Url

variable {scheme rest behind : Chars}

/-- Whether there is more behind a scheme than slashes and what is dropped. -/
def namesSite (rest : Chars) : Bool := rest.any fun c => !(isSlash true c || isDropped c)

theorem kept_append_cons {c : Char} (hc : isEdge c = false) (front behind : Chars) :
    kept (front ++ c :: behind) = front.filter (!isDropped ·) ++ c :: kept behind := by
  rw [kept, Chars.trimEnd_append_cons hc, List.filter_append, List.filter_cons_of_pos]
  · rfl
  · simp [isDropped_of_isEdge hc]

/-- Where the strict grammar reads an authority, the lenient one cuts out the same text. -/
theorem span_kept_of_isValid
    (h : Authority.isValid (rest.takeWhile (!Uri.endsAuthority ·)) = true) :
    span (kept rest) = rest.takeWhile (!Uri.endsAuthority ·) := by
  obtain ⟨hne, hclosed⟩ := Authority.isValid_closed h
  have hplain : ∀ c ∈ rest.takeWhile (!Uri.endsAuthority ·), endsAuthority c = false := by
    intro c hc
    have hends := List.mem_takeWhile_imp hc
    simp only [Uri.endsAuthority, Bool.not_eq_true', Bool.or_eq_false_iff] at hends
    simp only [endsAuthority, hclosed c hc, hends, Bool.or_self]
  have hstop : ∀ c ∈ (rest.dropWhile (!Uri.endsAuthority ·)).head?, Uri.endsAuthority c = true :=
    Chars.of_head?_dropWhile
  have hwhole : rest.takeWhile (!Uri.endsAuthority ·) ++ rest.dropWhile (!Uri.endsAuthority ·) =
      rest := List.takeWhile_append_dropWhile
  generalize rest.takeWhile (!Uri.endsAuthority ·) = authority at *
  generalize rest.dropWhile (!Uri.endsAuthority ·) = more at *
  subst hwhole
  -- Nothing is dropped in the authority, and what comes next ends it here as well.
  have hkept : authority.filter (!isDropped ·) = authority :=
    List.filter_eq_self.mpr fun c hc => by simp [isDropped_of_isEdge (hclosed c hc).1]
  cases more with
  | nil =>
    have htrim : Chars.trimEnd isEdge authority = authority :=
      List.rdropWhile_eq_self_iff.mpr fun hlast => by
        simp [(hclosed _ (List.getLast_mem hlast)).1]
    have hspan := span_append hne hplain (show ∀ c ∈ [].head?, endsAuthority c = true by simp)
    rw [List.append_nil] at hspan ⊢
    rw [kept, htrim, hkept, hspan]
  | cons c tail =>
    have hc : isEdge c = false ∧ endsAuthority c = true := by
      have hends := hstop c rfl
      simp only [Uri.endsAuthority, Bool.or_eq_true, beq_iff_eq] at hends
      rcases hends with (rfl | rfl) | rfl <;> exact ⟨rfl, rfl⟩
    rw [kept_append_cons hc.1, hkept]
    refine span_append hne hplain fun d hd => ?_
    obtain rfl := Option.some.inj hd
    exact hc.2

/-- What stands behind a slash is not in the span, if the slash is not one of the first. -/
theorem span_append_slash {text : Chars} (h : ∃ c ∈ text, isSlash true c = false) (behind : Chars) :
    span (text ++ '/' :: behind) = span text := by
  obtain ⟨c, hc, hslash⟩ := h
  have hsome : text.dropWhile (isSlash true) ≠ [] := fun hempty => by
    rw [List.dropWhile_eq_nil_iff.mp hempty c hc] at hslash
    cases hslash
  rw [span, List.dropWhile_append, if_neg (by simpa using hsome)]
  exact Chars.takeWhile_append_cons (by decide) _ _

/-- Blanks behind a text have no say in its span, or they end it. -/
theorem span_append_blanks {blanks : Chars} (h : ∀ c ∈ blanks, IsBlank c) (text : Chars) :
    span (text ++ blanks) = span text ∨
      ∃ c, IsBlank c ∧ (span (text ++ blanks)).getLast? = some c := by
  cases blanks with
  | nil => exact .inl (by rw [List.append_nil])
  | cons first others =>
    have hends : ∀ c ∈ first :: others, endsAuthority c = false := by
      intro c hc
      have hne (d : Char) (hd : isEdge d = false) : (c == d) = false :=
        beq_eq_false_iff_ne.mpr ((h c hc).ne hd)
      simp [endsAuthority, isSlash, hne '/' rfl, hne '\\' rfl, hne '?' rfl, hne '#' rfl]
    have hslash := isSlash_of_endsAuthority (hends first List.mem_cons_self)
    rw [span, span, Chars.dropWhile_append_cons hslash]
    by_cases hall : ∀ c ∈ text.dropWhile (isSlash true), endsAuthority c = false
    · right
      refine ⟨(first :: others).getLast (List.cons_ne_nil _ _), h _ (List.getLast_mem _), ?_⟩
      rw [List.takeWhile_append_of_pos fun c hc => by simp [hall c hc],
        List.takeWhile_eq_self_iff.mpr fun c hc => by simp [hends c hc],
        List.getLast?_append, List.getLast?_eq_some_getLast (List.cons_ne_nil _ _), Option.some_or]
    · left
      rw [List.takeWhile_append, if_neg]
      intro hlength
      refine hall fun c hc => ?_
      have hwhole := (List.takeWhile_prefix (p := (!endsAuthority ·))).eq_of_length hlength
      have hplain : (!endsAuthority c) = true :=
        List.mem_takeWhile_imp (p := (!endsAuthority ·)) (hwhole.symm ▸ hc)
      simpa using hplain

/-- What is put behind a base: nothing, or a path with its slash. -/
def IsPath (behind : Chars) : Prop := behind = [] ∨ ∃ tail, behind = '/' :: tail

/-- **A path behind a base keeps the site or breaks it.** -/
theorem readSite?_behind (hrest : namesSite rest = true) (hbehind : IsPath behind) {u : Url}
    (h : readSite? scheme (span (kept (rest ++ behind))) = some u) :
    readSite? scheme (span (kept rest)) = some u := by
  rcases hbehind with rfl | ⟨tail, rfl⟩
  · rwa [List.append_nil] at h
  have hnamed : ∃ c ∈ rest.filter (!isDropped ·), isSlash true c = false := by
    obtain ⟨c, hc, hboth⟩ := List.any_eq_true.mp hrest
    simp only [Bool.not_eq_true', Bool.or_eq_false_iff] at hboth
    exact ⟨c, List.mem_filter.mpr ⟨hc, by simp [hboth.2]⟩, hboth.1⟩
  rw [kept_append_cons (by decide), span_append_slash hnamed] at h
  -- Behind the base, the path keeps blanks that are trimmed without it.
  have hwhole : rest.filter (!isDropped ·) =
      kept rest ++ (rest.rtakeWhile isEdge).filter (!isDropped ·) := by
    rw [kept, ← List.filter_append]
    exact congrArg _ List.rdropWhile_append_rtakeWhile.symm
  have hblanks : ∀ c ∈ (rest.rtakeWhile isEdge).filter (!isDropped ·), IsBlank c := fun c hc =>
    List.mem_rtakeWhile_imp (List.mem_filter.mp hc).1
  rw [hwhole] at h
  rcases span_append_blanks hblanks (kept rest) with hsame | ⟨c, hc, hlast⟩
  · rwa [hsame] at h
  · rw [readSite?_blank hc hlast fun d hd => isSlash_of_span hd] at h
    cases h

/-- Slashes at the beginning of a text count for nothing. -/
theorem readBehind?_kept {lead : Chars} (h : ∀ c ∈ lead, c = '/') (rest : Chars) :
    readBehind? scheme (kept (lead ++ rest)) = readBehind? scheme (kept rest) := by
  have hkept : kept (lead ++ rest) = lead ++ kept rest := by
    induction lead with
    | nil => rfl
    | cons c lead ih =>
      obtain rfl := h c List.mem_cons_self
      have hcons := kept_append_cons (by decide : isEdge '/' = false) [] (lead ++ rest)
      rw [ih fun d hd => h d (List.mem_cons_of_mem _ hd)] at hcons
      exact hcons
  rw [hkept]
  exact readBehind?_slashes (fun c hc => h c hc ▸ rfl) _

end Url

/-! ## §3 What is read behind a scheme -/

namespace Uri

open Chars (trimSlashes)

variable {scheme rest behind path : Chars} {u : Uri}

theorem place?_web (hscheme : scheme ∈ schemes) (rest : Chars) :
    (place? (scheme ++ "://".toList ++ rest)).map (·.1) =
      some (scheme, rest.takeWhile (!endsAuthority ·)) := by
  rw [place?, (cut_scheme hscheme rest).1, cutScheme?_append hscheme, ← (cut_rest rest).1]
  rfl

theorem takeWhile_isPath (h : Url.IsPath behind) (rest : Chars) :
    (rest ++ behind).takeWhile (!endsAuthority ·) = rest.takeWhile (!endsAuthority ·) := by
  rcases h with rfl | ⟨tail, rfl⟩
  · rw [List.append_nil]
  · exact Chars.takeWhile_append_cons (by decide) _ _

/-- What fits the grammar has the authority that stands behind its scheme. -/
theorem Fits.origin_web {origin : Chars × Chars} (hscheme : scheme ∈ schemes)
    (hbehind : Url.IsPath behind)
    (h : Fits (scheme ++ "://".toList ++ (rest ++ behind)) origin path) :
    origin = (scheme, rest.takeWhile (!endsAuthority ·)) := by
  have hplace := place?_web hscheme (rest ++ behind)
  rw [h.place, takeWhile_isPath hbehind] at hplace
  exact Option.some.inj hplace

/-- The normal form of a text fits the grammar with the origin that the pairs leave. -/
theorem fits_normalized {text : Chars} {pairs : Form.Pairs} (hpairs : pairs ≠ [])
    (h : parse? (addPairs text pairs) = some u) :
    ∃ origin, u.origin = some origin ∧ Fits (normalized text) origin u.path := by
  obtain ⟨origin, horigin, -, hfits⟩ := parse?_eq_some_iff.mp h
  have hplaced := hfits.place ▸ Option.some_ne_none (origin, u.path)
  exact ⟨origin, horigin, (addPairs_extends text hpairs hplaced).fits hfits⟩

/-- The origin that a base gives to a request with query pairs: the one of its site, or as it is
    written if there is no site. -/
def baseOrigin (scheme rest : Chars) : Chars × Chars :=
  match Url.readSite? scheme (Url.span (Url.kept rest)) with
  | some site => site.origin
  | none => (scheme, rest.takeWhile (!endsAuthority ·))

/-- **The origin is the one of the base**, if there is a site in the base. -/
theorem origin_joined {pairs : Form.Pairs} (hscheme : scheme ∈ schemes) (hpairs : pairs ≠ [])
    (hrest : Url.namesSite rest = true) (hbehind : Url.IsPath behind)
    (h : parse? (addPairs (scheme ++ "://".toList ++ (rest ++ behind)) pairs) = some u) :
    u.origin = some (baseOrigin scheme rest) := by
  obtain ⟨origin, horigin, hnormal⟩ := fits_normalized hpairs h
  have hsite := Url.parse?_site hscheme (rest ++ behind)
  rw [horigin]
  congr 1
  cases hurl : Url.parse? (scheme ++ "://".toList ++ (rest ++ behind)) with
  | some url =>
    rw [hurl, Option.map_some] at hsite
    rw [normalized_url hurl] at hnormal
    have hplace := hnormal.place
    have hmem := Url.scheme_of_place? (Url.parse?_query hurl).1 (by simp [hplace])
    obtain ⟨_, htext⟩ := Url.place?_text hurl hmem
    rw [htext] at hplace
    rw [baseOrigin, Url.readSite?_behind hrest hbehind hsite.symm]
    show origin = url.site.origin
    rw [Url.site_origin]
    exact (Prod.mk.inj (Option.some.inj hplace)).1.symm
  | none =>
    -- The authority is one of the strict grammar, so the site would be cut out as the base's is.
    rw [hurl, Option.map_none] at hsite
    rw [normalized_raw hurl] at hnormal
    have hwritten := hnormal.origin_web hscheme hbehind
    have hvalid : Authority.isValid (rest.takeWhile (!endsAuthority ·)) = true := by
      have hauthority := hnormal.authority
      rwa [hwritten] at hauthority
    have hspan : Url.span (Url.kept (rest ++ behind)) = Url.span (Url.kept rest) := by
      rw [Url.span_kept_of_isValid hvalid, ← takeWhile_isPath hbehind rest]
      exact Url.span_kept_of_isValid (by rwa [takeWhile_isPath hbehind])
    rw [hspan] at hsite
    rw [baseOrigin, ← hsite, hwritten]

/-! ## §4 Base and path -/

theorem isPath_appended (path : Chars) : Url.IsPath (appended path) := by
  unfold appended
  split
  · exact .inl rfl
  · exact .inr ⟨_, rfl⟩

/-- A base with nothing but slashes behind its scheme loses all of them. -/
theorem joinPath_web (scheme rest path : Chars) :
    joinPath (scheme ++ "://".toList ++ rest) path =
      if trimSlashes rest = [] then scheme ++ ':' :: appended path
      else scheme ++ "://".toList ++ (trimSlashes rest ++ appended path) := by
  have htrim : trimSlashes (scheme ++ "://".toList ++ rest) =
      scheme ++ ':' :: trimSlashes ("//".toList ++ rest) := by
    rw [show scheme ++ "://".toList ++ rest = scheme ++ ':' :: ("//".toList ++ rest) by simp]
    exact Chars.trimEnd_append_cons (by decide) _ _
  rw [joinPath_appended (by rw [htrim]; simp), htrim]
  split
  · rename_i hempty
    have hslashes : trimSlashes ("//".toList ++ rest) = [] := by
      have hall := List.rdropWhile_eq_nil_iff.mp hempty
      refine List.rdropWhile_eq_nil_iff.mpr fun c hc => ?_
      rcases List.mem_append.mp hc with hlead | hrest
      · exact List.all_eq_true.mp (rfl : "//".toList.all (· == '/') = true) c hlead
      · exact hall c hrest
    rw [hslashes, List.append_assoc]
    rfl
  · rename_i hne
    rw [show trimSlashes ("//".toList ++ rest) = "//".toList ++ trimSlashes rest from
      Chars.trimEnd_append hne _]
    simp

/-! ## §5 Bases without a site -/

/-- Where a single slash stands behind a scheme there is no authority. -/
theorem not_fits_slash {origin : Chars × Chars} {path' : Chars} (hscheme : scheme ∈ schemes) :
    ¬ Fits (scheme ++ ':' :: appended path) origin path' := by
  intro h
  obtain ⟨⟨found, more⟩, hcut, -⟩ := Option.map_eq_some_iff.mp h.place
  obtain ⟨rest, hrest, -⟩ := cutScheme?_front.mp hcut
  obtain ⟨hfound, heq⟩ := cutScheme?_eq_some hrest
  have hslashes : appended path = '/' :: '/' :: rest := by
    simp only [schemes, List.mem_cons, List.not_mem_nil, or_false] at hscheme hfound
    rcases hscheme with rfl | rfl <;> rcases hfound with rfl | rfl
    · simpa using heq
    · simp at heq
    · simp at heq
    · simpa using heq
  unfold appended at hslashes
  split at hslashes
  · cases hslashes
  · have hhead := List.head?_dropWhile_not (· == '/') path
    rw [show path.dropWhile (· == '/') = '/' :: rest from (List.cons.inj hslashes).2] at hhead
    cases hhead

theorem namesSite_trimSlashes (rest : Chars) :
    Url.namesSite (trimSlashes rest) = Url.namesSite rest := by
  have hkept (c : Char) (hc : (!(Url.isSlash true c || Url.isDropped c)) = true) :
      c ∈ trimSlashes rest ↔ c ∈ rest := by
    refine Chars.mem_trimEnd ?_
    simp only [Url.isSlash, Bool.not_eq_true', Bool.or_eq_false_iff] at hc
    exact hc.1.1
  rw [Bool.eq_iff_iff, Url.namesSite, Url.namesSite, List.any_eq_true, List.any_eq_true]
  exact exists_congr fun c => and_congr_left (hkept c)

/-- What is joined to a base without a site fits no grammar. -/
theorem not_fits_of_unnamed {origin : Chars × Chars} {path' : Chars} (hscheme : scheme ∈ schemes)
    (hrest : Url.namesSite rest = false) :
    ¬ Fits (joinPath (scheme ++ "://".toList ++ rest) path) origin path' := by
  intro h
  rw [joinPath_web] at h
  split at h
  · exact not_fits_slash hscheme h
  · have hvalid := h.authority
    rw [h.origin_web hscheme (isPath_appended path)] at hvalid
    obtain ⟨hne, hclosed⟩ := Authority.isValid_closed hvalid
    obtain ⟨c, hc⟩ := List.exists_mem_of_ne_nil _ hne
    rw [← namesSite_trimSlashes] at hrest
    have hboth := List.any_eq_false.mp hrest c ((List.takeWhile_sublist _).mem hc)
    simp [hclosed c hc, Url.isDropped_of_isEdge (hclosed c hc).1] at hboth

/-- The URL that such a base gives to a path is the one of the path behind the scheme. -/
theorem parse?_unnamed (hscheme : scheme ∈ schemes) (hrest : Url.namesSite rest = false)
    (path : Chars) :
    Url.parse? (joinPath (scheme ++ "://".toList ++ rest) path) =
      Url.parse? (scheme ++ "://".toList ++ path) := by
  have hpath : Url.parse? (scheme ++ "://".toList ++ path) =
      Url.readBehind? scheme (Url.kept (relative path)) := by
    have hwhole : path = path.takeWhile (· == '/') ++ relative path :=
      List.takeWhile_append_dropWhile.symm
    rw [Url.parse?_kept hscheme]
    conv_lhs => rw [hwhole]
    exact Url.readBehind?_kept (fun c hc => by simpa using List.mem_takeWhile_imp hc) _
  rw [hpath, joinPath_web]
  split
  · unfold appended
    split
    · rename_i hempty
      rw [List.isEmpty_iff.mp hempty]
      have hall : ∀ scheme ∈ schemes,
          Url.parse? (scheme ++ [':']) = Url.readBehind? scheme (Url.kept []) := by
        decide
      exact hall scheme hscheme
    · exact Url.parse?_slash hscheme _
  · -- What is left of the base is slashes.
    have hslashes : ∀ c ∈ (trimSlashes rest).filter (!Url.isDropped ·),
        Url.isSlash true c = true := by
      intro c hc
      obtain ⟨hmem, hkept⟩ := List.mem_filter.mp hc
      rw [← namesSite_trimSlashes] at hrest
      have hboth := List.any_eq_false.mp hrest c hmem
      simpa [hkept] using hboth
    rw [Url.parse?_kept hscheme]
    unfold appended
    split
    · rename_i hempty
      have hall : ∀ c ∈ Url.kept (trimSlashes rest), Url.isSlash true c = true := by
        intro c hc
        obtain ⟨hmem, hkept⟩ := List.mem_filter.mp hc
        exact hslashes c (List.mem_filter.mpr ⟨(List.rdropWhile_prefix _ _).mem hmem, hkept⟩)
      rw [List.isEmpty_iff.mp hempty, List.append_nil]
      exact (congrArg _ (List.append_nil _).symm).trans (Url.readBehind?_slashes hall [])
    · have hslash : ∀ c ∈ ['/'], Url.isSlash true c = true := List.all_eq_true.mp rfl
      rw [Url.kept_append_cons (by decide), Url.readBehind?_slashes hslashes]
      exact Url.readBehind?_slashes hslash _

/-! ## §6 The host of a request -/

/-- Scheme and authority of a request come from its base. -/
theorem resolve_origin {pairs : Form.Pairs} (hscheme : scheme ∈ schemes)
    (hgiven : pairs = [] ∨ Url.namesSite rest = true)
    (h : resolve (scheme ++ "://".toList ++ rest) path pairs = .ok u) :
    u.origin = some (if pairs = [] then (scheme, (trimSlashes rest).takeWhile (!endsAuthority ·))
      else baseOrigin scheme (trimSlashes rest)) := by
  have hparse := resolve_eq_ok.mp h
  rw [joinPath_web] at hparse
  by_cases hpairs : pairs = []
  · rw [if_pos hpairs]
    rw [hpairs, addPairs, if_pos List.isEmpty_nil] at hparse
    obtain ⟨origin, horigin, -, hfits⟩ := parse?_eq_some_iff.mp hparse
    split at hfits
    · exact absurd hfits (not_fits_slash hscheme)
    · rw [horigin, hfits.origin_web hscheme (isPath_appended path)]
  · have hnamed := (namesSite_trimSlashes rest).trans (hgiven.resolve_left hpairs)
    have hne : trimSlashes rest ≠ [] := by
      intro hempty
      rw [hempty] at hnamed
      cases hnamed
    rw [if_neg hpairs]
    rw [if_neg hne] at hparse
    exact origin_joined hscheme hpairs hnamed (isPath_appended path) hparse

/-- **The path chooses the host exactly where the base has none.**  Take a base under one of the
    schemes of requests, a list of query pairs, and two paths for which the target resolves.
    Without query pairs, or if there is more behind the scheme than slashes and what is dropped, the
    two URIs have the same scheme, authority and host.  Otherwise the base has no say: the URI is
    the one of the URL that the path is behind the scheme. -/
theorem resolve_host {base scheme rest path path' : Chars} {pairs : Form.Pairs} {u u' : Uri}
    (hbase : cutScheme? base = some (scheme, rest)) (h : resolve base path pairs = .ok u)
    (h' : resolve base path' pairs = .ok u') :
    (pairs = [] ∨ Url.namesSite rest = true →
      u.origin = u'.origin ∧ Authority.host u.authority = Authority.host u'.authority) ∧
    (pairs ≠ [] → Url.namesSite rest = false →
      ∃ url, Url.parse? (scheme ++ "://".toList ++ path) = some url ∧
        parse? (url.appendPairs pairs).text = some u) := by
  obtain ⟨hscheme, rfl⟩ := cutScheme?_eq_some hbase
  constructor
  · intro hgiven
    have horigin : u.origin = u'.origin :=
      (resolve_origin hscheme hgiven h).trans (resolve_origin hscheme hgiven h').symm
    exact ⟨horigin, by rw [authority, authority, horigin]⟩
  · intro hpairs hrest
    have hparse := resolve_eq_ok.mp h
    obtain ⟨origin, -, hnormal⟩ := fits_normalized hpairs hparse
    rw [addPairs, if_neg (by simpa using hpairs)] at hparse
    rw [← parse?_unnamed hscheme hrest path]
    cases hurl : Url.parse? (joinPath (scheme ++ "://".toList ++ rest) path) with
    | none =>
      rw [normalized_raw hurl] at hnormal
      exact absurd hnormal (not_fits_of_unnamed hscheme hrest)
    | some url =>
      rw [hurl] at hparse
      exact ⟨url, rfl, hparse⟩

/-- Neither slashes nor an at sign in the path lead away from the host of the base. -/
theorem resolve_host_kept :
    let base := "http://a.test/x".toList
    let pairs : Form.Pairs := [("k".toList, "v".toList)]
    ∃ u u', resolve base "//b.test".toList pairs = .ok u ∧
      resolve base "@b.test".toList pairs = .ok u' ∧ u ≠ u' ∧
      Authority.host u.authority = Authority.host u'.authority := by
  intro base pairs
  have hbase : cutScheme? base = some ("http".toList, "a.test/x".toList) := by decide
  have hslashes : resolve base "//b.test".toList pairs =
      .ok ⟨some ("http".toList, "a.test".toList), "/x/b.test".toList, some "k=v".toList⟩ := by
    decide +kernel
  have hat : resolve base "@b.test".toList pairs =
      .ok ⟨some ("http".toList, "a.test".toList), "/x/@b.test".toList, some "k=v".toList⟩ := by
    decide +kernel
  have hhost := (resolve_host hbase hslashes hat).1 (.inr (by decide))
  exact ⟨_, _, hslashes, hat, by decide, hhost.2⟩

/-- A base that ends behind the slashes of its scheme takes the host from the path. -/
theorem resolve_host_chosen :
    ¬ ∀ (base path path' : Chars) (pairs : Form.Pairs) (u u' : Uri),
      (∃ scheme rest, cutScheme? base = some (scheme, rest)) →
      resolve base path pairs = .ok u → resolve base path' pairs = .ok u' →
      Authority.host u.authority = Authority.host u'.authority := by
  intro hall
  have hhost := hall "http://".toList "a.test".toList "b.test".toList
    [("k".toList, "v".toList)]
    ⟨some ("http".toList, "a.test".toList), "/".toList, some "k=v".toList⟩
    ⟨some ("http".toList, "b.test".toList), "/".toList, some "k=v".toList⟩
    ⟨"http".toList, [], by decide⟩ (by decide +kernel) (by decide +kernel)
  exact absurd hhost (by decide)

end Uri

end Replicast
