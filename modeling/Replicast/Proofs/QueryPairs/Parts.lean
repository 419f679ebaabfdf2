import Replicast.Proofs.Redaction.Userinfo
/-!
# Texts and URLs in parts

A URI is read from the parts of a text: what stands in front of the query, and the query itself.
The text of a URL has the parts of the URL, whatever text that was read from.

## Overview

* `Uri.place?` and `Uri.query?` cut a text into parts, and `Uri.parse?_eq_some_iff` says when they
  are read as a URI.
* `Uri.cut_parts` cuts parts that were put together.
* `Url.front_closed` says that scheme, authority and path of a URL hold nothing that ends a path,
  and `Url.parse?_query` that its query ends at a fragment.
-/

namespace Replicast

/-! ## §1 Texts in parts -/

namespace Chars

variable {p : Char → Bool}

/-- Something is cut off only at a character of the class. -/
theorem exists_of_cut {text rest : Chars} (h : (cut p text).2 = some rest) :
    ∃ c, p c = true ∧ text = (cut p text).1 ++ c :: rest := by
  induction text with
  | nil => cases h
  | cons c tail ih =>
    by_cases hc : p c = true
    · simp only [cut, hc, if_true, Option.some.injEq] at h ⊢
      exact ⟨c, hc, by rw [h]; rfl⟩
    · simp only [cut, hc, Bool.false_eq_true, if_false] at h ⊢
      obtain ⟨d, hd, htail⟩ := ih h
      exact ⟨d, hd, by rw [List.cons_append, ← htail]⟩

theorem cut_of_free {text : Chars} (h : ∀ c ∈ text, p c = false) : cut p text = (text, none) := by
  simpa [cut] using cut_append h []

theorem beq_of_not_mem {d : Char} {text : Chars} (h : d ∉ text) :
    ∀ c ∈ text, (c == d) = false := by
  intro c hc
  refine beq_eq_false_iff_ne.mpr ?_
  rintro rfl
  exact h hc

/-- What is cut off is cut off whatever is put behind it. -/
theorem cut_append_of_mem {c : Char} {text : Chars} (hmem : c ∈ text) (hc : p c = true)
    (behind : Chars) :
    ∃ rest, cut p text = ((cut p text).1, some rest) ∧
      cut p (text ++ behind) = ((cut p text).1, some (rest ++ behind)) := by
  induction text with
  | nil => cases hmem
  | cons d tail ih =>
    by_cases hd : p d = true
    · exact ⟨tail, by simp [cut, hd], by simp [cut, hd]⟩
    · obtain ⟨rest, hrest, happend⟩ := ih ((List.mem_cons.mp hmem).resolve_left fun heq => by
        rw [heq] at hc
        exact hd hc)
      exact ⟨rest, by simp [cut, hd, congrArg Prod.snd hrest], by simp [cut, hd, happend]⟩

end Chars

namespace Uri

/-- What stands in front of the query and the fragment of a text. -/
def front (text : Chars) : Chars := (Chars.cut (· == '?') (Chars.cut (· == '#') text).1).1

/-- The query of a text: what stands behind the first question mark, up to the fragment. -/
def query? (text : Chars) : Option Chars := (Chars.cut (· == '?') (Chars.cut (· == '#') text).1).2

/-- A path with its slash, which stands for an empty one. -/
def rooted (path : Chars) : Chars := if path.isEmpty then ['/'] else path

/-- The scheme and the authority that a text begins with, and the path behind them. -/
def place? (text : Chars) : Option ((Chars × Chars) × Chars) :=
  (cutScheme? (front text)).map fun (scheme, rest) =>
    ((scheme, rest.takeWhile (· != '/')), rooted (rest.dropWhile (· != '/')))

/-- The grammar of the parts of a text, of which scheme, authority and path are given. -/
structure Fits (text : Chars) (origin : Chars × Chars) (path : Chars) : Prop where
  short : (Utf8.encode text).length ≤ maxLength
  place : place? text = some (origin, path)
  authority : Authority.isValid origin.2 = true
  path : path.all isPathChar = true
  query : ((query? text).getD []).all isQueryChar = true

/-- What follows a scheme is cut where the whole text is. -/
theorem cut_scheme {scheme : Chars} (hscheme : scheme ∈ schemes) (rest : Chars) :
    front (scheme ++ "://".toList ++ rest) = scheme ++ "://".toList ++ front rest ∧
      query? (scheme ++ "://".toList ++ rest) = query? rest := by
  have hfree : '#' ∉ scheme ++ "://".toList ∧ '?' ∉ scheme ++ "://".toList := by
    simp only [schemes, List.mem_cons, List.not_mem_nil, or_false] at hscheme
    rcases hscheme with rfl | rfl <;> decide
  unfold front query?
  rw [Chars.cut_append (Chars.beq_of_not_mem hfree.1),
    Chars.cut_append (Chars.beq_of_not_mem hfree.2)]
  exact ⟨rfl, rfl⟩

/-- Authority, path and query, as they are cut behind a scheme. -/
theorem cut_rest (rest : Chars) :
    let cut := Chars.cut (· == '?') (Chars.cut (· == '#') (rest.dropWhile (!endsAuthority ·))).1
    (front rest).takeWhile (· != '/') = rest.takeWhile (!endsAuthority ·) ∧
      (front rest).dropWhile (· != '/') = cut.1 ∧ query? rest = cut.2 := by
  intro cut
  have hends : ∀ c ∈ rest.takeWhile (!endsAuthority ·), endsAuthority c = false := fun c hc => by
    simpa using List.mem_takeWhile_imp hc
  have hfree (d : Char) (hd : endsAuthority d = true) :
      ∀ c ∈ rest.takeWhile (!endsAuthority ·), (c == d) = false := fun c hc => by
    refine beq_eq_false_iff_ne.mpr ?_
    rintro rfl
    simp [hends c hc] at hd
  have hcut : front rest = rest.takeWhile (!endsAuthority ·) ++ cut.1 ∧ query? rest = cut.2 := by
    have hwhole : rest = rest.takeWhile (!endsAuthority ·) ++ rest.dropWhile (!endsAuthority ·) :=
      List.takeWhile_append_dropWhile.symm
    unfold front query?
    rw [hwhole, Chars.cut_append (hfree '#' rfl), Chars.cut_append (hfree '?' rfl), ← hwhole]
    exact ⟨rfl, rfl⟩
  have hslash : ∀ c ∈ rest.takeWhile (!endsAuthority ·), (c != '/') = true := fun c hc => by
    simpa using hfree '/' rfl c hc
  -- The path is what the next slash begins.
  have hpath : cut.1.takeWhile (· != '/') = [] ∧ cut.1.dropWhile (· != '/') = cut.1 := by
    rcases (path_of_rest rest).1 with hempty | ⟨behind, hbehind⟩
    · rw [show cut.1 = [] from hempty]
      exact ⟨rfl, rfl⟩
    · rw [show cut.1 = '/' :: behind from hbehind]
      exact ⟨by simp, by simp⟩
  rw [hcut.1, List.takeWhile_append_of_pos hslash, List.dropWhile_append_of_pos hslash, hpath.1,
    hpath.2, List.append_nil]
  exact ⟨rfl, rfl, hcut.2⟩

theorem all_rooted (path : Chars) : (rooted path).all isPathChar = path.all isPathChar := by
  cases path <;> rfl

theorem front_prefix (text : Chars) : front text <+: text := by
  unfold front
  rw [Chars.cut_fst, Chars.cut_fst]
  exact (List.takeWhile_prefix _).trans (List.takeWhile_prefix _)

/-- A text begins with a scheme exactly when its front does. -/
theorem cutScheme?_front {text scheme rest : Chars} :
    cutScheme? (front text) = some (scheme, rest) ↔
      ∃ behind, cutScheme? text = some (scheme, behind) ∧ rest = front behind := by
  constructor
  · intro h
    -- The scheme of the front is one of the whole text, with more behind it.
    obtain ⟨hscheme, heq⟩ := cutScheme?_eq_some h
    obtain ⟨tail, htail⟩ := front_prefix text
    rw [heq, List.append_assoc] at htail
    rw [← htail, (cut_scheme hscheme _).1] at heq
    exact ⟨rest ++ tail, htail ▸ cutScheme?_append hscheme _, (List.append_cancel_left heq).symm⟩
  · rintro ⟨behind, h, rfl⟩
    obtain ⟨hscheme, rfl⟩ := cutScheme?_eq_some h
    rw [(cut_scheme hscheme behind).1]
    exact cutScheme?_append hscheme _

/-- **A URI is read from the parts of a text**, if they fit the grammar. -/
theorem parse?_eq (text : Chars) :
    parse? text =
      if maxLength < (Utf8.encode text).length then none
      else (place? text).bind fun (origin, path) =>
        if Authority.isValid origin.2 && path.all isPathChar &&
            ((query? text).getD []).all isQueryChar then
          some ⟨some origin, path, query? text⟩
        else none := by
  have hfold : (fun c : Char => !(c == '/' || c == '?' || c == '#')) = (!endsAuthority ·) := rfl
  unfold parse?
  split
  · rfl
  cases hcut : cutScheme? text with
  | none =>
    have hnone : cutScheme? (front text) = none := by
      refine Option.eq_none_iff_forall_ne_some.mpr fun ⟨scheme, rest⟩ h => ?_
      obtain ⟨behind, hbehind, -⟩ := cutScheme?_front.mp h
      rw [hcut] at hbehind
      cases hbehind
    rw [place?, hnone]
    rfl
  | some found =>
    obtain ⟨scheme, rest⟩ := found
    obtain ⟨hscheme, htext⟩ := cutScheme?_eq_some hcut
    obtain ⟨hauthority, hpath, hquery⟩ := cut_rest rest
    have hwhole : query? text = query? rest := htext ▸ (cut_scheme hscheme rest).2
    rw [place?, cutScheme?_front.mpr ⟨rest, hcut, rfl⟩, hwhole, hquery]
    simp only [Option.map_some, Option.bind_eq_bind, Option.bind_some, hauthority, hpath, hfold,
      Chars.drop_takeWhile, all_rooted]
    rfl

/-- A text is read exactly when its parts fit. -/
theorem parse?_eq_some_iff {text : Chars} {u : Uri} :
    parse? text = some u ↔
      ∃ origin, u.origin = some origin ∧ u.query = query? text ∧ Fits text origin u.path := by
  rw [parse?_eq]
  constructor
  · intro h
    split at h
    · cases h
    rename_i hshort
    obtain ⟨⟨origin, path⟩, hplace, h⟩ := Option.bind_eq_some_iff.mp h
    dsimp only at h
    split at h
    · rename_i hgrammar
      simp only [Bool.and_eq_true] at hgrammar
      obtain rfl := Option.some.inj h
      exact ⟨origin, rfl, rfl, Nat.not_lt.mp hshort, hplace, hgrammar.1.1, hgrammar.1.2, hgrammar.2⟩
    · cases h
  · rintro ⟨origin, horigin, hquery, hfits⟩
    rw [if_neg (Nat.not_lt.mpr hfits.short), hfits.place]
    simp only [Option.bind_some, hfits.authority, hfits.path, hfits.query, Bool.and_self, if_true]
    rw [← horigin, ← hquery]

/-- Parts that are put together are cut where they were joined. -/
theorem cut_parts {front : Chars} (hfront : Url.Closed front) (query : Option Chars)
    (hquery : ∀ q ∈ query, '#' ∉ q) (fragment : Option Chars) :
    let text := front ++ (query.elim [] ('?' :: ·) ++ fragment.elim [] ('#' :: ·))
    Uri.front text = front ∧ query? text = query := by
  intro text
  have hmark : ∀ c ∈ front, (c == '?') = false := fun c hc => by simp [(hfront c hc).1]
  have hhash : '#' ∉ front ++ query.elim [] ('?' :: ·) := fun hc => by
    rcases List.mem_append.mp hc with hc | hc
    · exact (hfront _ hc).2 rfl
    · cases query with
      | none => cases hc
      | some q => exact hquery q rfl ((List.mem_cons.mp hc).resolve_left (by decide))
  have hmain : (Chars.cut (· == '#') text).1 = front ++ query.elim [] ('?' :: ·) := by
    rw [show text = front ++ query.elim [] ('?' :: ·) ++ fragment.elim [] ('#' :: ·) from
      (List.append_assoc _ _ _).symm, Chars.cut_append (Chars.beq_of_not_mem hhash)]
    cases fragment <;> simp [Chars.cut]
  unfold Uri.front query?
  rw [hmain, Chars.cut_append hmark]
  cases query <;> simp [Chars.cut]

/-- Without a fragment a text is cut at its question mark. -/
theorem parts_of_free {text : Chars} (h : '#' ∉ text) :
    Uri.front text = (Chars.cut (· == '?') text).1 ∧
      query? text = (Chars.cut (· == '?') text).2 := by
  rw [Uri.front, query?, Chars.cut_of_free (Chars.beq_of_not_mem h)]
  exact ⟨rfl, rfl⟩

/-- Whatever is put behind a fragment belongs to it. -/
theorem parts_append_of_mem {text : Chars} (h : '#' ∈ text) (behind : Chars) :
    Uri.front (text ++ behind) = Uri.front text ∧ query? (text ++ behind) = query? text := by
  obtain ⟨rest, -, hcut⟩ := Chars.cut_append_of_mem (p := (· == '#')) h rfl behind
  unfold Uri.front query?
  rw [hcut]
  exact ⟨rfl, rfl⟩

end Uri

/-! ## §2 URLs in parts -/

namespace Url

/-- Only letters are changed by lower case, and no letter becomes a colon. -/
theorem ne_colon_of_isSchemeChar {c : Char} (h : isSchemeChar c = true) : c.toLower ≠ ':' := by
  by_cases hupper : c.isUpper = true
  · have hall : ∀ n ≤ 'Z'.toNat, 'A'.toNat ≤ n → (Char.ofNat n).toLower ≠ ':' := by decide
    obtain ⟨hlow, hhigh⟩ := of_decide_eq_true hupper
    have hletter := hall c.toNat hhigh hlow
    rwa [Char.ofNat_toNat] at hletter
  · rw [show c.toLower = c from dif_neg fun hletter => hupper (decide_eq_true hletter)]
    rintro rfl
    cases h

/-- A scheme holds no colon, and what follows it comes from the text. -/
theorem cutScheme?_eq_some {text scheme rest : Chars} (h : cutScheme? text = some (scheme, rest)) :
    ':' ∉ scheme ∧ ∀ c ∈ rest, c ∈ text := by
  unfold cutScheme? at h
  split at h
  · cases h
  split at h
  · dsimp only at h
    split at h
    · rename_i hdrop
      obtain ⟨rfl, rfl⟩ := Prod.mk.inj (Option.some.inj h)
      refine ⟨fun hcolon => ?_, fun c hc =>
        List.mem_of_mem_drop (hdrop ▸ List.mem_cons_of_mem _ hc)⟩
      obtain ⟨c, hc, hlower⟩ := List.mem_map.mp hcolon
      exact ne_colon_of_isSchemeChar (List.mem_takeWhile_imp hc) hlower
    · cases h
  · cases h

theorem mem_prepare {text : Chars} {c : Char} (h : c ∈ prepare text) : c ∈ text := by
  have htrim := (List.mem_filter.mp h).1
  simp only [Chars.trim, Chars.trimEnd, Chars.trimStart, List.mem_reverse] at htrim
  exact (List.dropWhile_sublist _).mem
    (List.mem_reverse.mp ((List.dropWhile_sublist _).mem htrim))

/-- A number sign does not stand in what is encoded if the set has it. -/
theorem not_mem_encode {set : Char → Bool} (h : set '#' = true) (text : Chars) :
    '#' ∉ Percent.encode set text := by
  have hdigit : ∀ d < 16, '#' ≠ Percent.digit d := by decide
  intro hc
  rcases Percent.mem_encode hc with hplain | hpercent | ⟨d, hd, heq⟩
  · rw [h] at hplain
    cases hplain
  · cases hpercent
  · exact hdigit d hd heq

/-- The scheme of a URL, and its query: what stands behind a question mark, with number signs
    encoded. -/
theorem parse?_query {text : Chars} {u : Url} (h : parse? text = some u) :
    ':' ∉ u.scheme ∧ ∀ query, u.query = some query → '?' ∈ text ∧ '#' ∉ query := by
  unfold parse? at h
  obtain ⟨⟨scheme, rest⟩, hcut, h⟩ := Option.bind_eq_some_iff.mp h
  obtain ⟨hcolon, hmem⟩ := cutScheme?_eq_some hcut
  dsimp only at h
  have hshape {u : Url} (hscheme : u.scheme = scheme) {set : Char → Bool} (hset : set '#' = true)
      (hquery : u.query = (Chars.cut (· == '?') (Chars.cut (· == '#') rest).1).2.map
        (Percent.encode set)) :
      ':' ∉ u.scheme ∧ ∀ query, u.query = some query → '?' ∈ text ∧ '#' ∉ query := by
    refine ⟨hscheme ▸ hcolon, fun query hsome => ?_⟩
    obtain ⟨raw, hraw, rfl⟩ := Option.map_eq_some_iff.mp (hquery.symm.trans hsome)
    refine ⟨?_, not_mem_encode hset raw⟩
    obtain ⟨c, hc, hwhole⟩ := Chars.exists_of_cut hraw
    obtain rfl : c = '?' := beq_iff_eq.mp hc
    have hmark : '?' ∈ (Chars.cut (· == '#') rest).1 := by rw [hwhole]; simp
    rw [Chars.cut_fst] at hmark
    exact mem_prepare (hmem _ ((List.takeWhile_sublist _).mem hmark))
  -- However the text goes on, the query is cut off in the same way.
  split at h
  · obtain ⟨⟨host, path⟩, -, h⟩ := Option.bind_eq_some_iff.mp h
    obtain rfl := Option.some.inj h
    exact hshape rfl (by split <;> rfl) rfl
  split at h
  · obtain ⟨a, -, h⟩ := Option.bind_eq_some_iff.mp h
    obtain rfl := Option.some.inj h
    exact hshape rfl rfl rfl
  split at h
  · obtain ⟨a, -, h⟩ := Option.bind_eq_some_iff.mp h
    obtain rfl := Option.some.inj h
    exact hshape rfl rfl rfl
  · obtain rfl := Option.some.inj h
    exact hshape rfl rfl rfl
  · obtain rfl := Option.some.inj h
    exact hshape rfl rfl rfl

/-- A URL under a scheme of requests is one of a web address, whatever text it was read from. -/
theorem parse?_credentials {text : Chars} {u : Url} (h : parse? text = some u)
    (hscheme : u.scheme ∈ Uri.schemes) : Web u u.scheme ∧ IsUserinfo u.credentials := by
  unfold parse? at h
  obtain ⟨⟨scheme, rest⟩, -, h⟩ := Option.bind_eq_some_iff.mp h
  dsimp only at h
  split at h
  · rename_i hfile
    obtain ⟨⟨host, path⟩, -, h⟩ := Option.bind_eq_some_iff.mp h
    obtain rfl := Option.some.inj h
    rw [(isSpecial_of_mem hscheme).2] at hfile
    cases hfile
  split at h
  · rename_i hspecial
    obtain ⟨a, ha, h⟩ := Option.bind_eq_some_iff.mp h
    obtain rfl := Option.some.inj h
    obtain ⟨name, hname⟩ := readAuthority?_host hspecial ha
    refine ⟨⟨rfl, ⟨_, name, rfl, hname⟩, _, rfl, pathAfterAuthority_closed _⟩, ?_⟩
    rw [readAuthority?_eq hspecial] at ha
    obtain ⟨bare, -, rfl⟩ := Option.map_eq_some_iff.mp ha
    exact isUserinfo_credentials (u := ⟨scheme, [], [], none, none, .segments [], none, none⟩) _
  rename_i hspecial
  -- No other scheme is one of requests.
  have hother {u : Url} (hsame : u.scheme = scheme) (hmem : u.scheme ∈ Uri.schemes) : False :=
    hspecial (hsame ▸ (isSpecial_of_mem hmem).1)
  split at h
  · obtain ⟨a, -, h⟩ := Option.bind_eq_some_iff.mp h
    obtain rfl := Option.some.inj h
    exact (hother rfl hscheme).elim
  · obtain rfl := Option.some.inj h
    exact (hother rfl hscheme).elim
  · obtain rfl := Option.some.inj h
    exact (hother rfl hscheme).elim

/-- What stands in front of the query and the fragment of a URL. -/
def front (u : Url) : Chars := u.scheme ++ ':' :: (u.authority ++ u.pathText)

theorem text_eq_front (u : Url) :
    u.text = u.front ++ (u.query.elim [] ('?' :: ·) ++ u.fragment.elim [] ('#' :: ·)) := by
  unfold text front
  cases u.query <;> cases u.fragment <;> simp

theorem Closed.cons {c : Char} {text : Chars} (hc : c ≠ '?' ∧ c ≠ '#') (h : Closed text) :
    Closed (c :: text) :=
  List.forall_mem_cons.mpr ⟨hc, h⟩

theorem closed_of_plain {text : Chars} (h : Host.Plain text) : Closed text := by
  intro c hc
  constructor <;>
    · rintro rfl
      cases h _ hc

theorem closed_of_isUserinfo {text : Chars} (h : IsUserinfo text) : Closed text := by
  intro c hc
  constructor <;>
    · rintro rfl
      cases h.plain _ hc

/-- **Neither a query nor a fragment begins in front of the path's end**, whatever text a URL of a
    request was read from. -/
theorem front_closed {text : Chars} {u : Url} (h : parse? text = some u)
    (hscheme : u.scheme ∈ Uri.schemes) : Closed u.front := by
  obtain ⟨hweb, hcredentials⟩ := parse?_credentials h hscheme
  obtain ⟨host, name, hhost, hname⟩ := hweb.host
  obtain ⟨segments, hpath, hsegments⟩ := hweb.path
  have hletters : Closed u.scheme := by
    have hall : ∀ scheme ∈ Uri.schemes, Closed scheme := by decide
    exact hall _ hscheme
  have hauthority : Closed u.authority := by
    simp only [authority, hhost]
    refine .append (.append (.append (by decide) (closed_of_isUserinfo hcredentials))
      (closed_of_plain (Host.parse?_plain hname))) ?_
    cases u.port with
    | none => exact fun c hc => absurd hc List.not_mem_nil
    | some port =>
      exact .cons (by decide) (closed_of_plain (Host.toDigits_plain (by decide) (by decide) port))
  have hpathText : Closed u.pathText := by
    simp only [pathText, hhost, hpath, Path.text]
    intro c hc
    obtain ⟨segment, hsegment, hc⟩ := List.mem_flatMap.mp hc
    rcases List.mem_cons.mp hc with rfl | hc
    · decide
    · exact hsegments segment hsegment c hc
  exact .append hletters (.cons (by decide) (.append hauthority hpathText))

/-- A URL whose text has a place among URIs is under a scheme of requests. -/
theorem scheme_of_place? {u : Url} (hcolon : ':' ∉ u.scheme) (h : Uri.place? u.text ≠ none) :
    u.scheme ∈ Uri.schemes := by
  obtain ⟨place, hplace⟩ := Option.ne_none_iff_exists'.mp h
  obtain ⟨⟨scheme, rest⟩, hcut, -⟩ := Option.map_eq_some_iff.mp hplace
  obtain ⟨behind, hbehind, -⟩ := Uri.cutScheme?_front.mp hcut
  obtain ⟨hscheme, heq⟩ := Uri.cutScheme?_eq_some hbehind
  have hnone : ∀ scheme ∈ Uri.schemes, ':' ∉ scheme := by decide
  have htake (scheme : Chars) (hfree : ':' ∉ scheme) (rest : Chars) :
      (scheme ++ ':' :: rest).takeWhile (· != ':') = scheme := by
    rw [Chars.takeWhile_append_cons rfl]
    exact List.takeWhile_eq_self_iff.mpr fun c hc => bne_iff_ne.mpr fun heq => hfree (heq ▸ hc)
  -- Both schemes end at the first colon.
  have hfirst := congrArg (List.takeWhile (· != ':')) heq
  rw [text_eq_front, front, List.append_assoc, List.cons_append, htake _ hcolon, List.append_assoc,
    show "://".toList ++ behind = ':' :: ("//".toList ++ behind) from rfl,
    htake _ (hnone scheme hscheme)] at hfirst
  exact hfirst ▸ hscheme

end Url

end Replicast
