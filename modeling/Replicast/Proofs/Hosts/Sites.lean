import Replicast.Proofs.Hosts.Blanks
import Replicast.Proofs.QueryPairs.Parts
/-!
# The site of a web address

User name, password, host and port of a web address are read from one piece of its text: from what
stands between the slashes behind the scheme, however many they are, and the next character that
ends an authority.

## Overview

* `Url.readBehind?` reads what stands behind the scheme, and `Url.readBehind?_slashes` says that
  slashes at its beginning count for nothing.
* `Url.span` is the piece, `Url.readSite?` reads it, and `Url.parse?_site` says that nothing else
  has a say in the site.
* `Url.readSite?_blank` says that no piece that ends in a blank is read.
* `Url.place?_text` says that the site alone decides on scheme and authority of a URI.
-/

namespace Replicast

/-- What is left over begins with a character of the class that was looked for. -/
theorem Chars.of_head?_dropWhile {p : Char → Bool} {text : Chars} :
    ∀ c ∈ (text.dropWhile (!p ·)).head?, p c = true := by
  intro c hc
  have hnot := List.head?_dropWhile_not (!p ·) text
  rw [hc] at hnot
  simpa using hnot

/-- What is dropped at the beginning does not end what is taken. -/
theorem Chars.takeWhile_dropWhile_takeWhile {p q r : Char → Bool}
    (h : ∀ c, q c = true → p c = true) (text : Chars) :
    ((text.takeWhile p).dropWhile q).takeWhile r =
      (text.dropWhile q).takeWhile fun c => p c && r c := by
  induction text with
  | nil => rfl
  | cons c rest ih =>
    by_cases hq : q c = true
    · simp [h c hq, hq, ih]
    · have hkept : ((c :: rest).takeWhile p).dropWhile q = (c :: rest).takeWhile p := by
        by_cases hp : p c = true
        · simp [hp, hq]
        · simp [hp]
      rw [hkept, List.takeWhile_takeWhile, List.dropWhile_cons_of_neg hq]
      congr 1
      funext d
      cases p d <;> cases r d <;> rfl

/-- The text behind the last character of a class ends as the whole does. -/
theorem Chars.getLast?_cutLast {p : Char → Bool} {text : Chars} {c : Char} (hc : p c = false)
    (h : text.getLast? = some c) : (cutLast p text).2.getLast? = some c := by
  unfold cutLast
  dsimp only
  rw [cut_fst, List.getLast?_reverse, List.head?_takeWhile, List.head?_reverse, h]
  simp [hc]

theorem Chars.mem_of_mem_cutLast {p : Char → Bool} {text : Chars} {c : Char}
    (h : c ∈ (cutLast p text).2) : c ∈ text := by
  unfold cutLast at h
  dsimp only at h
  rw [cut_fst] at h
  exact List.mem_reverse.mp ((List.takeWhile_sublist _).mem (List.mem_reverse.mp h))

namespace Url

variable {scheme : Chars}

/-! ## §1 Behind the scheme -/

/-- Read what stands behind the scheme of a web address and its colon. -/
def readBehind? (scheme behind : Chars) : Option Url :=
  let (rest, fragment) := Chars.cut (· == '#') behind
  let (main, query) := Chars.cut (· == '?') rest
  (readAuthority? scheme (Chars.trimStart (isSlash true) main)
    (query.isSome || fragment.isSome)).map fun a =>
      ⟨scheme, a.username, a.password, some a.host, a.port,
        .segments (pathAfterAuthority true a.rest),
        query.map (Percent.encode Percent.specialQuery),
        fragment.map (Percent.encode Percent.fragment)⟩

theorem parse?_behind {text behind : Chars} (hscheme : scheme ∈ Uri.schemes)
    (h : cutScheme? (prepare text) = some (scheme, behind)) :
    parse? text = readBehind? scheme behind := by
  obtain ⟨hspecial, hfile⟩ := isSpecial_of_mem hscheme
  unfold parse? readBehind?
  rw [h]
  simp only [Option.bind_eq_bind, Option.bind_some, hspecial, hfile, if_true, Bool.false_eq_true,
    if_false]
  exact Option.map_eq_bind.symm

/-- Slashes in front of a site count for nothing. -/
theorem readBehind?_slashes {lead : Chars} (h : ∀ c ∈ lead, isSlash true c = true)
    (behind : Chars) : readBehind? scheme (lead ++ behind) = readBehind? scheme behind := by
  have hfree (d : Char) (hd : isSlash true d = false) : ∀ c ∈ lead, (c == d) = false := by
    intro c hc
    apply beq_eq_false_iff_ne.mpr
    rintro rfl
    rw [h c hc] at hd
    cases hd
  unfold readBehind? Chars.trimStart
  rw [Chars.cut_append (hfree '#' rfl)]
  dsimp only
  rw [Chars.cut_append (hfree '?' rfl)]
  dsimp only
  rw [List.dropWhile_append_of_pos h]

/-- What counts of a text behind a scheme. -/
def kept (text : Chars) : Chars := (Chars.trimEnd isEdge text).filter (!isDropped ·)

theorem lower_of_mem (h : scheme ∈ Uri.schemes) : Chars.lower scheme = scheme := by
  have hall : ∀ scheme ∈ Uri.schemes, Chars.lower scheme = scheme := by decide
  exact hall scheme h

theorem parse?_kept (hscheme : scheme ∈ Uri.schemes) (text : Chars) :
    parse? (scheme ++ "://".toList ++ text) = readBehind? scheme (kept text) := by
  have hcut := cutScheme?_prepare ((lower_of_mem hscheme).symm ▸ hscheme) text
  rw [lower_of_mem hscheme] at hcut
  rw [parse?_behind hscheme hcut]
  exact readBehind?_slashes (List.all_eq_true.mp rfl) _

/-- A single slash behind the scheme does as well. -/
theorem parse?_slash (hscheme : scheme ∈ Uri.schemes) (text : Chars) :
    parse? (scheme ++ ':' :: '/' :: text) = readBehind? scheme (kept text) := by
  have hcut : cutScheme? (prepare (scheme ++ ":/".toList ++ text)) =
      some (scheme, "/".toList ++ kept text) := by
    simp only [Uri.schemes, List.mem_cons, List.not_mem_nil, or_false] at hscheme
    rcases hscheme with rfl | rfl
    · rw [prepare_append (by decide) (by decide) (by decide)]
      rfl
    · rw [prepare_append (by decide) (by decide) (by decide)]
      rfl
  rw [show scheme ++ ':' :: '/' :: text = scheme ++ ":/".toList ++ text by simp,
    parse?_behind hscheme hcut]
  exact readBehind?_slashes (List.all_eq_true.mp rfl) _

/-! ## §2 The piece that a site is read from -/

/-- The characters between the slashes at the beginning and the next one that ends an authority. -/
def span (behind : Chars) : Chars :=
  (behind.dropWhile (isSlash true)).takeWhile (!endsAuthority ·)

theorem isSlash_of_endsAuthority {c : Char} (h : endsAuthority c = false) :
    isSlash true c = false := by
  simp only [endsAuthority, Bool.or_eq_false_iff] at h
  exact h.1.1

/-- No character of a span is a slash. -/
theorem isSlash_of_span {behind : Chars} {c : Char} (h : c ∈ span behind) :
    isSlash true c = false := by
  have hc := List.mem_takeWhile_imp h
  exact isSlash_of_endsAuthority ((Bool.not_eq_true' _).mp hc)

/-- A text is the span up to where something ends it. -/
theorem span_append {text tail : Chars} (hne : text ≠ [])
    (hplain : ∀ c ∈ text, endsAuthority c = false)
    (htail : ∀ c ∈ tail.head?, endsAuthority c = true) : span (text ++ tail) = text := by
  obtain ⟨first, others, rfl⟩ := List.exists_cons_of_ne_nil hne
  have hfirst : isSlash true first ≠ true := by
    simp [isSlash_of_endsAuthority (hplain first List.mem_cons_self)]
  rw [span, List.cons_append, List.dropWhile_cons_of_neg hfirst, ← List.cons_append,
    List.takeWhile_append_of_pos fun c hc => by simp [hplain c hc]]
  cases tail with
  | nil => exact List.append_nil _
  | cons c tail => simp [htail c rfl]

/-- Nothing, or something that a slash begins. -/
def Stops (rest : Chars) : Prop := ∀ c ∈ rest.head?, isSlash true c = true

theorem stops_dropWhile (text : Chars) : Stops (text.dropWhile (!isSlash true ·)) :=
  Chars.of_head?_dropWhile

/-- A site is cut out before a query or a fragment. -/
theorem span_eq (behind : Chars) :
    ((Chars.cut (· == '?') (Chars.cut (· == '#') behind).1).1.dropWhile
      (isSlash true)).takeWhile (!isSlash true ·) = span behind := by
  have hslash (c : Char) (hc : isSlash true c = true) : (c != '?' && c != '#') = true := by
    simp only [isSlash, Bool.true_and, Bool.or_eq_true, beq_iff_eq] at hc
    rcases hc with rfl | rfl <;> rfl
  have hends : (fun c => (c != '?' && c != '#') && !isSlash true c) = (!endsAuthority ·) := by
    funext c
    simp only [endsAuthority, bne]
    cases isSlash true c <;> cases c == '?' <;> cases c == '#' <;> rfl
  have hmain : (Chars.cut (· == '?') (Chars.cut (· == '#') behind).1).1 =
      behind.takeWhile fun c => c != '?' && c != '#' := by
    rw [Chars.cut_fst, Chars.cut_fst, List.takeWhile_takeWhile]
    congr 1
    funext c
    cases hmark : c == '?' <;> cases hhash : c == '#' <;> simp [bne, hmark, hhash]
  rw [hmain, Chars.takeWhile_dropWhile_takeWhile hslash, hends]
  rfl

/-! ## §3 Reading a site -/

/-- Where a host ends, what follows is not looked at. -/
theorem cutHost_append {rest : Chars} (hrest : Stops rest) (place : Chars) (inside : Bool) :
    cutHost true inside (place ++ rest) =
      ((cutHost true inside place).1, (cutHost true inside place).2 ++ rest) := by
  induction place generalizing inside with
  | nil =>
    cases rest with
    | nil => rfl
    | cons c tail => simp [cutHost, hrest c rfl]
  | cons c place ih =>
    rw [List.cons_append]
    unfold cutHost
    split
    · rfl
    · rw [ih]

/-- A host and what follows it are the whole place; it ends at a slash or at a colon. -/
theorem cutHost_whole (place : Chars) (inside : Bool) :
    (cutHost true inside place).1 ++ (cutHost true inside place).2 = place ∧
      ∀ c ∈ (cutHost true inside place).2.head?, isSlash true c = true ∨ c = ':' := by
  induction place generalizing inside with
  | nil => exact ⟨rfl, fun c hc => nomatch hc⟩
  | cons c place ih =>
    unfold cutHost
    split
    · rename_i hends
      refine ⟨rfl, fun d hd => ?_⟩
      obtain rfl := Option.some.inj hd
      simp only [Bool.or_eq_true, Bool.and_eq_true, beq_iff_eq] at hends
      exact hends.imp_right And.left
    · obtain ⟨hwhole, hstop⟩ := ih (c == '[' || (inside && c != ']'))
      exact ⟨congrArg (c :: ·) hwhole, hstop⟩

theorem cutPort?_eq (text : Chars) :
    cutPort? text =
      let digits := text.takeWhile Char.isDigit
      let rest := text.dropWhile Char.isDigit
      let value := digits.foldl (fun n c => n * 10 + (c.toNat - 48)) 0
      if rest.head?.all (isSlash true) && value ≤ 65535 then
        some (if digits.isEmpty then none else some value, rest)
      else none := by
  unfold cutPort?
  simp only [Chars.drop_takeWhile]
  generalize (text.takeWhile Char.isDigit).foldl (fun n c => n * 10 + (c.toNat - 48)) 0 = value
  cases text.dropWhile Char.isDigit with
  | nil => by_cases hvalue : value ≤ 65535 <;> simp [hvalue, Nat.not_lt.mpr, Nat.lt_of_not_le]
  | cons c after =>
    have hends : (c == '/' || c == '\\') = isSlash true c := by simp [isSlash]
    simp only [hends, List.head?_cons, Option.all_some]
    by_cases hslash : isSlash true c = true <;> by_cases hvalue : value ≤ 65535 <;>
      simp [hslash, hvalue, Nat.not_lt.mpr, Nat.lt_of_not_le]

/-- A port ends where its digits do. -/
theorem cutPort?_append {rest : Chars} (hrest : Stops rest) (text : Chars) :
    cutPort? (text ++ rest) = (cutPort? text).map fun (port, after) => (port, after ++ rest) := by
  have hdigit : ∀ c ∈ rest.head?, c.isDigit = false := by
    intro c hc
    have hslash := hrest c hc
    simp only [isSlash, Bool.true_and, Bool.or_eq_true, beq_iff_eq] at hslash
    rcases hslash with rfl | rfl <;> rfl
  have hcut : (text ++ rest).takeWhile Char.isDigit = text.takeWhile Char.isDigit ∧
      (text ++ rest).dropWhile Char.isDigit = text.dropWhile Char.isDigit ++ rest := by
    induction text with
    | nil =>
      cases rest with
      | nil => exact ⟨rfl, rfl⟩
      | cons c tail => simp [hdigit c rfl]
    | cons c text ih =>
      by_cases hc : c.isDigit = true
      · simp [hc, ih]
      · simp [hc]
  have hhead : (text.dropWhile Char.isDigit ++ rest).head?.all (isSlash true) =
      (text.dropWhile Char.isDigit).head?.all (isSlash true) := by
    cases text.dropWhile Char.isDigit with
    | nil =>
      cases rest with
      | nil => rfl
      | cons c tail => exact hrest c rfl
    | cons c after => rfl
  rw [cutPort?_eq, cutPort?_eq]
  simp only [hcut, hhead]
  split <;> rfl

/-- The port behind a host, and what follows it. -/
def portBehind? (after : Chars) : Option (Option Nat × Chars) :=
  match after with
  | ':' :: text => cutPort? text
  | _ => some (none, after)

theorem portBehind?_of_ne {after : Chars} (h : ∀ text, after = ':' :: text → False) :
    portBehind? after = some (none, after) := by
  unfold portBehind?
  split
  · rename_i text
    exact (h text rfl).elim
  · rfl

theorem portBehind?_append {rest : Chars} (hrest : Stops rest) (after : Chars) :
    portBehind? (after ++ rest) =
      (portBehind? after).map fun (port, behind) => (port, behind ++ rest) := by
  by_cases hcolon : ∃ text, after = ':' :: text
  · obtain ⟨text, rfl⟩ := hcolon
    exact cutPort?_append hrest text
  · rw [portBehind?_of_ne fun text heq => hcolon ⟨text, heq⟩, portBehind?_of_ne]
    · rfl
    · intro text heq
      cases after with
      | nil => cases hrest ':' (by rw [show rest = _ from heq]; rfl)
      | cons c tail => exact hcolon ⟨tail, by rw [(List.cons.inj heq).1]⟩

theorem readPlace?_eq (place rest : Chars) :
    readPlace? scheme place rest =
      let (name, after) := cutHost true false (place ++ rest)
      if place.isEmpty || name.isEmpty then none
      else
        (Host.parse? name).bind fun host => (portBehind? after).map fun (port, behind) =>
          ⟨[], [], host, if specialPort? scheme == some port then none else port, behind⟩ := by
  unfold readPlace?
  generalize cutHost true false (place ++ rest) = cut
  obtain ⟨name, after⟩ := cut
  by_cases hplace : place.isEmpty = true
  · simp [hplace]
  by_cases hname : name.isEmpty = true
  · simp [hplace, hname]
  simp only [hplace, hname, Bool.or_self, Bool.false_eq_true, if_false]
  cases Host.parse? name with
  | none => rfl
  | some host =>
    simp only [Option.bind_eq_bind, Option.bind_some]
    split
    · rename_i text
      rw [show portBehind? (':' :: text) = cutPort? text from rfl]
      cases cutPort? text <;> rfl
    · rename_i hcolon
      rw [portBehind?_of_ne hcolon]
      rfl

/-- What follows a site has no say in it. -/
theorem readPlace?_append {rest : Chars} (hrest : Stops rest) (place : Chars) :
    readPlace? scheme place rest =
      (readPlace? scheme place []).map fun a => { a with rest := a.rest ++ rest } := by
  rw [readPlace?_eq, readPlace?_eq, cutHost_append hrest, List.append_nil]
  dsimp only
  split
  · rfl
  · rw [portBehind?_append hrest]
    cases Host.parse? (cutHost true false place).1 with
    | none => rfl
    | some host => cases portBehind? (cutHost true false place).2 <;> rfl

/-! ## §4 Sites -/

/-- A URL without what stands behind its authority. -/
def site (u : Url) : Url := { u with path := .segments [], query := none, fragment := none }

/-- Read a site. -/
def readSite? (scheme text : Chars) : Option Url :=
  let (userinfo, place) := Chars.cutLast (· == '@') text
  (readPlace? scheme place []).map fun a =>
    (⟨scheme, [], [], some a.host, a.port, .segments [], none, none⟩ : Url).withUserinfo
      (userinfo.getD [])

/-- **A site is read from its span alone.** -/
theorem readBehind?_site (hscheme : scheme ∈ Uri.schemes) (behind : Chars) :
    (readBehind? scheme behind).map site = readSite? scheme (span behind) := by
  unfold readBehind? readSite? Chars.trimStart
  dsimp only
  rw [readAuthority?_eq (isSpecial_of_mem hscheme).1, span_eq]
  generalize Chars.cutLast (· == '@') (span behind) = cut
  obtain ⟨userinfo, place⟩ := cut
  dsimp only
  rw [readPlace?_append (stops_dropWhile _)]
  cases readPlace? scheme place [] <;> rfl

theorem parse?_site (hscheme : scheme ∈ Uri.schemes) (text : Chars) :
    (parse? (scheme ++ "://".toList ++ text)).map site = readSite? scheme (span (kept text)) := by
  rw [parse?_kept hscheme, readBehind?_site hscheme]

/-! ## §5 Blanks at the end -/

/-- A port does not end in a blank. -/
theorem cutPort?_blank {text : Chars} {c : Char} (hc : IsBlank c) (hmem : c ∈ text)
    (hfree : ∀ d ∈ text, isSlash true d = false) : cutPort? text = none := by
  rw [cutPort?_eq]
  dsimp only
  cases hrest : text.dropWhile Char.isDigit with
  | nil =>
    have hdigit := List.dropWhile_eq_nil_iff.mp hrest c hmem
    have hzero : '0'.toNat ≤ c.toNat := (of_decide_eq_true ((Bool.and_eq_true _ _).mp hdigit).1)
    have hle := hc.toNat_le
    exact absurd (hzero.trans hle) (by decide)
  | cons d behind =>
    have hd : isSlash true d = false :=
      hfree d ((List.dropWhile_sublist _).mem (hrest ▸ List.mem_cons_self))
    simp [hd]

/-- No site ends in a blank. -/
theorem readSite?_blank {text : Chars} {c : Char} (hc : IsBlank c) (hlast : text.getLast? = some c)
    (hfree : ∀ d ∈ text, isSlash true d = false) : readSite? scheme text = none := by
  have hat : (c == '@') = false := beq_eq_false_iff_ne.mpr (hc.ne rfl)
  have hplace : (Chars.cutLast (· == '@') text).2.getLast? = some c :=
    Chars.getLast?_cutLast hat hlast
  have hplaceFree : ∀ d ∈ (Chars.cutLast (· == '@') text).2, isSlash true d = false :=
    fun d hd => hfree d (Chars.mem_of_mem_cutLast hd)
  unfold readSite?
  generalize Chars.cutLast (· == '@') text = cut at hplace hplaceFree ⊢
  obtain ⟨userinfo, place⟩ := cut
  dsimp only at hplace hplaceFree ⊢
  rw [readPlace?_eq, List.append_nil]
  obtain ⟨hwhole, hstop⟩ := cutHost_whole place false
  generalize cutHost true false place = parts at hwhole hstop ⊢
  obtain ⟨name, after⟩ := parts
  dsimp only at hwhole hstop ⊢
  split
  · rfl
  -- The blank is at the end of the host, or of the port.
  cases after with
  | nil =>
    rw [List.append_nil] at hwhole
    rw [Host.parse?_blank hc (hwhole ▸ hplace)]
    rfl
  | cons d behind =>
    have hcolon : d = ':' := by
      refine (hstop d rfl).resolve_left fun hslash => ?_
      rw [hplaceFree d (hwhole ▸ List.mem_append_right _ List.mem_cons_self)] at hslash
      cases hslash
    subst hcolon
    have hmem : c ∈ behind := by
      have hend : (':' :: behind).getLast? = some c := by
        simpa [← hwhole, List.getLast?_cons] using hplace
      exact (List.mem_cons.mp (List.mem_of_getLast? hend)).resolve_left (hc.ne rfl)
    have hport : portBehind? (':' :: behind) = none :=
      cutPort?_blank hc hmem fun e he =>
        hplaceFree e (hwhole ▸ List.mem_append_right _ (List.mem_cons_of_mem _ he))
    rw [hport]
    cases Host.parse? name <;> rfl

/-! ## §6 Origins -/

/-- Scheme and authority that a URI has when it is read from the text of a URL. -/
def origin (u : Url) : Chars × Chars := (u.scheme, (u.authority.drop 2).takeWhile (· != '/'))

theorem site_origin (u : Url) : u.site.origin = u.origin := rfl

/-- **Only the site has a say in scheme and authority.** -/
theorem place?_text {text : Chars} {u : Url} (h : parse? text = some u)
    (hscheme : u.scheme ∈ Uri.schemes) : ∃ path, Uri.place? u.text = some (u.origin, path) := by
  have hfront : Uri.front u.text = u.front := by
    rw [text_eq_front]
    exact (Uri.cut_parts (front_closed h hscheme) u.query
      (fun query hquery => ((parse?_query h).2 query hquery).2) u.fragment).1
  obtain ⟨hweb, -⟩ := parse?_credentials h hscheme
  obtain ⟨host, -, hhost, -⟩ := hweb.host
  obtain ⟨segments, hpath, -⟩ := hweb.path
  obtain ⟨behind, hauthority⟩ : ∃ behind, u.authority = "//".toList ++ behind := by
    simp only [authority, hhost, List.append_assoc]
    exact ⟨_, rfl⟩
  have hwhole : u.front = u.scheme ++ "://".toList ++ (behind ++ u.pathText) := by
    simp [front, hauthority]
  have hrest : (behind ++ u.pathText).takeWhile (· != '/') = behind.takeWhile (· != '/') := by
    have hpathText : u.pathText = segments.flatMap ('/' :: ·) := by
      simp only [pathText, hhost, hpath, Path.text]
    rw [hpathText]
    cases segments with
    | nil => rw [List.flatMap_nil, List.append_nil]
    | cons first others =>
      rw [List.flatMap_cons, List.cons_append]
      exact Chars.takeWhile_append_cons (by decide) _ _
  have horigin : u.origin = (u.scheme, behind.takeWhile (· != '/')) := by
    rw [origin, hauthority]
    rfl
  refine ⟨Uri.rooted ((behind ++ u.pathText).dropWhile (· != '/')), ?_⟩
  rw [Uri.place?, hfront, hwhole, Uri.cutScheme?_append hscheme, horigin, ← hrest]
  rfl

end Url

end Replicast
