import Replicast.Proofs.Redaction
/-!
# Texts that differ in a userinfo

Two texts may differ in the userinfo in front of a host and in nothing else.  Whatever becomes of
them on the way to a request differs in it at most, and the two requests are shown alike if they are
shown as URLs.

## Overview

* `Uri.SameButUserinfo` relates such texts.  Joining a path, adding pairs and reading a URI keep it.
* `Url.readAuthority?_eq` takes an authority apart: the userinfo has a say in the credentials only.
* `Uri.redacted_eq_of_resolve` is the result.
-/

namespace Replicast

/-! ## §1 Lists of characters -/

namespace Chars

section Lists

variable {p : Char → Bool} {c : Char}

/-- Nothing is cut within a text without a character of the class. -/
theorem cut_append {xs : Chars} (h : ∀ c ∈ xs, p c = false) (ys : Chars) :
    cut p (xs ++ ys) = (xs ++ (cut p ys).1, (cut p ys).2) := by
  induction xs with
  | nil => rfl
  | cons d xs ih =>
    have hd : p d = false := h d List.mem_cons_self
    simp [cut, hd, ih fun c hc => h c (List.mem_cons_of_mem _ hc)]

theorem takeWhile_append_cons (hc : p c = false) (xs ys : Chars) :
    (xs ++ c :: ys).takeWhile p = xs.takeWhile p := by
  induction xs with
  | nil => simp [hc]
  | cons d xs ih => by_cases hd : p d = true <;> simp [hd, ih]

theorem dropWhile_append_cons (hc : p c = false) (xs ys : Chars) :
    (xs ++ c :: ys).dropWhile p = xs.dropWhile p ++ c :: ys := by
  induction xs with
  | nil => simp [hc]
  | cons d xs ih => by_cases hd : p d = true <;> simp [hd, ih]

/-- Nothing is trimmed up to a character outside the class. -/
theorem trimEnd_append_cons (hc : p c = false) (xs ys : Chars) :
    trimEnd p (xs ++ c :: ys) = xs ++ c :: trimEnd p ys := by
  simp only [trimEnd, List.reverse_append, List.reverse_cons, List.append_assoc]
  rw [List.singleton_append, dropWhile_append_cons hc]
  simp

/-- The last character of a class is behind any other one. -/
theorem cutLast_append_cons (hc : p c = true) (xs ys : Chars) :
    (cutLast p (xs ++ c :: ys)).2 = (cutLast p ys).2 := by
  simp only [cutLast, cut_fst, List.reverse_append, List.reverse_cons, List.append_assoc]
  rw [List.singleton_append, takeWhile_append_cons (by simp [hc])]

end Lists

end Chars

/-! ## §2 Userinfo -/

namespace Url

/-- The characters that end an authority under either grammar. -/
def endsAuthority (c : Char) : Bool := isSlash true c || c == '?' || c == '#'

/-- What may stand between two slashes and a host: nothing, or a text up to an at sign. -/
def IsUserinfo (text : Chars) : Prop :=
  text = [] ∨ ∃ name, text = name ++ ['@'] ∧ ∀ c ∈ name, endsAuthority c = false

/-- Whether a host may begin with a character. -/
def beginsHost (c : Char) : Bool := !isEdge c && !endsAuthority c

section Userinfo

variable {c : Char} {user : Chars}

theorem IsUserinfo.plain (h : IsUserinfo user) : ∀ c ∈ user, endsAuthority c = false := by
  rcases h with rfl | ⟨name, rfl, hname⟩
  · simp
  · intro c hc
    rcases List.mem_append.mp hc with hc | hc
    · exact hname c hc
    · obtain rfl := List.mem_singleton.mp hc
      decide

theorem IsUserinfo.ne (h : IsUserinfo user) {d : Char} (hd : endsAuthority d = true) :
    ∀ c ∈ user, (c == d) = false := by
  intro c hc
  refine beq_eq_false_iff_ne.mpr ?_
  rintro rfl
  exact absurd hd (by simp [h.plain c hc])

theorem IsUserinfo.filter (h : IsUserinfo user) (p : Char → Bool) (hat : p '@' = true) :
    IsUserinfo (user.filter p) := by
  rcases h with rfl | ⟨name, rfl, hname⟩
  · exact .inl rfl
  · exact .inr ⟨name.filter p, by simp [hat], fun c hc => hname c (List.mem_filter.mp hc |>.1)⟩

theorem beginsHost_isEdge (hc : beginsHost c = true) : isEdge c = false := by
  simp only [beginsHost, Bool.and_eq_true, Bool.not_eq_true'] at hc
  exact hc.1

theorem beginsHost_ne (hc : beginsHost c = true) {d : Char} (hd : endsAuthority d = true) :
    (c == d) = false := by
  refine beq_eq_false_iff_ne.mpr ?_
  rintro rfl
  simp [beginsHost, hd] at hc

theorem beginsHost_isSlash (hc : beginsHost c = true) : isSlash true c = false := by
  simp only [beginsHost, endsAuthority, Bool.and_eq_true, Bool.not_eq_true', Bool.or_eq_false_iff]
    at hc
  exact hc.2.1.1

/-- Slashes come neither in a userinfo nor at the beginning of a host. -/
theorem isSlash_of_isUserinfo (h : IsUserinfo user) : ∀ c ∈ user, isSlash true c = false := by
  intro c hc
  have hplain := h.plain c hc
  simp only [endsAuthority, Bool.or_eq_false_iff] at hplain
  exact hplain.1.1

theorem trimStart_userinfo (h : IsUserinfo user) (hc : beginsHost c = true) (rest : Chars) :
    Chars.trimStart (isSlash true) (user ++ c :: rest) = user ++ c :: rest := by
  cases user with
  | nil => simp [Chars.trimStart, beginsHost_isSlash hc]
  | cons d user =>
    simp [Chars.trimStart, isSlash_of_isUserinfo h d List.mem_cons_self]

end Userinfo

end Url

/-- Two texts that are the same up to the userinfo in front of a host, which either may lack. -/
inductive Uri.SameButUserinfo : Chars → Chars → Prop
  | intro {scheme user user' : Chars} {c : Char} {rest : Chars}
    (hscheme : Chars.lower scheme ∈ Uri.schemes) (huser : Url.IsUserinfo user)
    (huser' : Url.IsUserinfo user') (hc : Url.beginsHost c = true) :
    SameButUserinfo (scheme ++ "://".toList ++ (user ++ c :: rest))
      (scheme ++ "://".toList ++ (user' ++ c :: rest))

/-! ## §3 Authorities -/

namespace Url

/-- Read the authority of a web address that has no userinfo. -/
def readPlace? (scheme place rest : Chars) : Option Authority := do
  if place.isEmpty then none
  else
    let (hostText, after) := cutHost true false (place ++ rest)
    if hostText.isEmpty then none
    else
      let host ← Host.parse? hostText
      let (port, rest) ← match after with
        | ':' :: portText => cutPort? portText
        | _ => some (none, after)
      some ⟨[], [], host, if specialPort? scheme == some port then none else port, rest⟩

/-- An authority with user name and password as they are read from a userinfo. -/
def Authority.withUserinfo (a : Authority) (userinfo : Chars) : Authority :=
  { a with username := (readUserinfo userinfo).1, password := (readUserinfo userinfo).2 }

/-- **The userinfo has a say in the credentials only.** -/
theorem readAuthority?_eq {scheme : Chars} (hspecial : isSpecial scheme = true) (text : Chars)
    (more : Bool) :
    readAuthority? scheme text more =
      let (userinfo, place) := Chars.cutLast (· == '@') (text.takeWhile (!isSlash true ·))
      (readPlace? scheme place (text.dropWhile (!isSlash true ·))).map
        (·.withUserinfo (userinfo.getD [])) := by
  unfold readAuthority? readPlace? Authority.withUserinfo
  simp only [hspecial, Chars.drop_takeWhile]
  generalize Chars.cutLast (· == '@') (text.takeWhile (!isSlash true ·)) = cut
  obtain ⟨userinfo, place⟩ := cut
  dsimp only
  by_cases hplace : place.isEmpty = true
  · simp [hplace]
  generalize cutHost true false (place ++ text.dropWhile (!isSlash true ·)) = parts
  obtain ⟨hostText, after⟩ := parts
  dsimp only
  by_cases hhost : hostText.isEmpty = true
  · simp [hplace, hhost]
  cases Host.parse? hostText with
  | none => simp [hplace, hhost]
  | some host =>
    simp only [hplace, hhost, Bool.false_and, Bool.false_eq_true, if_true, if_false]
    -- With or without a port.
    split
    · rename_i portText
      simp only [Option.bind_eq_bind, Option.bind_some]
      cases cutPort? portText <;> rfl
    · simp

/-! ## §4 Reading URLs -/

/-- A URL with user name and password as they are read from a userinfo. -/
def withUserinfo (u : Url) (userinfo : Chars) : Url :=
  { u with username := (readUserinfo userinfo).1, password := (readUserinfo userinfo).2 }

@[simp] theorem withUserinfo_redacted (u : Url) (userinfo : Chars) :
    (u.withUserinfo userinfo).redacted = u.redacted := rfl

@[simp] theorem withUserinfo_appendPairs (u : Url) (userinfo : Chars) (pairs : Form.Pairs) :
    (u.withUserinfo userinfo).appendPairs pairs = (u.appendPairs pairs).withUserinfo userinfo := rfl

section Web

variable {scheme user rest : Chars} {c : Char}

/-- What counts of a text that begins with a userinfo and a host does so, too. -/
theorem kept_userinfo (huser : IsUserinfo user) (hc : beginsHost c = true) (rest : Chars) :
    ∃ kept, IsUserinfo kept ∧
      (Chars.trimEnd isEdge (user ++ c :: rest)).filter (!isDropped ·) =
        kept ++ c :: (Chars.trimEnd isEdge rest).filter (!isDropped ·) := by
  refine ⟨user.filter (!isDropped ·), huser.filter _ rfl, ?_⟩
  rw [Chars.trimEnd_append_cons (beginsHost_isEdge hc), List.filter_append, List.filter_cons_of_pos]
  simp [isDropped_of_isEdge (beginsHost_isEdge hc)]

/-- What follows the userinfo is read as it would be without one. -/
theorem readAuthority?_userinfo (hspecial : isSpecial scheme = true) (huser : IsUserinfo user)
    (text : Chars) (more : Bool) :
    ∃ userinfo, readAuthority? scheme (user ++ text) more =
      (readPlace? scheme (Chars.cutLast (· == '@') (text.takeWhile (!isSlash true ·))).2
          (text.dropWhile (!isSlash true ·))).map (·.withUserinfo userinfo) := by
  have hslash : ∀ d ∈ user, (!isSlash true d) = true := fun d hd => by
    simp [isSlash_of_isUserinfo huser d hd]
  rw [readAuthority?_eq hspecial, List.takeWhile_append_of_pos hslash,
    List.dropWhile_append_of_pos hslash]
  have hplace : (Chars.cutLast (· == '@') (user ++ text.takeWhile (!isSlash true ·))).2 =
      (Chars.cutLast (· == '@') (text.takeWhile (!isSlash true ·))).2 := by
    rcases huser with rfl | ⟨name, rfl, -⟩
    · rfl
    · rw [List.append_assoc, List.singleton_append, Chars.cutLast_append_cons rfl]
  exact ⟨_, by rw [← hplace]⟩

/-- **A userinfo has a say in the user name and the password of a URL only.** -/
theorem parse?_userinfo (hscheme : Chars.lower scheme ∈ Uri.schemes) (hc : beginsHost c = true)
    (rest : Chars) :
    ∃ bare : Option Url, ∀ user, IsUserinfo user → ∃ userinfo,
      parse? (scheme ++ "://".toList ++ (user ++ c :: rest)) =
        bare.map (·.withUserinfo userinfo) := by
  let behind := (Chars.trimEnd isEdge rest).filter (!isDropped ·)
  let cut := Chars.cut (· == '#') behind
  let main := Chars.cut (· == '?') cut.1
  refine ⟨(readPlace? (Chars.lower scheme)
      (Chars.cutLast (· == '@') ((c :: main.1).takeWhile (!isSlash true ·))).2
      ((c :: main.1).dropWhile (!isSlash true ·))).map fun a =>
        ⟨Chars.lower scheme, [], [], some a.host, a.port,
          .segments (pathAfterAuthority true a.rest),
          main.2.map (Percent.encode Percent.specialQuery),
          cut.2.map (Percent.encode Percent.fragment)⟩, fun user huser => ?_⟩
  obtain ⟨kept, hkept, heq⟩ := kept_userinfo huser hc rest
  -- Neither a fragment nor a query begins before the host does.
  have hcut (d : Char) (hd : endsAuthority d = true) (text : Chars) :
      Chars.cut (· == d) (kept ++ c :: text) =
        (kept ++ c :: (Chars.cut (· == d) text).1, (Chars.cut (· == d) text).2) := by
    rw [Chars.cut_append (hkept.ne hd)]
    simp [Chars.cut, beginsHost_ne hc hd]
  obtain ⟨userinfo, hread⟩ := readAuthority?_userinfo (isSpecial_of_mem hscheme).1 hkept
    (c :: main.1) (main.2.isSome || cut.2.isSome)
  refine ⟨userinfo, ?_⟩
  rw [parse?_eq hscheme, heq]
  dsimp only
  rw [hcut '#' rfl]
  dsimp only
  rw [hcut '?' rfl]
  dsimp only
  rw [trimStart_userinfo hkept hc, hread]
  simp only [Option.map_map, Function.comp_def]
  rfl

end Web

/-- User name and password are written without anything that ends an authority. -/
theorem readUserinfo_plain (text : Chars) :
    (∀ c ∈ (readUserinfo text).1, endsAuthority c = false) ∧
      ∀ c ∈ (readUserinfo text).2, endsAuthority c = false := by
  have hdigit : ∀ d < 16, endsAuthority (Percent.digit d) = false := by decide
  have hencode (text : Chars) :
      ∀ c ∈ Percent.encode Percent.userinfo text, endsAuthority c = false := by
    intro c hc
    rcases Percent.mem_encode hc with hplain | rfl | ⟨d, hd, rfl⟩
    · refine Bool.eq_false_iff.mpr fun hends => ?_
      simp only [endsAuthority, isSlash, Bool.true_and, Bool.or_eq_true, beq_iff_eq] at hends
      rcases hends with ((rfl | rfl) | rfl) | rfl <;> cases hplain
    · decide
    · exact hdigit d hd
  exact ⟨hencode _, hencode _⟩

/-- So the credentials of a URL are a userinfo again. -/
theorem isUserinfo_credentials (u : Url) (userinfo : Chars) :
    IsUserinfo (u.withUserinfo userinfo).credentials := by
  obtain ⟨hname, hpassword⟩ := readUserinfo_plain userinfo
  unfold credentials
  split
  · exact .inl rfl
  · refine .inr ⟨_, rfl, fun c hc => ?_⟩
    rcases List.mem_append.mp hc with hc | hc
    · exact hname c hc
    · split at hc
      · cases hc
      · rcases List.mem_cons.mp hc with rfl | hc
        · decide
        · exact hpassword c hc

/-- The text of a URL with its credentials in their place. -/
theorem text_eq {u : Url} {host : Host} (h : u.host = some host) :
    ∃ behind, ∀ userinfo, (u.withUserinfo userinfo).text = u.scheme ++ "://".toList ++
      ((u.withUserinfo userinfo).credentials ++ (host.text ++ behind)) := by
  obtain ⟨port, hport⟩ : ∃ port, ∀ userinfo, (u.withUserinfo userinfo).authority =
      "//".toList ++ ((u.withUserinfo userinfo).credentials ++ (host.text ++ port)) :=
    ⟨_, fun userinfo => by
      simp only [authority, withUserinfo, h, List.append_assoc]
      rfl⟩
  obtain ⟨behind, hbehind⟩ : ∃ behind, ∀ userinfo, (u.withUserinfo userinfo).text =
      u.scheme ++ ':' :: ((u.withUserinfo userinfo).authority ++ behind) :=
    ⟨u.pathText ++ _, fun userinfo => by
      simp only [text, pathText, withUserinfo, h, List.append_assoc, List.cons_append]
      rfl⟩
  exact ⟨port ++ behind, fun userinfo => by simp [hbehind, hport]⟩

/-- The host of a web address begins as hosts do. -/
theorem host_begins {text : Chars} {host : Host} (h : Host.parse? text = some host) :
    ∃ c rest, host.text = c :: rest ∧ beginsHost c = true := by
  obtain ⟨c, rest, htext⟩ := List.exists_cons_of_ne_nil (Host.parse?_ne_nil h)
  refine ⟨c, rest, htext, ?_⟩
  have hc := Host.parse?_plain h c (htext ▸ List.mem_cons_self)
  simp only [Host.isDelimiter, Uri.endsAuthority, Bool.or_eq_false_iff] at hc
  obtain ⟨⟨⟨_, hback⟩, hedge⟩, ⟨hslash, hquery⟩, hfragment⟩ := hc
  simp [beginsHost, endsAuthority, isSlash, hback, hedge, hslash, hquery, hfragment]

end Url

/-! ## §5 On the way to a request -/

namespace Uri

section Way

variable {text text' : Chars}

/-- Either both texts are URLs or none is, and they are the same but for user name and password. -/
theorem SameButUserinfo.parse? (h : SameButUserinfo text text') :
    ∃ (bare : Option Url) (userinfo userinfo' : Chars),
      Url.parse? text = bare.map (·.withUserinfo userinfo) ∧
        Url.parse? text' = bare.map (·.withUserinfo userinfo') := by
  cases h with
  | intro hscheme huser huser' hc =>
    obtain ⟨bare, hbare⟩ := Url.parse?_userinfo hscheme hc _
    obtain ⟨userinfo, hread⟩ := hbare _ huser
    obtain ⟨userinfo', hread'⟩ := hbare _ huser'
    exact ⟨bare, userinfo, userinfo', hread, hread'⟩

/-- A path is joined behind the host. -/
theorem SameButUserinfo.joinPath (h : SameButUserinfo text text') (path : Chars) :
    SameButUserinfo (joinPath text path) (joinPath text' path) := by
  cases h with
  | @intro scheme user user' c rest hscheme huser huser' hc =>
    have hjoin (user : Chars) :
        Uri.joinPath (scheme ++ "://".toList ++ (user ++ c :: rest)) path =
          scheme ++ "://".toList ++ (user ++ c :: (Chars.trimEnd (· == '/') rest ++
            (if (Chars.trimStart (· == '/') path).isEmpty then []
              else '/' :: Chars.trimStart (· == '/') path))) := by
      unfold Uri.joinPath
      rw [← List.append_assoc,
        Chars.trimEnd_append_cons (p := (· == '/')) (Url.beginsHost_ne hc rfl)]
      by_cases hrelative : (Chars.trimStart (· == '/') path).isEmpty = true <;> simp [hrelative]
    rw [hjoin user, hjoin user']
    exact .intro hscheme huser huser' hc

/-- Pairs are added behind the host, whether the texts are URLs or not. -/
theorem SameButUserinfo.addPairs (h : SameButUserinfo text text') (pairs : Form.Pairs) :
    SameButUserinfo (addPairs text pairs) (addPairs text' pairs) := by
  obtain ⟨bare, userinfo, userinfo', hread, hread'⟩ := h.parse?
  unfold Uri.addPairs
  split
  · exact h
  rw [hread, hread']
  cases h with
  | @intro scheme user user' c rest hscheme huser huser' hc =>
    cases bare with
    | none =>
      -- There is a question mark in both texts or in none.
      have hmark (user : Chars) (huser : Url.IsUserinfo user) :
          (scheme ++ "://".toList ++ (user ++ c :: rest)).contains '?' =
            (scheme ++ "://".toList ++ c :: rest).contains '?' := by
        have hnone : '?' ∉ user := fun hmem => absurd (huser.ne (d := '?') rfl _ hmem) (by simp)
        simp [hnone]
      have happend (user : Chars) (behind : Chars) :
          scheme ++ "://".toList ++ (user ++ c :: rest) ++ behind =
            scheme ++ "://".toList ++ (user ++ c :: (rest ++ behind)) := by simp
      simp only [Option.map_none, hmark user huser, hmark user' huser', happend]
      exact .intro hscheme huser huser' hc
    | some u =>
      obtain ⟨hscheme', ⟨host, name, hhost, hname⟩, -⟩ := Url.parse?_web hscheme hread
      obtain ⟨d, tail, htext, hd⟩ := Url.host_begins hname
      obtain ⟨behind, hbehind⟩ := Url.text_eq (u := u.appendPairs pairs) hhost
      have hlower : Chars.lower (u.appendPairs pairs).scheme ∈ schemes := by
        have hall : ∀ scheme ∈ schemes, Chars.lower scheme ∈ schemes := by decide
        have hu : (u.appendPairs pairs).scheme = Chars.lower scheme := hscheme'
        rw [hu]
        exact hall _ hscheme
      simp only [Option.map_some, Url.withUserinfo_appendPairs, hbehind, htext, List.cons_append]
      exact .intro hlower (Url.isUserinfo_credentials _ _) (Url.isUserinfo_credentials _ _) hd

theorem SameButUserinfo.targetText (h : SameButUserinfo text text') (path : Chars)
    (pairs : Form.Pairs) :
    SameButUserinfo (targetText text path pairs) (targetText text' path pairs) :=
  (h.joinPath path).addPairs pairs

/-! ## §6 Requests -/

theorem cutScheme?_append_eq {scheme found rest : Chars} (hcolon : ':' ∉ scheme)
    (h : cutScheme? (scheme ++ "://".toList ++ text) = some (found, rest)) :
    found = scheme ∧ rest = text := by
  obtain ⟨hfound, heq⟩ := cutScheme?_eq_some h
  have hnone : ∀ scheme ∈ schemes, ':' ∉ scheme := by decide
  have htake (scheme : Chars) (hcolon : ':' ∉ scheme) (text : Chars) :
      (scheme ++ "://".toList ++ text).takeWhile (· != ':') = scheme := by
    have hself : scheme.takeWhile (· != ':') = scheme :=
      List.takeWhile_eq_self_iff.mpr fun c hc => bne_iff_ne.mpr fun heq => hcolon (heq ▸ hc)
    rw [List.append_assoc]
    exact (Chars.takeWhile_append_cons rfl _ _).trans hself
  have hfirst := congrArg (List.takeWhile (· != ':')) heq
  rw [htake scheme hcolon, htake found (hnone found hfound)] at hfirst
  subst hfirst
  exact ⟨rfl, (List.append_cancel_left heq).symm⟩

/-- The authority of a URI goes on behind the userinfo, and so does the rest. -/
theorem authority_userinfo {user : Chars} {c : Char} (huser : Url.IsUserinfo user)
    (hc : Url.beginsHost c = true) (rest : Chars) :
    let authority := (user ++ c :: rest).takeWhile (!endsAuthority ·)
    authority = user ++ c :: rest.takeWhile (!endsAuthority ·) ∧
      (user ++ c :: rest).drop authority.length = rest.dropWhile (!endsAuthority ·) := by
  have hends {d : Char} (hd : Url.endsAuthority d = false) : (!endsAuthority d) = true := by
    simp only [Url.endsAuthority, Url.isSlash, Bool.or_eq_false_iff] at hd
    simp [endsAuthority, hd]
  have hplain : ∀ d ∈ user, (!endsAuthority d) = true := fun d hd => hends (huser.plain d hd)
  have hfirst : (!endsAuthority c) = true := by
    simp only [Url.beginsHost, Bool.and_eq_true, Bool.not_eq_true'] at hc
    exact hends hc.2
  constructor
  · rw [List.takeWhile_append_of_pos hplain,
      List.takeWhile_cons_of_pos (p := (!endsAuthority ·)) hfirst]
  · rw [Chars.drop_takeWhile, List.dropWhile_append_of_pos hplain,
      List.dropWhile_cons_of_pos (p := (!endsAuthority ·)) hfirst]

/-- A URI that was read keeps the userinfo, which has no say in what stands behind it. -/
theorem parse?_text {scheme : Chars} {c : Char} (hscheme : Chars.lower scheme ∈ schemes)
    (hc : Url.beginsHost c = true) (rest : Chars) :
    ∃ kept, ∀ user u, Url.IsUserinfo user →
      parse? (scheme ++ "://".toList ++ (user ++ c :: rest)) = some u →
        u.text = scheme ++ "://".toList ++ (user ++ c :: kept) := by
  let cut := Chars.cut (· == '?') (Chars.cut (· == '#') (rest.dropWhile (!endsAuthority ·))).1
  refine ⟨rest.takeWhile (!endsAuthority ·) ++
    ((if cut.1.isEmpty then ['/'] else cut.1) ++ cut.2.elim [] ('?' :: ·)),
    fun user u huser h => ?_⟩
  have hcolon : ':' ∉ scheme := fun hmem => absurd (Url.scheme_isAlpha hscheme _ hmem) (by decide)
  obtain ⟨htake, hdrop⟩ := authority_userinfo huser hc rest
  rw [htake] at hdrop
  unfold parse? at h
  split at h
  · cases h
  obtain ⟨⟨found, behind⟩, hcut, h⟩ := Option.bind_eq_some_iff.mp h
  obtain ⟨rfl, rfl⟩ := cutScheme?_append_eq hcolon hcut
  have hfold : (fun c : Char => !(c == '/' || c == '?' || c == '#')) = (!endsAuthority ·) := rfl
  simp only [hfold, htake, hdrop] at h
  split at h
  · obtain rfl := Option.some.inj h
    cases cut.2 <;> simp [text, cut]
  · cases h

end Way

/-- **Requests from base URLs that differ in a userinfo are shown alike**, if one of them is shown as a
    URL. -/
theorem redacted_eq_of_resolve {base base' path : Chars} {pairs : Form.Pairs} {u u' : Uri}
    (hbase : SameButUserinfo base base') (hu : resolve base path pairs = .ok u)
    (hu' : resolve base' path pairs = .ok u') (hurl : Url.parse? u.text ≠ none) :
    u.redacted = u'.redacted := by
  have htexts := hbase.targetText path pairs
  have hparse := resolve_ok hu
  have hparse' := resolve_ok hu'
  generalize targetText base path pairs = text at htexts hparse
  generalize targetText base' path pairs = text' at htexts hparse'
  cases htexts with
  | intro hscheme huser huser' hc =>
    obtain ⟨kept, hkept⟩ := parse?_text hscheme hc _
    have hsame : SameButUserinfo u.text u'.text := by
      rw [hkept _ u huser hparse, hkept _ u' huser' hparse']
      exact .intro hscheme huser huser' hc
    obtain ⟨bare, userinfo, userinfo', hread, hread'⟩ := hsame.parse?
    cases bare with
    | none => exact absurd hread hurl
    | some url => simp [redacted, redact, hread, hread']

end Uri

end Replicast
