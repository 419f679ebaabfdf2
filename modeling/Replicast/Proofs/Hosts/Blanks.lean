import Replicast.Proofs.Form
import Replicast.Url.Parser
/-!
# Hosts and blanks

Controls and the blank are dropped at the ends of a text, but nothing drops them within a host.
They cross the decoding of bytes, the mapping and the normal form of a name, and its labels as they
are; and in the end they are forbidden.

## Overview

* `Composition.mem_normalize` says that the normal form keeps them, which rests on the table of
  characters that are put together.
* `Punycode.mem_decode?` says that they are no digits of a label in Punycode.
* `Idna.toAscii?_blank` and `Host.parse?_blank` are the results: a text that holds one is no name,
  and a text that ends in one is no host.
-/

namespace Replicast

/-! ## §1 Lists -/

namespace Chars

/-- What holds for each element of a list is found among the results of all. -/
theorem exists_of_mapM {α β : Type} {f : α → Option β} {xs : List α} {ys : List β}
    (h : xs.mapM f = some ys) {x : α} (hx : x ∈ xs) : ∃ y ∈ ys, f x = some y := by
  induction xs generalizing ys with
  | nil => cases hx
  | cons first rest ih =>
    rw [List.mapM_cons] at h
    obtain ⟨y, hy, h⟩ := Option.bind_eq_some_iff.mp h
    obtain ⟨others, hothers, h⟩ := Option.bind_eq_some_iff.mp h
    obtain rfl := Option.some.inj h
    rcases List.mem_cons.mp hx with rfl | hx
    · exact ⟨y, List.mem_cons_self, hy⟩
    · obtain ⟨z, hz, hfz⟩ := ih hothers hx
      exact ⟨z, List.mem_cons_of_mem y hz, hfz⟩

/-- A character outside the class is in one of the pieces. -/
theorem exists_mem_pieces {p : Char → Bool} {text : Chars} {c : Char} (hc : p c = false)
    (h : c ∈ text) : ∃ piece ∈ pieces p text, c ∈ piece := by
  induction text with
  | nil => cases h
  | cons d rest ih =>
    unfold pieces
    by_cases hd : p d = true
    · rw [if_pos hd]
      have hrest : c ∈ rest := by
        refine (List.mem_cons.mp h).resolve_left ?_
        rintro rfl
        rw [hc] at hd
        cases hd
      obtain ⟨piece, hpiece, hmem⟩ := ih hrest
      exact ⟨piece, List.mem_cons_of_mem _ hpiece, hmem⟩
    · rw [if_neg hd]
      cases hpieces : pieces p rest with
      | nil => exact absurd hpieces (pieces_ne_nil p rest)
      | cons first others =>
        rcases List.mem_cons.mp h with rfl | hrest
        · exact ⟨c :: first, List.mem_cons_self, List.mem_cons_self⟩
        · obtain ⟨piece, hpiece, hmem⟩ := ih hrest
          rw [hpieces] at hpiece
          rcases List.mem_cons.mp hpiece with rfl | hpiece
          · exact ⟨d :: piece, List.mem_cons_self, List.mem_cons_of_mem d hmem⟩
          · exact ⟨piece, List.mem_cons_of_mem _ hpiece, hmem⟩

/-- What is in one of the pieces is in all of them together. -/
theorem mem_join_of_mem {between : Chars} {pieces : List Chars} {piece : Chars} {c : Char}
    (hpiece : piece ∈ pieces) (hc : c ∈ piece) : c ∈ join between pieces := by
  induction pieces with
  | nil => cases hpiece
  | cons first rest ih =>
    cases rest with
    | nil =>
      obtain rfl := List.mem_singleton.mp hpiece
      exact hc
    | cons second others =>
      show c ∈ first ++ between ++ join between (second :: others)
      rcases List.mem_cons.mp hpiece with rfl | hpiece
      · exact List.mem_append_left _ (List.mem_append_left _ hc)
      · exact List.mem_append_right _ (ih hpiece)

/-- Nothing but the character at the cut is lost. -/
theorem mem_cut {p : Char → Bool} {text : Chars} {c : Char} (hc : p c = false) (h : c ∈ text) :
    c ∈ (cut p text).1 ∨ c ∈ (cut p text).2.getD [] := by
  induction text with
  | nil => cases h
  | cons d rest ih =>
    unfold cut
    by_cases hd : p d = true
    · rw [if_pos hd]
      right
      refine (List.mem_cons.mp h).resolve_left ?_
      rintro rfl
      rw [hc] at hd
      cases hd
    · rw [if_neg hd]
      rcases List.mem_cons.mp h with rfl | h
      · exact .inl List.mem_cons_self
      · exact (ih h).imp_left (List.mem_cons_of_mem d)

theorem mem_cutLast {p : Char → Bool} {text : Chars} {c : Char} (hc : p c = false) (h : c ∈ text) :
    c ∈ (cutLast p text).2 ∨ c ∈ (cutLast p text).1.getD [] := by
  unfold cutLast
  dsimp only
  rcases mem_cut hc (List.mem_reverse.mpr h) with hafter | hbefore
  · exact .inl (List.mem_reverse.mpr hafter)
  · right
    cases hcut : (cut p text.reverse).2 with
    | none =>
      rw [hcut] at hbefore
      cases hbefore
    | some before =>
      rw [hcut] at hbefore
      exact List.mem_reverse.mpr hbefore

end Chars

/-! ## §2 Bytes -/

namespace Utf8

/-- An unfinished sequence waits for a byte beyond ASCII. -/
def Waits (u : Option Unfinished) : Prop :=
  ∀ v ∈ u, 0x80 ≤ v.least

theorem lead_waits (byte : UInt8) : Waits (lead byte).2 := by
  intro v hv
  unfold lead at hv
  -- A byte leads to a fixed sequence or to none.
  repeat' split at hv
  all_goals cases hv <;> simp

theorem step_waits {u : Option Unfinished} (byte : UInt8) : Waits (step u byte).2 := by
  cases u with
  | none => exact lead_waits byte
  | some v =>
    simp only [step]
    split
    · split <;> intro w hw <;> cases hw
      simp
    · exact lead_waits byte

/-- A byte of ASCII is read as its character, or the bytes before it are malformed. -/
theorem mem_scanFrom {byte : UInt8} (hascii : byte < 0x80) {u : Option Unfinished} (hu : Waits u)
    {bytes : Bytes} (h : byte ∈ bytes) (hwell : none ∉ scanFrom u bytes) :
    some (Char.ofNat byte.toNat) ∈ scanFrom u bytes := by
  induction bytes generalizing u with
  | nil => cases h
  | cons first rest ih =>
    rw [scanFrom_cons] at hwell ⊢
    rcases List.mem_cons.mp h with rfl | h
    · have hlead : lead byte = ([some (Char.ofNat byte.toNat)], none) := by
        rw [lead, if_pos hascii]
      cases u with
      | none =>
        rw [show step none byte = lead byte from rfl, hlead]
        exact List.mem_append_left _ List.mem_cons_self
      | some v =>
        have hleast : ¬ (v.least ≤ byte) := by
          have hv := hu v rfl
          rw [UInt8.le_iff_toNat_le] at hv ⊢
          rw [UInt8.lt_iff_toNat_lt] at hascii
          omega
        refine absurd (List.mem_append_left _ ?_) hwell
        simp [step, hleast]
    · refine List.mem_append_right _ (ih (step_waits first) h fun hnone => ?_)
      exact hwell (List.mem_append_right _ hnone)

theorem decode?_eq_some {bytes : Bytes} {text : Chars} (h : decode? bytes = some text) :
    scan bytes = text.map some := by
  unfold decode? at h
  generalize scan bytes = pieces at h
  induction pieces generalizing text with
  | nil =>
    obtain rfl := Option.some.inj h
    rfl
  | cons piece rest ih =>
    rw [List.mapM_cons] at h
    obtain ⟨c, hpiece, h⟩ := Option.bind_eq_some_iff.mp h
    obtain ⟨others, hothers, h⟩ := Option.bind_eq_some_iff.mp h
    obtain rfl := Option.some.inj h
    rw [ih hothers, show piece = some c from hpiece]
    rfl

end Utf8

/-- Decoding keeps a byte that is no part of an encoded one. -/
theorem Percent.mem_decode {byte : UInt8} (hplain : byte ≠ 0x25) (hdigit : digitValue? byte = none)
    {bytes : Bytes} (h : byte ∈ bytes) : byte ∈ decode bytes := by
  fun_induction decode bytes with
  | case1 => cases h
  | case2 first hfirst high low others h' l' hhigh hlow ih =>
    have hne {other : UInt8} {n : Nat} (hother : digitValue? other = some n) : byte ≠ other := by
      rintro rfl
      rw [hdigit] at hother
      cases hother
    have hbyte : byte ≠ first := fun heq => hplain (heq.trans (beq_iff_eq.mp hfirst))
    simp only [List.mem_cons, hbyte, hne hhigh, hne hlow, false_or] at h
    exact List.mem_cons_of_mem _ (ih h)
  | case3 first hfirst high low others hnone ih =>
    have hbyte : byte ≠ first := fun heq => hplain (heq.trans (beq_iff_eq.mp hfirst))
    exact List.mem_cons_of_mem _ (ih ((List.mem_cons.mp h).resolve_left hbyte))
  | case4 first hfirst others hshort ih =>
    have hbyte : byte ≠ first := fun heq => hplain (heq.trans (beq_iff_eq.mp hfirst))
    exact List.mem_cons_of_mem _ (ih ((List.mem_cons.mp h).resolve_left hbyte))
  | case5 first rest hfirst ih =>
    rcases List.mem_cons.mp h with rfl | h
    · exact List.mem_cons_self
    · exact List.mem_cons_of_mem _ (ih h)

/-! ## §3 Blanks -/

/-- A control or the blank. -/
abbrev IsBlank (c : Char) : Prop := Url.isEdge c = true

namespace IsBlank

variable {c : Char} (hc : IsBlank c)
include hc

theorem toNat_le : c.toNat ≤ 0x20 := of_decide_eq_true hc

theorem toLower_eq : c.toLower = c := by
  have hle := hc.toNat_le
  refine dif_neg fun hupper => ?_
  have hlow : 'A'.toNat ≤ c.toNat := hupper.1
  have hletter : 'A'.toNat = 65 := rfl
  omega

/-- Blanks are none of the characters that are given. -/
theorem ne {d : Char} (hd : Url.isEdge d = false) : c ≠ d := by
  rintro rfl
  rw [hc] at hd
  cases hd

end IsBlank

/-! ## §4 The normal form of a name -/

/-- The words of a table are checked line by line. -/
theorem Ranges.all_words_cons {p : List Char → Bool} {line : List Char} {rest : List String}
    (hline : ((line.splitOnP (· == ' ')).filter (!·.isEmpty)).all p = true)
    (hrest : (words rest).all p = true) : (words (String.ofList line :: rest)).all p = true := by
  unfold words at hrest ⊢
  rw [List.flatMap_cons, String.toList_ofList, List.all_append, hline, hrest]
  rfl

namespace Composition

/-- No character is put together of a blank. -/
theorem table_parts {e : Entry} (he : e ∈ table) {n : Nat} (hn : n ∈ e.parts) : 0x20 < n := by
  have hall : (table.all fun e => e.parts.all (0x20 < ·)) = true := by
    unfold table
    rw [List.all_map]
    repeat' refine Ranges.all_words_cons (by decide +kernel) ?_
    rfl
  exact of_decide_eq_true (List.all_eq_true.mp (List.all_eq_true.mp hall e he) n hn)

theorem syllable?_blank {a b : Nat} (h : a ≤ 0x20 ∨ b ≤ 0x20) : syllable? a b = none := by
  unfold syllable? syllableBase
  rw [if_neg, if_neg]
  · simp only [Bool.and_eq_true, decide_eq_true_eq]
    omega
  · simp only [Bool.and_eq_true, decide_eq_true_eq]
    omega

variable {c : Char} (hc : IsBlank c)
include hc

/-- A blank is put together with nothing. -/
theorem pair?_blank {a b : Char} (h : c = a ∨ c = b) : pair? a b = none := by
  have hle := hc.toNat_le
  have hsyllable : syllable? a.toNat b.toNat = none := by
    apply syllable?_blank
    rcases h with rfl | rfl
    · exact .inl hle
    · exact .inr hle
  have htable : (table.find? fun e => !e.oneWay && e.parts == [a.toNat, b.toNat]) = none := by
    apply List.find?_eq_none.mpr
    intro e he hfound
    have hparts : e.parts = [a.toNat, b.toNat] := beq_iff_eq.mp ((Bool.and_eq_true _ _).mp hfound).2
    have hmem : c.toNat ∈ e.parts := by
      rw [hparts]
      rcases h with rfl | rfl
      · exact List.mem_cons_self
      · exact List.mem_cons_of_mem _ List.mem_cons_self
    exact absurd (table_parts he hmem) (Nat.not_lt.mpr hle)
  unfold pair?
  rw [hsyllable, htable]
  rfl

/-- So it is still there when everything is put together. -/
theorem mem_composeFrom {starter : Option Char} {marks : List Char} {last : Nat} {rest : List Char}
    (h : c ∈ starter.toList ++ marks ++ rest) : c ∈ composeFrom starter marks last rest := by
  fun_induction composeFrom starter marks last rest with
  | case1 starter marks last => simpa using h
  | case2 marks last d rest hzero ih =>
    simp only [Option.toList_none, List.nil_append, List.mem_append, List.mem_cons] at h
    rcases h with h | rfl | h
    · exact List.mem_append_left _ h
    · exact List.mem_append_right _ (ih (by simp))
    · exact List.mem_append_right _ (ih (by simp [h]))
  | case3 marks last d rest hzero ih => exact ih (by simpa using h)
  | case4 s marks last d rest k composed hpair ih =>
    -- Neither of the two is the blank.
    have hne : c ≠ s ∧ c ≠ d := by
      split at hpair
      · constructor
        · intro heq
          rw [pair?_blank hc (.inl heq)] at hpair
          cases hpair
        · intro heq
          rw [pair?_blank hc (.inr heq)] at hpair
          cases hpair
      · cases hpair
    simp only [Option.toList_some, List.mem_append, List.mem_cons, List.not_mem_nil, or_false, hne,
      false_or] at h
    rcases h with h | h
    · exact ih (by simp [h])
    · exact ih (by simp [h])
  | case5 s marks last d rest k hpair hzero ih =>
    simp only [Option.toList_some, List.mem_append, List.mem_cons, List.not_mem_nil, or_false] at h
    rcases h with (rfl | h) | rfl | h
    · exact List.mem_cons_self
    · exact List.mem_cons_of_mem _ (List.mem_append_left _ h)
    · exact List.mem_cons_of_mem _ (List.mem_append_right _ (ih (by simp)))
    · exact List.mem_cons_of_mem _ (List.mem_append_right _ (ih (by simp [h])))
  | case6 s marks last d rest k hpair hzero ih => exact ih (by simpa using h)

omit hc in
theorem mem_insertMark {d : Char} {run : List Char} :
    c ∈ insertMark d run ↔ c = d ∨ c ∈ run := by
  induction run with
  | nil => simp [insertMark]
  | cons first rest ih =>
    unfold insertMark
    split
    · simp
    · simp only [List.mem_cons, ih]
      tauto

omit hc in
/-- Sorting marks loses none. -/
theorem mem_reorderFrom {run text : List Char} (h : c ∈ run ++ text) :
    c ∈ reorderFrom run text := by
  induction text generalizing run with
  | nil => simpa [reorderFrom] using h
  | cons d rest ih =>
    unfold reorderFrom
    rcases List.mem_append.mp h with h | h
    · split
      · exact List.mem_append_left _ h
      · exact ih (List.mem_append_left _ (mem_insertMark.mpr (.inr h)))
    · split
      · rcases List.mem_cons.mp h with rfl | h
        · exact List.mem_append_right _ List.mem_cons_self
        · exact List.mem_append_right _ (List.mem_cons_of_mem _ (ih h))
      · rcases List.mem_cons.mp h with rfl | h
        · exact ih (List.mem_append_left _ (mem_insertMark.mpr (.inl rfl)))
        · exact ih (List.mem_append_right _ h)

/-- **The normal form keeps blanks.** -/
theorem mem_normalize {text : List Char} (h : c ∈ text) : c ∈ normalize text := by
  unfold normalize
  split
  · exact h
  · have hdecomposed : c ∈ decompose text := by
      refine List.mem_flatMap.mpr ⟨c, h, ?_⟩
      rw [if_pos (Nat.lt_of_le_of_lt hc.toNat_le (by decide))]
      exact List.mem_singleton.mpr rfl
    exact mem_composeFrom hc (mem_reorderFrom hdecomposed)

end Composition

/-! ## §5 Labels -/

namespace Punycode

variable {c : Char}

/-- What is read as a distance is digits. -/
theorem mem_readNumber? {bias position weight i j : Nat} {text rest : Chars}
    (h : readNumber? bias text position weight i = some (j, rest)) (hc : c ∈ text)
    (hdigit : digitValue? c = none) : c ∈ rest := by
  induction text generalizing position weight i with
  | nil => cases hc
  | cons d tail ih =>
    obtain ⟨value, hvalue, h⟩ := Option.bind_eq_some_iff.mp h
    have hne : c ≠ d := by
      rintro rfl
      rw [hdigit] at hvalue
      cases hvalue
    have htail : c ∈ tail := (List.mem_cons.mp hc).resolve_left hne
    dsimp only at h
    split at h
    · obtain ⟨-, rfl⟩ := Prod.mk.inj (Option.some.inj h)
      exact htail
    · exact ih h htail

/-- All characters behind the last hyphen are digits, and those in front of it stay. -/
theorem mem_insertAll? {fuel n i bias : Nat} {text label out : Chars}
    (h : insertAll? fuel text n i bias label = some out) (hdigit : digitValue? c = none)
    (hc : c ∈ text ∨ c ∈ label) : c ∈ out := by
  induction fuel generalizing text n i bias label with
  | zero => cases h
  | succ fuel ih =>
    cases text with
    | nil =>
      obtain rfl := Option.some.inj h
      exact hc.resolve_left List.not_mem_nil
    | cons d tail =>
      obtain ⟨⟨j, rest⟩, hnumber, h⟩ := Option.bind_eq_some_iff.mp h
      dsimp only at h
      split at h
      · cases h
      refine ih h ?_
      rcases hc with hc | hc
      · exact .inl (mem_readNumber? hnumber hc hdigit)
      · right
        rw [← List.take_append_drop (j % (label.length + 1)) label] at hc
        rcases List.mem_append.mp hc with hc | hc
        · exact List.mem_append_left _ hc
        · exact List.mem_append_right _ (List.mem_cons_of_mem _ hc)

theorem digitValue?_blank (hc : IsBlank c) : digitValue? c = none := by
  have hall : ∀ n ≤ 0x20, digitValue? (Char.ofNat n) = none := by decide
  have hdigit := hall c.toNat hc.toNat_le
  rwa [Char.ofNat_toNat] at hdigit

/-- A label that is read holds the blanks of its code. -/
theorem mem_decode? (hc : IsBlank c) {code text : Chars} (h : decode? code = some text)
    (hmem : c ∈ code) : c ∈ text := by
  unfold decode? at h
  split at h
  · cases h
  -- What is not behind the last hyphen is in front of it.
  exact mem_insertAll? h (digitValue?_blank hc)
    (Chars.mem_cutLast (beq_eq_false_iff_ne.mpr (hc.ne rfl)) hmem)

/-- A label in Punycode begins with its characters in ASCII. -/
theorem mem_encode (hc : IsBlank c) {label : Chars} (hmem : c ∈ label) : c ∈ encode label := by
  have hbasic : c ∈ label.filter (·.toNat < 0x80) := by
    refine List.mem_filter.mpr ⟨hmem, decide_eq_true ?_⟩
    exact Nat.lt_of_le_of_lt hc.toNat_le (by decide)
  exact List.mem_append_left _ (List.mem_append_left _ hbasic)

end Punycode

namespace Idna

variable {c : Char} (hc : IsBlank c)
include hc

/-- A label that is read keeps its blanks. -/
theorem mem_readLabel? {label text : Chars} (h : readLabel? label = some text) (hmem : c ∈ label) :
    c ∈ text := by
  unfold readLabel? at h
  cases hcode : Chars.dropLead? mark label with
  | none =>
    rw [hcode] at h
    dsimp only at h
    split at h
    · split at h
      · obtain rfl := Option.some.inj h
        exact hmem
      · cases h
    · obtain rfl := Option.some.inj h
      exact hmem
  | some code =>
    rw [hcode] at h
    obtain ⟨decoded, hdecoded, h⟩ := Option.bind_eq_some_iff.mp h
    split at h
    · obtain rfl := Option.some.inj h
      -- The mark holds no blank, and the code is read to its end.
      have hfree : c ∉ mark := by
        intro hmark
        have hall : ∀ d ∈ mark, (!Url.isEdge d) = true := List.all_eq_true.mp rfl
        exact hc.ne ((Bool.not_eq_true' _).mp (hall c hmark)) rfl
      rw [Chars.dropLead?_eq_some.mp hcode] at hmem
      have hmem : c ∈ code := (List.mem_append.mp hmem).resolve_left hfree
      exact Punycode.mem_decode? hc hdecoded hmem
    · cases h

/-- A label that is written keeps its blanks. -/
theorem mem_writeLabel {label : Chars} (hmem : c ∈ label) : c ∈ writeLabel label := by
  unfold writeLabel
  split
  · exact List.mem_append_right _ (Punycode.mem_encode hc hmem)
  · exact hmem

/-- **A text that holds a blank is no name.** -/
theorem toAscii?_blank {name : Chars} (hmem : c ∈ name) : toAscii? name = none := by
  have hle := hc.toNat_le
  have hforbidden : isForbidden c = true := by simp [isForbidden, hle]
  suffices hkept : ∀ ascii, (if name.any isWide ||
      (Chars.pieces (· == '.') (Chars.lower name)).any isEncoded then do
        let mapped ← Mapping.mapped? name
        let labels ← (Chars.pieces (· == '.') (Composition.normalize mapped)).mapM readLabel?
        if mixesDirections labels.flatten && !labels.all directionsFit then none
        else some (Chars.join ['.'] (labels.map writeLabel))
      else some (Chars.lower name)) = some ascii → c ∈ ascii by
    apply Option.eq_none_iff_forall_ne_some.mpr
    intro ascii hascii
    obtain ⟨hresult, hallowed⟩ := Option.filter_eq_some_iff.mp hascii
    have hany : ascii.any isForbidden = true :=
      List.any_eq_true.mpr ⟨c, hkept ascii hresult, hforbidden⟩
    rw [hany] at hallowed
    cases hallowed
  intro ascii h
  split at h
  · -- Mapping, normal form, reading and writing keep the blank.
    obtain ⟨mapped, hmapped, h⟩ := Option.bind_eq_some_iff.mp h
    obtain ⟨labels, hlabels, h⟩ := Option.bind_eq_some_iff.mp h
    split at h
    · cases h
    obtain rfl := Option.some.inj h
    obtain ⟨images, himages, rfl⟩ := Option.map_eq_some_iff.mp hmapped
    obtain ⟨image, himage, heq⟩ := Chars.exists_of_mapM himages hmem
    have hself : Mapping.image? c = some [c] := by
      rw [Mapping.image?, if_pos (Nat.lt_of_le_of_lt hle (by decide)), hc.toLower_eq]
    obtain rfl := Option.some.inj (hself.symm.trans heq)
    have hflat : c ∈ images.flatten :=
      List.mem_flatten.mpr ⟨[c], himage, List.mem_singleton.mpr rfl⟩
    obtain ⟨piece, hpiece, hin⟩ := Chars.exists_mem_pieces (p := (· == '.'))
      (beq_eq_false_iff_ne.mpr (hc.ne rfl)) (Composition.mem_normalize hc hflat)
    obtain ⟨label, hlabel, hread⟩ := Chars.exists_of_mapM hlabels hpiece
    exact Chars.mem_join_of_mem (List.mem_map_of_mem hlabel)
      (mem_writeLabel hc (mem_readLabel? hc hread hin))
  · obtain rfl := Option.some.inj h
    exact List.mem_map.mpr ⟨c, hmem, hc.toLower_eq⟩

end Idna

/-! ## §6 Hosts -/

namespace Host

variable {c : Char} (hc : IsBlank c)
include hc

/-- A blank is one byte, which stands for itself. -/
theorem decode?_blank {text decoded : Chars} (hmem : c ∈ text)
    (h : Utf8.decode? (Percent.decode (Utf8.encode text)) = some decoded) : c ∈ decoded := by
  have hall : ∀ n ≤ 0x20, String.utf8EncodeChar (Char.ofNat n) = [UInt8.ofNat n] ∧
      UInt8.ofNat n ≠ 0x25 ∧ Percent.digitValue? (UInt8.ofNat n) = none ∧
      UInt8.ofNat n < 0x80 ∧ (UInt8.ofNat n).toNat = n := by decide
  obtain ⟨hchar, hplain, hdigit, hascii, hvalue⟩ := hall c.toNat hc.toNat_le
  rw [Char.ofNat_toNat] at hchar
  have hbyte : UInt8.ofNat c.toNat ∈ Utf8.encode text :=
    List.mem_flatMap.mpr ⟨c, hmem, hchar ▸ List.mem_singleton.mpr rfl⟩
  have hscan := Utf8.decode?_eq_some h
  have hread := Utf8.mem_scanFrom hascii (u := none) (fun v hv => nomatch hv)
    (Percent.mem_decode hplain hdigit hbyte) (by
      rw [show Utf8.scanFrom none _ = decoded.map some from hscan]
      simp)
  rw [show Utf8.scanFrom none _ = decoded.map some from hscan, hvalue, Char.ofNat_toNat] at hread
  obtain ⟨d, hd, heq⟩ := List.mem_map.mp hread
  obtain rfl := Option.some.inj heq
  exact hd

/-- **A text that ends in a blank is no host.** -/
theorem parse?_blank {text : Chars} (hlast : text.getLast? = some c) : parse? text = none := by
  have hmem : c ∈ text := List.mem_of_getLast? hlast
  unfold parse?
  cases hbracketed : bracketed? text with
  | some result =>
    -- An address ends in its bracket.
    unfold bracketed? at hbracketed
    split at hbracketed
    · rename_i rest
      obtain rfl := Option.some.inj hbracketed
      rw [if_neg]
      intro hclosed
      cases rest with
      | nil => cases hclosed
      | cons d tail =>
        rw [List.getLast?_cons_cons] at hlast
        rw [hlast] at hclosed
        exact hc.ne rfl (Option.some.inj (beq_iff_eq.mp hclosed))
    · cases hbracketed
  | none =>
    dsimp only
    apply Option.eq_none_iff_forall_ne_some.mpr
    intro host h
    obtain ⟨decoded, hdecoded, h⟩ := Option.bind_eq_some_iff.mp h
    obtain ⟨name, hname, -⟩ := Option.bind_eq_some_iff.mp h
    rw [Idna.toAscii?_blank hc (decode?_blank hc hmem hdecoded)] at hname
    cases hname

end Host

end Replicast
