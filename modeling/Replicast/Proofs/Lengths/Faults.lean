import Replicast.Json.Reader
import Replicast.Proofs.Lengths.Decimal
/-!
# The faults of the JSON reader

Wherever the reader stops, it stands within the text, and what it objects to takes few words.  Only
when it finds a text in place of something else does it quote what it read.

## Overview

* `Fault.quoted?` is the text that a fault quotes, and `Fault.Modest` says that a fault takes few
  words apart from it.
* `Within` is the invariant of a cursor: the lines and columns that are behind it and the bytes that
  are ahead of it are no more than the text had.
* `Reader.Sound` is the postcondition of a reader, with one lemma for each reader.
* `decode_modest` is the result.
-/

namespace Replicast.Json

/-! ## §1 Words -/

/-- The length of a phrase that is put together from its parts.  The parts are variables here: with
    literals in their place, rewriting would try to take the literals apart. -/
theorem length_phrase (a b c : String) : (a ++ b ++ c).length = a.length + b.length + c.length := by
  simp only [String.length_append]

theorem length_phrase_append (a b c d : String) :
    (a ++ b ++ c ++ d).length = a.length + b.length + c.length + d.length := by
  simp only [String.length_append]

/-- The text that is quoted as what was found. -/
def Found.quoted? : Found → Option String
  | string value => some value
  | _ => none

/-- The text that a fault quotes. -/
def Fault.quoted? : Fault → Option String
  | invalidType found _ | invalidValue found _ => found.quoted?
  | _ => none

/-- How much longer a quotation makes an error. -/
def quotedLength : Option String → Nat
  | none => 0
  | some s => (Quoted.text s).length

/-- The most characters of the words of a fault, apart from a text that is quoted. -/
def maxWords : Nat := 96

/-- A fault takes few words apart from a text that it quotes, and quotes a text only if it may. -/
structure Fault.Modest (quotes : Prop) (f : Fault) : Prop where
  words : f.words.length ≤ maxWords + quotedLength f.quoted?
  quoted : f.quoted?.isSome = true → quotes

variable {quotes : Prop} {f : Fault} {found : Found} {expected : String} {n : Number}

/-- A fault that says nothing about what was found. -/
def Fault.isFixed : Fault → Bool
  | invalidType _ _ | invalidValue _ _ => false
  | _ => true

theorem Fault.Modest.fixed (h : f.isFixed = true) : f.Modest quotes := by
  cases f with
  | invalidType _ _ | invalidValue _ _ => cases h
  | _ => exact ⟨Nat.le_trans (Nat.le_of_eq String.length_ofList) (by decide), fun h => by cases h⟩

/-- The most characters of the words for what was found, apart from a text that is quoted. -/
def maxFound : Nat := 48

/-- The words for what was expected have ten characters at most. -/
theorem Found.modest (hfound : found.words.length ≤ maxFound + quotedLength found.quoted?)
    (hquoted : found.quoted?.isSome = true → quotes) (hexpected : expected.length ≤ 10) :
    (Fault.invalidType found expected).Modest quotes ∧
      (Fault.invalidValue found expected).Modest quotes := by
  have htype : "invalid type: ".length = 14 := String.length_ofList
  have hvalue : "invalid value: ".length = 15 := String.length_ofList
  have hcomma : ", expected ".length = 11 := String.length_ofList
  have hlength (first : String) := length_phrase_append first found.words ", expected " expected
  rw [maxFound] at hfound
  refine ⟨⟨?_, hquoted⟩, ⟨?_, hquoted⟩⟩
  · have hwords := hlength "invalid type: "
    change ("invalid type: " ++ found.words ++ ", expected " ++ expected).length ≤
      96 + quotedLength found.quoted?
    omega
  · have hwords := hlength "invalid value: "
    change ("invalid value: " ++ found.words ++ ", expected " ++ expected).length ≤
      96 + quotedLength found.quoted?
    omega

/-- Whole numbers have sixty-four bits. -/
def Found.Fits : Found → Prop
  | int value => value.natAbs ≤ Reader.maxUnsigned
  | _ => True

def Number.Fits (n : Number) : Prop := (Reader.foundNumber n).Fits

theorem toString_int_length_le {value : Int} (h : value.natAbs ≤ Reader.maxUnsigned) :
    (toString value).length ≤ 21 := by
  have hlt : value.natAbs < 10 ^ 20 := Nat.lt_of_le_of_lt h (by decide)
  have hminus : "-".length = 1 := String.length_ofList
  change value.repr.length ≤ 21
  rw [Int.repr_eq_if]
  split
  · exact Nat.le_succ_of_le ((Nat.length_repr_le_iff (by decide)).mpr (by omega))
  · have hdigits : ((-value).toNat.repr).length ≤ 20 :=
      (Nat.length_repr_le_iff (by decide)).mpr (by omega)
    rw [String.length_append]
    omega

/-- Whatever is found takes few words unless it is a text. -/
theorem Found.length_words_le (hquiet : found.quoted? = none) (hfits : found.Fits) :
    found.words.length ≤ maxFound := by
  have hend : "\x60".length = 1 := String.length_ofList
  cases found with
  | string value => cases hquiet
  | null | sequence | map => exact Nat.le_trans (Nat.le_of_eq String.length_ofList) (by decide)
  | bool value =>
    have hword : "boolean \x60".length = 9 := String.length_ofList
    have hvalue : (toString value).length ≤ 5 := by
      cases value <;> exact Nat.le_trans (Nat.le_of_eq String.length_ofList) (by decide)
    have hwords := length_phrase "boolean \x60" (toString value) "\x60"
    change ("boolean \x60" ++ toString value ++ "\x60").length ≤ 48
    omega
  | int value =>
    have hword : "integer \x60".length = 9 := String.length_ofList
    have hvalue := toString_int_length_le hfits
    have hwords := length_phrase "integer \x60" (toString value) "\x60"
    change ("integer \x60" ++ toString value ++ "\x60").length ≤ 48
    omega
  | float value =>
    have hword : "floating point \x60".length = 16 := String.length_ofList
    have hvalue : (String.ofList (Shortest.text value)).length ≤ 31 :=
      String.length_ofList ▸ Shortest.text_length_le value
    have hwords :=
      length_phrase "floating point \x60" (String.ofList (Shortest.text value)) "\x60"
    change ("floating point \x60" ++ String.ofList (Shortest.text value) ++ "\x60").length ≤ 48
    omega

/-- A shape that is not a text is reported modestly. -/
theorem Fault.Modest.ofQuiet (hquiet : found.quoted? = none) (hfits : found.Fits)
    (hexpected : expected.length ≤ 10) :
    (Fault.invalidType found expected).Modest quotes ∧
      (Fault.invalidValue found expected).Modest quotes :=
  Found.modest (Nat.le_trans (found.length_words_le hquiet hfits) (Nat.le_add_right _ _))
    (fun h => by rw [hquiet] at h; cases h) hexpected

/-- A text is reported with a quotation. -/
theorem Fault.Modest.ofText (value : String) (hexpected : expected.length ≤ 10) (h : quotes) :
    (Fault.invalidType (.string value) expected).Modest quotes := by
  have hword : "string ".length = 7 := String.length_ofList
  have hlength : (Found.string value).words.length =
      "string ".length + (Quoted.text value).length := String.length_append _ _
  have hwords : (Found.string value).words.length ≤
      maxFound + quotedLength (Found.string value).quoted? := by
    rewrite [hlength, hword, maxFound, Found.quoted?, quotedLength]
    omega
  exact (Found.modest hwords (fun _ => h) hexpected).1

/-! ## §2 Places -/

/-- How far into a text a place can be: each line and each column takes a byte. -/
def Position.reach (p : Position) : Nat := p.line + p.column

theorem Position.reach_past (p : Position) (byte : UInt8) :
    (p.past byte).reach ≤ p.reach + 1 := by
  unfold past reach
  split <;> simp only <;> omega

theorem Position.reach_foldl_past (bytes : Bytes) (p : Position) :
    (bytes.foldl past p).reach ≤ p.reach + bytes.length := by
  induction bytes generalizing p with
  | nil => exact Nat.le_refl _
  | cons byte rest ih =>
    have hfirst := p.reach_past byte
    have hothers := ih (p.past byte)
    rw [List.foldl_cons, List.length_cons]
    omega

/-- What is behind a cursor and what is ahead of it are no more than a limit. -/
def Within (limit : Nat) (c : Cursor) : Prop := c.position.reach + c.rest.length ≤ limit

/-- An error at a place in the text, with a modest fault. -/
structure ReadError.Modest (limit : Nat) (quotes : Prop) (e : ReadError) : Prop where
  place : e.position.reach ≤ limit
  fault : e.fault.Modest quotes

variable {limit : Nat} {c : Cursor} {byte : UInt8} {rest : Bytes} {p : Position}

theorem Within.here (h : Within limit c) : c.position.reach ≤ limit :=
  Nat.le_trans (Nat.le_add_right _ _) h

theorem Within.past (h : Within limit ⟨byte :: rest, p⟩) : Within limit ⟨rest, p.past byte⟩ := by
  have hpast := p.reach_past byte
  simp only [Within, List.length_cons] at h ⊢
  omega

namespace Reader

theorem within_dropWhile (pass : UInt8 → Bool) (rest : Bytes) (p : Position)
    (h : Within limit ⟨rest, p⟩) : Within limit (dropWhile pass rest p) := by
  induction rest generalizing p with
  | nil => exact h
  | cons byte rest ih =>
    rw [dropWhile]
    split
    · exact ih _ h.past
    · exact h

theorem within_passDigits (count : Nat) (rest : Bytes) (p : Position)
    (h : Within limit ⟨rest, p⟩) : Within limit (passDigits count rest p).2 := by
  induction rest generalizing count p with
  | nil => exact h
  | cons byte rest ih =>
    rw [passDigits]
    split
    · exact ih _ _ h.past
    · exact h

/-- Absorbing digits keeps the number within its bound. -/
theorem within_absorb {bound : Nat} (count : Nat) (rest : Bytes) {n : Nat} (p : Position)
    (hn : n ≤ bound) (h : Within limit ⟨rest, p⟩) :
    (absorb bound n count rest p).1.1 ≤ bound ∧ Within limit (absorb bound n count rest p).2 := by
  induction rest generalizing count n p with
  | nil => exact ⟨hn, h⟩
  | cons byte rest ih =>
    simp only [absorb]
    split
    · rename_i hdigit
      rw [Bool.and_eq_true, decide_eq_true_eq] at hdigit
      exact ih _ _ hdigit.2 h.past
    · exact ⟨hn, h⟩

/-! ## §3 Readers -/

variable {α β : Type} {r : Reader α} {good : α → Prop} {better : β → Prop}

/-- What a reader may come to: a good value with the cursor within the limit, or a modest error. -/
def Yields (limit : Nat) (quotes : Prop) (good : α → Prop) :
    Except ReadError (α × Cursor) → Prop
  | .ok (a, after) => good a ∧ Within limit after
  | .error e => e.Modest limit quotes

/-- From a cursor, a reader comes to what it may. -/
def SoundFrom (limit : Nat) (quotes : Prop) (c : Cursor) (r : Reader α) (good : α → Prop) : Prop :=
  Yields limit quotes good (r c)

/-- From every cursor within the limit, a reader comes to what it may. -/
def Sound (limit : Nat) (quotes : Prop) (r : Reader α) (good : α → Prop) : Prop :=
  ∀ c, Within limit c → SoundFrom limit quotes c r good

theorem sound_pure {a : α} (h : good a) : Sound limit quotes (pure a : Reader α) good :=
  fun _ hc => ⟨h, hc⟩

theorem Sound.bind {next : α → Reader β} (hr : Sound limit quotes r good)
    (hnext : ∀ a, good a → Sound limit quotes (next a) better) :
    Sound limit quotes (r >>= next) better := by
  intro c hc
  have hfirst : Yields limit quotes good (r c) := hr c hc
  change Yields limit quotes better ((r c).bind fun x => next x.1 x.2)
  cases hresult : r c with
  | error e => rwa [hresult] at hfirst
  | ok x =>
    rw [hresult] at hfirst
    exact hnext x.1 hfirst.1 x.2 hfirst.2

theorem sound_failHere (h : f.Modest quotes) :
    Sound limit quotes (failHere f : Reader α) good :=
  fun _ hc => ⟨hc.here, h⟩

theorem sound_failAt (hplace : p.reach ≤ limit) (h : f.Modest quotes) :
    Sound limit quotes (failAt f p : Reader α) good :=
  fun _ _ => ⟨hplace, h⟩

theorem sound_failNext (h : f.Modest quotes) :
    Sound limit quotes (failNext f : Reader α) good := by
  rintro ⟨rest, p⟩ hc
  refine ⟨?_, h⟩
  cases rest with
  | nil => exact hc.here
  | cons byte rest => exact hc.past.here

theorem sound_get : Sound limit quotes (get : Reader Cursor) fun c => Within limit c :=
  fun _ hc => ⟨hc, hc⟩

theorem sound_peek : Sound limit quotes peek fun _ => True :=
  fun _ hc => ⟨trivial, hc⟩

theorem sound_next : Sound limit quotes next fun _ => True := by
  rintro ⟨rest, p⟩ hc
  cases rest with
  | nil => exact ⟨trivial, hc⟩
  | cons byte rest => exact ⟨trivial, hc.past⟩

theorem sound_skip : Sound limit quotes skip fun _ => True :=
  sound_next.bind fun _ _ => sound_pure trivial

/-- A byte that may be passed over. -/
theorem sound_skip_if {passed : Bool} {next : Unit → Reader β}
    (h : Sound limit quotes (next ()) better) :
    Sound limit quotes (if passed then skip >>= next else next ()) better := by
  split
  · exact sound_skip.bind fun _ _ => h
  · exact h

theorem sound_token : Sound limit quotes token fun _ => True :=
  fun _ hc => ⟨trivial, within_dropWhile _ _ _ hc⟩

/-- The reader looks at the byte ahead. -/
theorem soundFrom_peek_bind {next : Option UInt8 → Reader β}
    (h : SoundFrom limit quotes c (next c.rest.head?) better) :
    SoundFrom limit quotes c (peek >>= next) better :=
  h

/-- After blanks the reader looks at the byte ahead. -/
theorem sound_token_bind {next : Option UInt8 → Reader β}
    (h : ∀ c, Within limit c → SoundFrom limit quotes c (next c.rest.head?) better) :
    Sound limit quotes (token >>= next) better :=
  fun _ hc => h _ (within_dropWhile _ _ _ hc)

theorem sound_word (letters : List Char) : Sound limit quotes (word letters) fun _ => True := by
  induction letters with
  | nil => exact sound_pure trivial
  | cons letter letters ih =>
    refine sound_next.bind fun read _ => ?_
    split
    · exact sound_failHere (.fixed rfl)
    · split
      · exact ih
      · exact sound_failHere (.fixed rfl)

/-! ## §4 Numbers -/

theorem sound_significand {n : Nat} (h : n ≤ maxUnsigned) :
    Sound limit quotes (significand n) fun x => x.1 ≤ maxUnsigned :=
  fun _ hc => within_absorb 0 _ _ h hc

theorem sound_skipDigits : Sound limit quotes skipDigits fun _ => True :=
  fun _ hc => ⟨trivial, within_passDigits 0 _ _ hc⟩

theorem sound_finish (positive : Bool) (n : Nat) (e : Int) :
    Sound limit quotes (finish positive n e) Number.Fits := by
  unfold finish
  split
  · exact sound_failHere (.fixed rfl)
  · exact sound_pure trivial

/-- A byte is a small number. -/
theorem toNat_sub_le (byte : UInt8) {bound : Nat} (h : 255 ≤ bound) :
    byte.toNat - 0x30 ≤ bound := by
  have hbyte := byte.toNat_lt
  omega

theorem sound_exponent (positive : Bool) (n : Nat) (start : Int) :
    Sound limit quotes (exponent positive n start) Number.Fits := by
  unfold exponent
  refine sound_skip.bind fun _ _ => sound_peek.bind fun sign _ => sound_skip_if ?_
  refine sound_next.bind fun first _ => ?_
  split
  · exact sound_failHere (.fixed rfl)
  · rename_i first
    split
    · have hdigits : Sound limit quotes
          (fun c => .ok (absorb maxExponent (first.toNat - 0x30) 0 c.rest c.position))
          fun x => x.1 ≤ maxExponent :=
        fun _ hc => within_absorb 0 _ _ (toNat_sub_le first (by decide)) hc
      refine hdigits.bind fun _ _ => sound_peek.bind fun following _ => ?_
      split
      · split
        -- The exponent is too large to be counted.
        · refine sound_skip.bind fun _ _ => ?_
          split
          · exact sound_failHere (.fixed rfl)
          · exact sound_skipDigits.bind fun _ _ => sound_pure trivial
        · exact sound_finish _ _ _
      · exact sound_finish _ _ _
    · exact sound_failHere (.fixed rfl)

theorem sound_afterDigits (positive : Bool) (n : Nat) (e : Int) :
    Sound limit quotes (afterDigits positive n e) Number.Fits := by
  refine sound_peek.bind fun following _ => ?_
  split
  · split
    · exact sound_exponent _ _ _
    · exact sound_finish _ _ _
  · exact sound_finish _ _ _

theorem sound_fraction (positive : Bool) {n : Nat} (hn : n ≤ maxUnsigned) (start : Int) :
    Sound limit quotes (fraction positive n start) Number.Fits := by
  refine sound_skip.bind fun _ _ => (sound_significand hn).bind fun _ _ =>
    sound_peek.bind fun following _ => ?_
  split
  · split
    · exact sound_skipDigits.bind fun _ _ => sound_afterDigits _ _ _
    · split
      · exact sound_failNext (.fixed rfl)
      · exact sound_afterDigits _ _ _
  · split
    · exact sound_failNext (.fixed rfl)
    · exact sound_afterDigits _ _ _

theorem whole_fits (positive : Bool) {n : Nat} (hn : n ≤ maxUnsigned) :
    (whole positive n).Fits := by
  unfold whole
  split
  · exact hn
  · split
    · trivial
    · change (-(n : Int)).natAbs ≤ maxUnsigned
      rwa [Int.natAbs_neg, Int.natAbs_natCast]

theorem sound_afterWhole (positive : Bool) {n : Nat} (hn : n ≤ maxUnsigned) :
    Sound limit quotes (afterWhole positive n) Number.Fits := by
  refine sound_peek.bind fun following _ => ?_
  split
  · exact sound_fraction positive hn 0
  · split
    · exact sound_exponent _ _ _
    · exact sound_pure (whole_fits positive hn)
  · exact sound_pure (whole_fits positive hn)

theorem sound_number (positive : Bool) : Sound limit quotes (number positive) Number.Fits := by
  refine sound_next.bind fun first _ => ?_
  split
  · exact sound_failHere (.fixed rfl)
  · refine sound_peek.bind fun following _ => ?_
    split
    · split
      · exact sound_failNext (.fixed rfl)
      · exact sound_afterWhole positive (Nat.zero_le _)
    · exact sound_afterWhole positive (Nat.zero_le _)
  · rename_i first _
    split
    · refine (sound_significand (toNat_sub_le first (by decide))).bind fun x hx =>
        sound_skipDigits.bind fun extra _ => ?_
      split
      · exact sound_afterWhole positive hx
      · refine sound_peek.bind fun following _ => ?_
        split
        · exact sound_fraction positive hx _
        · exact sound_afterDigits _ _ _
    · exact sound_failHere (.fixed rfl)

/-- **A number that is read has sixty-four bits.** -/
theorem sound_signedNumber : Sound limit quotes signedNumber Number.Fits := by
  refine sound_peek.bind fun sign _ => ?_
  split
  · exact sound_skip.bind fun _ _ => sound_number false
  · exact sound_number true

/-! ## §5 Text -/

theorem sound_hexUnit : Sound limit quotes hexUnit fun _ => True := by
  rintro ⟨bytes, p⟩ hc
  have hshort : (bytes.foldl Position.past p).reach ≤ limit :=
    Nat.le_trans (Position.reach_foldl_past bytes p) hc
  simp only [hexUnit, SoundFrom]
  split
  · rename_i a b d e rest
    have hpast : Within limit ⟨rest, [a, b, d, e].foldl Position.past p⟩ := hc.past.past.past.past
    split
    · exact ⟨trivial, hpast⟩
    · exact ⟨hpast.here, .fixed rfl⟩
  · exact ⟨hshort, .fixed rfl⟩

theorem sound_pairByte (wanted : UInt8) : Sound limit quotes (pairByte wanted) fun _ => True := by
  refine sound_next.bind fun read _ => ?_
  split
  · exact sound_failHere (.fixed rfl)
  · split
    · exact sound_pure trivial
    · exact sound_failHere (.fixed rfl)

theorem sound_unicodeEscape : Sound limit quotes unicodeEscape fun _ => True := by
  refine sound_hexUnit.bind fun first _ => ?_
  split
  · exact sound_failHere (.fixed rfl)
  · split
    · refine (sound_pairByte _).bind fun _ _ => (sound_pairByte _).bind fun _ _ =>
        sound_hexUnit.bind fun second _ => ?_
      split
      · exact sound_pure trivial
      · exact sound_failHere (.fixed rfl)
    · exact sound_pure trivial

theorem sound_escape : Sound limit quotes escape fun _ => True := by
  refine sound_next.bind fun read _ => ?_
  split <;> first
    | exact sound_failHere (.fixed rfl)
    | exact sound_pure trivial
    | exact sound_unicodeEscape.bind fun _ _ => sound_pure trivial

/-- The bytes of a text come with places in it. -/
theorem sound_textBytes (fuel : Nat) {taken : List (UInt8 × Position)}
    (htaken : ∀ x ∈ taken, x.2.reach ≤ limit) :
    Sound limit quotes (textBytes fuel taken) fun all => ∀ x ∈ all, x.2.reach ≤ limit := by
  induction fuel generalizing taken with
  | zero => exact sound_failHere (.fixed rfl)
  | succ fuel ih =>
    refine sound_next.bind fun read _ => ?_
    split
    · exact sound_failHere (.fixed rfl)
    · exact sound_pure fun x hx => htaken x (List.mem_reverse.mp hx)
    · -- All bytes of an escape stand at the place behind it.
      refine sound_escape.bind fun bytes _ => sound_get.bind fun c hc => ih fun x hx => ?_
      rcases List.mem_append.mp hx with hnew | hold
      · obtain ⟨byte, _, rfl⟩ := List.mem_map.mp hnew
        exact hc.here
      · exact htaken x hold
    · split
      · exact sound_failHere (.fixed rfl)
      · refine sound_get.bind fun c hc => ih fun x hx => ?_
        rcases List.mem_cons.mp hx with rfl | hold
        · exact hc.here
        · exact htaken x hold

theorem sound_text : Sound limit quotes text fun _ => True := by
  refine sound_get.bind fun c hc => (sound_textBytes _ (by simp)).bind fun taken htaken => ?_
  dsimp only
  split
  · exact sound_pure trivial
  · refine sound_failAt ?_ (.fixed rfl)
    -- The place behind the first byte that is wrong, or the beginning of the text.
    cases hwrong : (taken.drop (validUpTo (taken.map (·.1)))).head? with
    | none => exact hc.here
    | some x => exact htaken x (List.mem_of_mem_drop (List.mem_of_head? hwrong))

/-! ## §6 Lists and objects -/

theorem sound_items {item : Reader α} (hitem : Sound limit quotes item fun _ => True) (fuel : Nat)
    (first : Bool) : Sound limit quotes (items item fuel first) fun _ => True := by
  induction fuel generalizing first with
  | zero => exact sound_failHere (.fixed rfl)
  | succ fuel ih =>
    -- An item and what follows it, which is read at the beginning and behind each comma.
    have hmore : Sound limit quotes (do
        let head ← item
        let tail ← items item fuel false
        pure (head :: tail)) fun _ => True :=
      hitem.bind fun _ _ => (ih false).bind fun _ _ => sound_pure trivial
    refine sound_token.bind fun ahead _ => ?_
    split
    · exact sound_failNext (.fixed rfl)
    · exact sound_skip.bind fun _ _ => sound_pure trivial
    · split
      · exact hmore
      · split
        · refine sound_skip.bind fun _ _ => sound_token.bind fun ahead _ => ?_
          split
          · exact sound_failNext (.fixed rfl)
          · exact sound_failNext (.fixed rfl)
          · exact hmore
        · exact sound_failNext (.fixed rfl)

theorem sound_field {value : Reader α} (hvalue : Sound limit quotes value fun _ => True) :
    Sound limit quotes (field value) fun _ => True := by
  refine sound_skip.bind fun _ _ => sound_text.bind fun _ _ => sound_token.bind fun ahead _ => ?_
  split
  · exact sound_failNext (.fixed rfl)
  · exact sound_skip.bind fun _ _ => hvalue.bind fun _ _ => sound_pure trivial
  · exact sound_failNext (.fixed rfl)

theorem sound_fields {value : Reader α} (hvalue : Sound limit quotes value fun _ => True)
    (fuel : Nat) (first : Bool) : Sound limit quotes (fields value fuel first) fun _ => True := by
  induction fuel generalizing first with
  | zero => exact sound_failHere (.fixed rfl)
  | succ fuel ih =>
    have hmore : Sound limit quotes (do
        let head ← field value
        let tail ← fields value fuel false
        pure (head :: tail)) fun _ => True :=
      (sound_field hvalue).bind fun _ _ => (ih false).bind fun _ _ => sound_pure trivial
    refine sound_token.bind fun ahead _ => ?_
    split
    · exact sound_failNext (.fixed rfl)
    · exact sound_skip.bind fun _ _ => sound_pure trivial
    · split
      · split
        · exact hmore
        · exact sound_failNext (.fixed rfl)
      · split
        · refine sound_skip.bind fun _ _ => sound_token.bind fun ahead _ => ?_
          split
          · exact sound_failNext (.fixed rfl)
          · exact hmore
          · exact sound_failNext (.fixed rfl)
          · exact sound_failNext (.fixed rfl)
        · exact sound_failNext (.fixed rfl)

/-! ## §7 Documents -/

theorem sound_document (fuel depth : Nat) :
    Sound limit quotes (document fuel depth) fun _ => True := by
  induction fuel generalizing depth with
  | zero => exact sound_failHere (.fixed rfl)
  | succ fuel ih =>
    refine sound_token.bind fun ahead _ => ?_
    split
    · exact sound_failNext (.fixed rfl)
    · exact sound_skip.bind fun _ _ => (sound_word _).bind fun _ _ => sound_pure trivial
    · exact sound_skip.bind fun _ _ => (sound_word _).bind fun _ _ => sound_pure trivial
    · exact sound_skip.bind fun _ _ => (sound_word _).bind fun _ _ => sound_pure trivial
    · exact sound_skip.bind fun _ _ => sound_text.bind fun _ _ => sound_pure trivial
    · split
      · exact sound_failNext (.fixed rfl)
      · exact sound_skip.bind fun _ _ => (sound_items (ih _) _ _).bind fun _ _ => sound_pure trivial
    · split
      · exact sound_failNext (.fixed rfl)
      · exact sound_skip.bind fun _ _ => (sound_fields (ih _) _ _).bind fun _ _ =>
          sound_pure trivial
    · split
      · exact sound_signedNumber.bind fun _ _ => sound_pure trivial
      · exact sound_failNext (.fixed rfl)

/-- A shape is reported with what was found instead: the text ahead is quoted, if there is one. -/
theorem soundFrom_unexpected (hc : Within limit c) (hexpected : expected.length ≤ 10)
    (hquotes : c.rest.head? = some 0x22 → quotes) :
    SoundFrom limit quotes c (unexpected expected : Reader α) good := by
  have hquiet (found : Found) (hquiet : found.quoted? = none) (hfits : found.Fits) :
      Sound limit quotes (failHere (.invalidType found expected) : Reader α) good :=
    sound_failHere (Fault.Modest.ofQuiet hquiet hfits hexpected).1
  refine soundFrom_peek_bind ?_
  split
  · exact (sound_skip.bind fun _ _ => (sound_word _).bind fun _ _ => hquiet .null rfl trivial) c hc
  · exact (sound_skip.bind fun _ _ => (sound_word _).bind fun _ _ =>
      hquiet (.bool true) rfl trivial) c hc
  · exact (sound_skip.bind fun _ _ => (sound_word _).bind fun _ _ =>
      hquiet (.bool false) rfl trivial) c hc
  -- Only the byte that begins a text leads to a quotation.
  · rename_i hahead
    exact (sound_skip.bind fun _ _ => sound_text.bind fun s _ =>
      sound_failHere (.ofText s hexpected (hquotes hahead))) c hc
  · exact hquiet .sequence rfl trivial c hc
  · exact hquiet .map rfl trivial c hc
  · split
    · refine (sound_signedNumber.bind fun n hn => hquiet _ ?_ hn) c hc
      cases n <;> rfl
    · exact sound_failNext (.fixed rfl) c hc
  · exact sound_failNext (.fixed rfl) c hc

/-- A shape may be reported anyhow where texts may be quoted. -/
theorem sound_unexpected (hexpected : expected.length ≤ 10) (h : quotes) :
    Sound limit quotes (unexpected expected : Reader α) good :=
  fun _ hc => soundFrom_unexpected hc hexpected fun _ => h

theorem sound_wholeNumber (least most : Int) (hexpected : expected.length ≤ 10) (h : quotes) :
    Sound limit quotes (wholeNumber least most expected) fun _ => True := by
  refine sound_token.bind fun ahead _ => ?_
  split
  · exact sound_failNext (.fixed rfl)
  · split
    · refine sound_signedNumber.bind fun n hn => ?_
      split
      · rename_i value
        have hmodest : (Fault.invalidValue (.int value) expected).Modest quotes :=
          (Fault.Modest.ofQuiet rfl hn hexpected).2
        split
        · exact sound_pure trivial
        · exact sound_failHere hmodest
      · rename_i value
        have hmodest : (Fault.invalidType (.float value) expected).Modest quotes :=
          (Fault.Modest.ofQuiet rfl hn hexpected).1
        exact sound_failHere hmodest
    · exact sound_unexpected hexpected h

theorem sound_signed64 (h : quotes) : Sound limit quotes signed64 fun _ => True :=
  sound_wholeNumber _ _ (Nat.le_trans (Nat.le_of_eq String.length_ofList) (by decide)) h

/-- Where a text is expected, no text is quoted. -/
theorem sound_textDocument : Sound limit quotes textDocument fun _ => True := by
  refine sound_token_bind fun c hc => ?_
  split
  · exact sound_failNext (.fixed rfl) c hc
  · exact (sound_skip.bind fun _ _ => sound_text.bind fun _ _ => sound_pure trivial) c hc
  · rename_i byte hbyte hahead
    refine soundFrom_unexpected hc (Nat.le_trans (Nat.le_of_eq String.length_ofList) (by decide))
      fun hquote => ?_
    rw [hquote] at hahead
    cases hahead
    exact absurd rfl hbyte

end Reader

/-! ## §8 Shapes -/

open Reader

/-- Whether a document of another shape may be quoted: the shapes of texts do not, and any document
    has the shape of any. -/
def Shape.mayQuote : Shape → Bool
  | .any | .string | .optional => false
  | .byte | .signed | .bool | .list | .map => true

theorem Shape.sound_reader (fuel : Nat) (shape : Shape) :
    Sound limit (shape.mayQuote = true) (shape.reader fuel) fun _ => True := by
  have hword : "u8".length = 2 := String.length_ofList
  have hbool : "a boolean".length = 9 := String.length_ofList
  have hlist : "a sequence".length = 10 := String.length_ofList
  have hmap : "a map".length = 5 := String.length_ofList
  cases shape with
  | any => exact sound_document _ _
  | byte => exact sound_wholeNumber _ _ (by omega) rfl
  | signed => exact sound_signed64 rfl
  | string => exact sound_textDocument
  | bool =>
    refine sound_token.bind fun ahead _ => ?_
    split
    · exact sound_failNext (.fixed rfl)
    · exact sound_skip.bind fun _ _ => (sound_word _).bind fun _ _ => sound_pure trivial
    · exact sound_skip.bind fun _ _ => (sound_word _).bind fun _ _ => sound_pure trivial
    · exact sound_unexpected (by omega) rfl
  | list =>
    refine sound_token.bind fun ahead _ => ?_
    split
    · exact sound_failNext (.fixed rfl)
    · exact sound_skip.bind fun _ _ => (sound_items (sound_signed64 rfl) _ _).bind fun _ _ =>
        sound_pure trivial
    · exact sound_unexpected (by omega) rfl
  | map =>
    refine sound_token.bind fun ahead _ => ?_
    split
    · exact sound_failNext (.fixed rfl)
    · exact sound_skip.bind fun _ _ => (sound_fields (sound_signed64 rfl) _ _).bind fun _ _ =>
        sound_pure trivial
    · exact sound_unexpected (by omega) rfl
  | optional =>
    refine sound_token.bind fun ahead _ => ?_
    split
    · exact sound_skip.bind fun _ _ => (sound_word _).bind fun _ _ => sound_pure trivial
    · exact sound_textDocument

/-- What reads a whole body: a document of the shape, and nothing but blanks behind it. -/
def Shape.whole (shape : Shape) (body : Bytes) : Reader Json := do
  let value ← shape.reader (body.length + 1)
  match ← token with
  | none => pure value
  | some _ => failNext .trailingCharacters

theorem Shape.sound_whole (shape : Shape) (body : Bytes) :
    Sound limit (shape.mayQuote = true) (shape.whole body) fun _ => True := by
  refine (shape.sound_reader _).bind fun value _ => sound_token.bind fun ahead _ => ?_
  split
  · exact sound_pure trivial
  · exact sound_failNext (.fixed rfl)

theorem decode_eq (shape : Shape) (body : Bytes) :
    decode shape body = (shape.whole body ⟨body, Position.start⟩).bind fun x => .ok x.1 := rfl

/-- **A body that is refused is refused modestly**, at a place within it. -/
theorem decode_modest {shape : Shape} {body : Bytes} {e : ReadError}
    (h : decode shape body = .error e) : e.Modest (body.length + 1) (shape.mayQuote = true) := by
  have hstart : Within (body.length + 1) ⟨body, Position.start⟩ := by
    simp only [Within, Position.reach, Position.start]
    omega
  have hyields : Yields (body.length + 1) (shape.mayQuote = true) (fun _ => True)
    (shape.whole body ⟨body, Position.start⟩) := shape.sound_whole body _ hstart
  rw [decode_eq] at h
  cases hresult : shape.whole body ⟨body, Position.start⟩ with
  | ok x =>
    rw [hresult] at h
    cases h
  | error fault =>
    rw [hresult] at h hyields
    cases h
    exact hyields

end Replicast.Json
