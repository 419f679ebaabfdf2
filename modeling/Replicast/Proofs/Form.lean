import Mathlib.Tactic.IntervalCases
import Replicast.Proofs.Redaction.Userinfo
/-!
# Form encoding, read back

Whatever names and values are written as a form are read back from it, also behind a query that is
already there.

## Overview

* `Utf8.decodeLossy_encode` reads back a text from its bytes.
* `Form.decodeText_encodeText` reads back a name or a value, and `Form.decode_encodePair` a pair.
* `Form.decode_append` says that a text is read in two parts at an ampersand.
* `Form.decode_encode` and `Form.decode_appendTo` are the results.
-/

namespace Replicast

/-! ## §1 Code points -/

namespace Utf8

/-- A byte that may come next continues a sequence, and ends it if it is the last one. -/
theorem step_continuation {u : Unfinished} {x : Nat} (hx : x < 64)
    (hleast : u.least.toNat ≤ x + 128) (hmost : x + 128 ≤ u.most.toNat) :
    step (some u) (UInt8.ofNat (x + 128)) =
      if u.missing ≤ 1 then ([some (Char.ofNat (u.payload * 64 + x))], none)
      else ([], some ⟨u.payload * 64 + x, u.missing - 1, 0x80, 0xBF⟩) := by
  have hbyte : (UInt8.ofNat (x + 128)).toNat = x + 128 := by
    rw [UInt8.toNat_ofNat', Nat.mod_eq_of_lt (by omega)]
  have hrange : (decide (u.least ≤ UInt8.ofNat (x + 128)) &&
      decide (UInt8.ofNat (x + 128) ≤ u.most)) = true := by
    simp only [Bool.and_eq_true, decide_eq_true_eq, UInt8.le_iff_toNat_le, hbyte]
    exact ⟨hleast, hmost⟩
  have hpayload : (x + 128) % 64 = x := by omega
  simp only [step, hrange, if_true, hbyte, hpayload]

theorem scanFrom_cons (u : Option Unfinished) (byte : UInt8) (rest : Bytes) :
    scanFrom u (byte :: rest) = (step u byte).1 ++ scanFrom (step u byte).2 rest := by
  cases u <;> rfl

/-- The last byte of a sequence completes the code point. -/
theorem scanFrom_last {payload x : Nat} (hx : x < 64) (rest : Bytes) :
    scanFrom (some ⟨payload, 1, 0x80, 0xBF⟩) (UInt8.ofNat (x + 128) :: rest) =
      some (Char.ofNat (payload * 64 + x)) :: scanFrom none rest := by
  rw [scanFrom_cons, step_continuation hx (by simp) (by simp only [UInt8.reduceToNat]; omega)]
  rfl

/-- Another byte adds a digit in base 64. -/
theorem scanFrom_more {payload missing x : Nat} {least most : UInt8} (hx : x < 64)
    (hleast : least.toNat ≤ x + 128) (hmost : x + 128 ≤ most.toNat) (rest : Bytes) :
    scanFrom (some ⟨payload, missing + 2, least, most⟩) (UInt8.ofNat (x + 128) :: rest) =
      scanFrom (some ⟨payload * 64 + x, missing + 1, 0x80, 0xBF⟩) rest := by
  rw [scanFrom_cons, step_continuation hx hleast hmost]
  simp

theorem lead_one {x : Nat} (hx : x < 0x80) :
    lead (UInt8.ofNat x) = ([some (Char.ofNat x)], none) := by
  have hbyte : (UInt8.ofNat x).toNat = x := by
    rw [UInt8.toNat_ofNat', Nat.mod_eq_of_lt (by omega)]
  have hlt : UInt8.ofNat x < 0x80 := by
    rw [UInt8.lt_iff_toNat_lt, hbyte]
    exact hx
  rw [lead, if_pos hlt, hbyte]

theorem lead_two {x : Nat} (hlow : 2 ≤ x) (hhigh : x < 32) :
    lead (UInt8.ofNat (x + 192)) = ([], some ⟨x, 1, 0x80, 0xBF⟩) := by
  interval_cases x <;> rfl

/-- After the first lead byte of three the next byte is not too small, and after that of the
    surrogates it is not too large. -/
theorem lead_three {x : Nat} (hx : x < 16) :
    lead (UInt8.ofNat (x + 224)) =
      ([], some ⟨x, 2, if x = 0 then 0xA0 else 0x80, if x = 13 then 0x9F else 0xBF⟩) := by
  interval_cases x <;> rfl

/-- After the first lead byte of four the next byte is not too small, and after the last one it is
    not too large. -/
theorem lead_four {x : Nat} (hx : x < 5) :
    lead (UInt8.ofNat (x + 240)) =
      ([], some ⟨x, 3, if x = 0 then 0x90 else 0x80, if x = 4 then 0x8F else 0xBF⟩) := by
  interval_cases x <;> rfl

theorem scanFrom_lead {byte : UInt8} {u : Unfinished} (h : lead byte = ([], some u))
    (rest : Bytes) : scanFrom none (byte :: rest) = scanFrom (some u) rest := by
  rw [scanFrom_cons, show step none byte = lead byte from rfl, h]
  rfl

/-- The bytes of a character are read as that character. -/
theorem scanFrom_encodeChar (c : Char) (rest : Bytes) :
    scanFrom none (String.utf8EncodeChar c ++ rest) = some c :: scanFrom none rest := by
  have hvalid : c.toNat < 0xD800 ∨ (0xDFFF < c.toNat ∧ c.toNat < 0x110000) := c.valid
  have hself : Char.ofNat c.toNat = c := Char.ofNat_toNat c
  rw [String.utf8EncodeChar.eq_1, show c.val.toNat = c.toNat from rfl]
  generalize c.toNat = v at hvalid hself
  -- The code point is put together again from its digits in base 64.
  by_cases hone : v ≤ 127
  · rw [if_pos hone, List.cons_append, scanFrom_cons, show step none _ = lead _ from rfl,
      lead_one (by omega), hself]
    rfl
  by_cases htwo : v ≤ 2047
  · have hv : v / 64 % 32 * 64 + v % 64 = v := by omega
    simp only [if_neg hone, if_pos htwo, List.cons_append, List.nil_append]
    rw [scanFrom_lead (lead_two (by omega) (by omega)), scanFrom_last (by omega), hv, hself]
  by_cases hthree : v ≤ 65535
  · have hv : (v / 4096 % 16 * 64 + v / 64 % 64) * 64 + v % 64 = v := by omega
    simp only [if_neg hone, if_neg htwo, if_pos hthree, List.cons_append, List.nil_append]
    rw [scanFrom_lead (lead_three (by omega)), scanFrom_more (by omega)
      (by split <;> (simp only [UInt8.reduceToNat]; omega))
      (by split <;> (simp only [UInt8.reduceToNat]; omega)), scanFrom_last (by omega), hv, hself]
  · have hv : ((v / 262144 % 8 * 64 + v / 4096 % 64) * 64 + v / 64 % 64) * 64 + v % 64 = v := by
      omega
    simp only [if_neg hone, if_neg htwo, if_neg hthree, List.cons_append, List.nil_append]
    rw [scanFrom_lead (lead_four (by omega)), scanFrom_more (by omega)
      (by split <;> (simp only [UInt8.reduceToNat]; omega))
      (by split <;> (simp only [UInt8.reduceToNat]; omega)),
      scanFrom_more (by omega) (by simp) (by simp only [UInt8.reduceToNat]; omega),
      scanFrom_last (by omega), hv, hself]

/-- **Every text is read back from its bytes.** -/
theorem decodeLossy_encode (text : List Char) : decodeLossy (encode text) = text := by
  have hscan : scan (encode text) = text.map some := by
    induction text with
    | nil => rfl
    | cons c rest ih => exact (scanFrom_encodeChar c (encode rest)).trans (congrArg _ ih)
  rw [decodeLossy, hscan, List.map_map]
  exact List.map_id text

end Utf8

/-! ## §2 Bytes -/

namespace Percent

theorem decode_plain {byte : UInt8} (h : byte ≠ 0x25) (rest : Bytes) :
    decode (byte :: rest) = byte :: decode rest := by
  rw [decode.eq_def]
  simp [h]

theorem decode_encoded {high low : UInt8} {h l : Nat} (hhigh : digitValue? high = some h)
    (hlow : digitValue? low = some l) (rest : Bytes) :
    decode (0x25 :: high :: low :: rest) = UInt8.ofNat (h * 16 + l) :: decode rest := by
  rw [decode.eq_def]
  simp [hhigh, hlow]

end Percent

namespace Form

/-- The bytes that a name or a value is read from: plus signs are blanks. -/
def bytesOf (text : Chars) : Bytes :=
  Utf8.encode (text.map fun c => if c == '+' then ' ' else c)

theorem bytesOf_append (xs ys : Chars) : bytesOf (xs ++ ys) = bytesOf xs ++ bytesOf ys := by
  simp [bytesOf, Utf8.encode]

/-- A hexadecimal digit is one byte, of its value. -/
theorem bytesOf_digit {d : Nat} (hd : d < 16) (rest : Chars) :
    ∃ byte, bytesOf (Percent.digit d :: rest) = byte :: bytesOf rest ∧
      Percent.digitValue? byte = some d := by
  have hall : ∀ d < 16, bytesOf [Percent.digit d] = [UInt8.ofNat (Percent.digit d).toNat] ∧
      Percent.digitValue? (UInt8.ofNat (Percent.digit d).toNat) = some d := by decide
  obtain ⟨hone, hvalue⟩ := hall d hd
  refine ⟨_, ?_, hvalue⟩
  rw [← List.singleton_append, bytesOf_append, hone]
  rfl

/-- The characters with a meaning of their own in a query, or behind it. -/
def isReserved (c : Char) : Bool := c == '&' || c == '=' || c == '#'

/-- A byte that stands for itself is not taken for anything else. -/
theorem plain_byte {byte : UInt8} (h : isPlain byte = true) :
    (bytesOf [Char.ofNat byte.toNat] = [byte] ∧ byte ≠ 0x25) ∧
      isReserved (Char.ofNat byte.toNat) = false := by
  have hall : ((List.range 256).all fun n => !isPlain (UInt8.ofNat n) ||
      ((bytesOf [Char.ofNat n] == [UInt8.ofNat n] && UInt8.ofNat n != 0x25) &&
        !isReserved (Char.ofNat n))) = true := by decide +kernel
  have hbyte := List.all_eq_true.mp hall byte.toNat (List.mem_range.mpr byte.toNat_lt)
  rw [UInt8.ofNat_toNat] at hbyte
  simpa [h] using hbyte

/-- An encoded byte is read back, whatever follows it. -/
theorem decode_encodeByte (byte : UInt8) (rest : Chars) :
    Percent.decode (bytesOf (encodeByte byte ++ rest)) =
      byte :: Percent.decode (bytesOf rest) := by
  -- A byte stands for itself, is a plus sign, or is written in two digits.
  unfold encodeByte
  split
  · rename_i hplain
    obtain ⟨hone, hne⟩ := (plain_byte hplain).1
    rw [bytesOf_append, hone, List.singleton_append, Percent.decode_plain hne]
  split
  · rename_i hblank
    obtain rfl : byte = 0x20 := by simpa using hblank
    rw [bytesOf_append]
    exact Percent.decode_plain (by decide) _
  · have hlt := byte.toNat_lt
    obtain ⟨low, hlow, hl⟩ := bytesOf_digit (d := byte.toNat % 16) (by omega) rest
    obtain ⟨high, hhigh, hh⟩ := bytesOf_digit (d := byte.toNat / 16) (by omega)
      (Percent.digit (byte.toNat % 16) :: rest)
    have hbytes : bytesOf (Percent.encodeByte byte ++ rest) =
        0x25 :: high :: low :: bytesOf rest := by
      rw [← hlow, ← hhigh]
      rfl
    have hvalue : byte.toNat / 16 * 16 + byte.toNat % 16 = byte.toNat := by omega
    rw [hbytes, Percent.decode_encoded hh hl, hvalue, UInt8.ofNat_toNat]

/-- **A name or a value is read back.** -/
theorem decodeText_encodeText (text : Chars) : decodeText (encodeText text) = text := by
  have hbytes (bytes : Bytes) : Percent.decode (bytesOf (bytes.flatMap encodeByte)) = bytes := by
    induction bytes with
    | nil => rfl
    | cons byte rest ih => rw [List.flatMap_cons, decode_encodeByte, ih]
  rw [decodeText, encodeText, ← bytesOf, hbytes, Utf8.decodeLossy_encode]

/-! ## §3 Pairs -/

/-- Names and values are written without reserved characters. -/
theorem encodeText_free (text : Chars) : ∀ c ∈ encodeText text, isReserved c = false := by
  have hdigit : ∀ d < 16, isReserved (Percent.digit d) = false := by decide
  intro c hc
  obtain ⟨byte, -, hc⟩ := List.mem_flatMap.mp hc
  have hlt := byte.toNat_lt
  unfold encodeByte at hc
  split at hc
  · rename_i hplain
    obtain rfl := List.mem_singleton.mp hc
    exact (plain_byte hplain).2
  split at hc
  · obtain rfl := List.mem_singleton.mp hc
    rfl
  · simp only [Percent.encodeByte, List.mem_cons, List.not_mem_nil, or_false] at hc
    rcases hc with rfl | rfl | rfl
    · rfl
    · exact hdigit _ (by omega)
    · exact hdigit _ (by omega)

end Form

namespace Chars

variable {p : Char → Bool} {c : Char}

theorem pieces_ne_nil (p : Char → Bool) (text : Chars) : pieces p text ≠ [] := by
  induction text with
  | nil => simp [pieces]
  | cons c rest ih =>
    unfold pieces
    split
    · simp
    · split <;> simp

/-- A text is cut into pieces on both sides of a separator. -/
theorem pieces_append_cons (hc : p c = true) (xs ys : Chars) :
    pieces p (xs ++ c :: ys) = pieces p xs ++ pieces p ys := by
  induction xs with
  | nil => simp [pieces, hc]
  | cons d xs ih =>
    by_cases hd : p d = true
    · simp [pieces, hd, ih]
    · obtain ⟨first, others, hpieces⟩ := List.exists_cons_of_ne_nil (pieces_ne_nil p xs)
      simp [pieces, hd, ih, hpieces]

theorem pieces_of_free {text : Chars} (h : ∀ c ∈ text, p c = false) : pieces p text = [text] := by
  induction text with
  | nil => rfl
  | cons c rest ih =>
    simp [pieces, h c List.mem_cons_self, ih fun d hd => h d (List.mem_cons_of_mem _ hd)]

end Chars

namespace Form

/-- At an ampersand a text is read in two parts. -/
theorem decode_append (xs ys : Chars) : decode (xs ++ '&' :: ys) = decode xs ++ decode ys := by
  rw [decode, Chars.pieces_append_cons rfl, List.filter_append, List.map_append]
  rfl

/-- A pair is read back. -/
theorem decode_encodePair (pair : Chars × Chars) : decode (encodePair pair) = [pair] := by
  have hfree (d : Char) (hd : isReserved d = true) (text : Chars) :
      ∀ c ∈ encodeText text, (c == d) = false := fun c hc => by
    refine beq_eq_false_iff_ne.mpr ?_
    rintro rfl
    simp [encodeText_free text c hc] at hd
  -- There is no ampersand in a pair, and no equals sign in front of the one that is written.
  have hone : ∀ c ∈ encodePair pair, (c == '&') = false := by
    intro c hc
    rcases List.mem_append.mp hc with hc | hc
    · exact hfree '&' rfl _ c hc
    rcases List.mem_cons.mp hc with rfl | hc
    · rfl
    · exact hfree '&' rfl _ c hc
  have hpair : decodePair (encodePair pair) = pair := by
    rw [decodePair, encodePair, Chars.cut_append (hfree '=' rfl _)]
    simp [Chars.cut, decodeText_encodeText]
  have hsome : (encodePair pair).isEmpty = false := by simp [encodePair]
  rw [decode, Chars.pieces_of_free hone]
  simp [hsome, hpair]

/-- **What is written behind a query is read behind it.** -/
theorem decode_appendTo (query : Chars) (pairs : Pairs) :
    decode (appendTo query pairs) = decode query ++ pairs := by
  induction pairs generalizing query with
  | nil => simp [appendTo]
  | cons pair rest ih =>
    -- An empty query reads as no pairs, so that both ways of going on read alike.
    have hfirst : decode
        (if query.isEmpty then encodePair pair else query ++ '&' :: encodePair pair) =
          decode query ++ [pair] := by
      split
      · obtain rfl : query = [] := List.isEmpty_iff.mp ‹_›
        exact decode_encodePair pair
      · rw [decode_append, decode_encodePair]
    rw [appendTo, List.foldl_cons, ← appendTo, ih, hfirst, List.append_assoc]
    rfl

/-- **A list of pairs is read back.** -/
theorem decode_encode (pairs : Pairs) : decode (encode pairs) = pairs := by
  induction pairs with
  | nil => rfl
  | cons pair rest ih =>
    cases rest with
    | nil => exact decode_encodePair pair
    | cons next others =>
      have hjoin : encode (pair :: next :: others) =
          encodePair pair ++ '&' :: encode (next :: others) := by
        simp [encode, Chars.join]
      rw [hjoin, decode_append, decode_encodePair, ih]
      rfl

/-! ## §4 What is written -/

theorem prefix_appendTo (query : Chars) (pairs : Pairs) : query <+: appendTo query pairs := by
  induction pairs generalizing query with
  | nil => exact List.prefix_rfl
  | cons pair rest ih =>
    rw [appendTo, List.foldl_cons, ← appendTo]
    refine List.IsPrefix.trans ?_ (ih _)
    split
    · rename_i hempty
      rw [List.isEmpty_iff.mp hempty]
      exact List.nil_prefix
    · exact List.prefix_append _ _

/-- No fragment begins in a pair. -/
theorem encodePair_free (pair : Chars × Chars) : '#' ∉ encodePair pair := by
  have htext (text : Chars) : '#' ∉ encodeText text := fun hc => by
    cases encodeText_free text _ hc
  intro hc
  rcases List.mem_append.mp hc with hc | hc
  · exact htext _ hc
  · exact htext _ ((List.mem_cons.mp hc).resolve_left (by decide))

theorem encode_free (pairs : Pairs) : '#' ∉ encode pairs := by
  intro hc
  rcases Chars.mem_join hc with hc | ⟨piece, hpiece, hc⟩
  · cases List.mem_singleton.mp hc
  · obtain ⟨pair, -, rfl⟩ := List.mem_map.mp hpiece
    exact encodePair_free pair hc

theorem appendTo_free {query : Chars} (h : '#' ∉ query) (pairs : Pairs) :
    '#' ∉ appendTo query pairs := by
  induction pairs generalizing query with
  | nil => exact h
  | cons pair rest ih =>
    rw [appendTo, List.foldl_cons, ← appendTo]
    refine ih ?_
    split
    · exact encodePair_free pair
    · simp [h, encodePair_free pair]

end Form

end Replicast
