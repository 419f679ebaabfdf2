import Replicast.Outcome.Basic
import Replicast.Proofs.Lengths.Faults
/-!
# How long error texts get

An error that quotes the body of a response has an excerpt of it, which is bounded.  The error of
the JSON reader stands beside the excerpt, and a text that it quotes stands there in full.

## Overview

* `Excerpt.length_ofBody_le` bounds excerpts.
* `Outcome.error_texts_bounded` is what is bounded, and what is not.
* `Outcome.error_texts_grow` is a family of bodies whose errors grow.
-/

namespace Replicast

open Json (length_phrase length_phrase_append quotedLength)

/-! ## §1 Parts -/

theorem Excerpt.length_ofBody_le (body : Bytes) : (ofBody body).length ≤ 2062 := by
  have hmark : cutMark.length = 14 := String.length_ofList
  simp only [ofBody]
  split
  · rename_i hshort
    rw [maxChars] at hshort
    rw [String.length_ofList]
    omega
  · have hcut : (String.ofList ((Utf8.decodeLossy body).take maxChars)).length ≤ 2048 := by
      rw [String.length_ofList, List.length_take]
      exact Nat.min_le_left _ _
    rw [String.length_append]
    omega

/-- A status has three digits. -/
theorem Outcome.statusCode_lt (o : Outcome) : o.statusCode?.getD 0 < 10 ^ 3 := by
  unfold statusCode? status?
  cases o.response with
  | none => decide
  | some head => exact Nat.lt_succ_of_le head.status.three_digits.2

/-- No escape is shorter than what it stands for. -/
theorem Quoted.length_le (s : String) : s.length ≤ (Quoted.text s).length := by
  have hescape (c : Char) : 1 ≤ (escape c).length := by
    unfold escape codePoint
    repeat' split
    all_goals simp
  have hchars (text : List Char) : text.length ≤ (text.flatMap escape).length := by
    induction text with
    | nil => exact Nat.le_refl 0
    | cons c rest ih =>
      have hfirst := hescape c
      rw [List.flatMap_cons, List.length_append, List.length_cons]
      omega
  have hall := hchars s.toList
  rw [String.length_toList] at hall
  rw [Quoted.text, String.length_ofList, Quoted.chars, List.length_append, List.length_cons]
  omega

/-- A smaller number has no longer numeral. -/
theorem length_toString_mono {m n : Nat} (h : m ≤ n) :
    (toString m).length ≤ (toString n).length := by
  have hdigits : 0 < n.repr.length := by
    rw [Nat.repr, String.length_ofList]
    exact Nat.length_toDigits_pos
  change m.repr.length ≤ n.repr.length
  exact (Nat.length_repr_le_iff hdigits).mpr
    (Nat.lt_of_le_of_lt h ((Nat.length_repr_le_iff hdigits).mp (Nat.le_refl _)))

namespace Json

theorem ReadError.length_message (e : ReadError) :
    e.message.length = e.fault.words.length + 17 + (toString e.position.line).length +
      (toString e.position.column).length := by
  have hline : " at line ".length = 9 := String.length_ofList
  have hcolumn : " column ".length = 8 := String.length_ofList
  have hfirst :=
    length_phrase_append e.fault.words " at line " (toString e.position.line) " column "
  have hall : e.message.length =
      (e.fault.words ++ " at line " ++ toString e.position.line ++ " column ").length +
        (toString e.position.column).length := String.length_append _ _
  omega

/-- The words for what was found hold the text that is quoted. -/
theorem Fault.quotedLength_le (f : Fault) : quotedLength f.quoted? ≤ f.words.length := by
  have hfound (found : Found) : quotedLength found.quoted? ≤ found.words.length := by
    cases found with
    | string value =>
      have hlength : (Found.string value).words.length =
          "string ".length + (Quoted.text value).length := String.length_append _ _
      rewrite [hlength, Found.quoted?, quotedLength]
      omega
    | _ => exact Nat.zero_le _
  cases f with
  | invalidType found expected =>
    have hwords := length_phrase_append "invalid type: " found.words ", expected " expected
    have hheld := hfound found
    change quotedLength found.quoted? ≤
      ("invalid type: " ++ found.words ++ ", expected " ++ expected).length
    omega
  | invalidValue found expected =>
    have hwords := length_phrase_append "invalid value: " found.words ", expected " expected
    have hheld := hfound found
    change quotedLength found.quoted? ≤
      ("invalid value: " ++ found.words ++ ", expected " ++ expected).length
    omega
  | _ => exact Nat.zero_le _

end Json

/-! ## §2 What is bounded -/

/-- The most characters of an error about a body, apart from a method and a URI, from the numerals
    of a place, and from a text that is quoted. -/
def maxMessage : Nat := 2240

theorem Error.length_rejection_le (o : Outcome) :
    (Error.rejection o).message.length ≤
      maxMessage + o.request.method.name.length + o.request.redactedUri.length := by
  have hexcerpt := Excerpt.length_ofBody_le o.body
  have hstatus : (toString (o.statusCode?.getD 0)).length ≤ 3 :=
    (Nat.length_repr_le_iff (by decide)).mpr o.statusCode_lt
  have hresponse : "response ".length = 9 := String.length_ofList
  have hrejected : " rejected for ".length = 14 := String.length_ofList
  have hblank : " ".length = 1 := String.length_ofList
  have hcolon : ": ".length = 2 := String.length_ofList
  have hplace : (Error.place o.request.method o.request.redactedUri).length =
      o.request.method.name.length + " ".length + o.request.redactedUri.length :=
    length_phrase _ _ _
  have hfirst := length_phrase_append "response " (toString (o.statusCode?.getD 0)) " rejected for "
    (Error.place o.request.method o.request.redactedUri)
  have hall : (Error.rejection o).message.length =
      ("response " ++ toString (o.statusCode?.getD 0) ++ " rejected for " ++
        Error.place o.request.method o.request.redactedUri).length + ": ".length +
        (Excerpt.ofBody o.body).length := length_phrase _ _ _
  rw [maxMessage]
  omega

theorem Error.length_deserialize (cause : Json.ReadError) (body : String) :
    (Error.deserialize cause body).message.length = 39 + cause.message.length + body.length := by
  have hfailed : "failed to decode response json: ".length = 32 := String.length_ofList
  have hbody : "; body=".length = 7 := String.length_ofList
  have hall : (Error.deserialize cause body).message.length =
      "failed to decode response json: ".length + cause.message.length + "; body=".length +
        body.length := length_phrase_append _ _ _ _
  omega

/-- An error is as long as the text that it quotes at least. -/
theorem Error.quotedLength_le (cause : Json.ReadError) (body : String) :
    quotedLength cause.fault.quoted? ≤ (Error.deserialize cause body).message.length := by
  have hheld := cause.fault.quotedLength_le
  rw [length_deserialize, cause.length_message]
  omega

namespace Outcome

/-- **Error texts do not grow with a body, but for a text that is quoted.**  A rejection has a
    bounded excerpt of the body.  So has the error of any body that is refused as a document,
    whatever its shape; a line and a column are no longer than the numeral of the body's length, and
    everything else is bounded apart from one text.  It is quoted where another shape than a text
    was expected, and the error is as long as the quotation at least.

    Any type that can be read from JSON may be asked for; the shapes here are the eight of
    `Json.Shape`, and nothing is said about the errors that the reader of another type makes up. -/
theorem error_texts_bounded (o : Outcome) :
    (Error.rejection o).message.length ≤
      maxMessage + o.request.method.name.length + o.request.redactedUri.length ∧
    ∀ (shape : Json.Shape) (e : Error), o.json shape = .error e →
      ∃ cause, e = .deserialize cause (Excerpt.ofBody o.body) ∧
        (shape.mayQuote = false → cause.fault.quoted? = none) ∧
        quotedLength cause.fault.quoted? ≤ e.message.length ∧
        e.message.length ≤ maxMessage + quotedLength cause.fault.quoted? +
          2 * (toString (o.body.length + 1)).length ∧
        (o.body.length < 2 ^ 64 - 1 →
          e.message.length ≤ maxMessage + quotedLength cause.fault.quoted? + 40) := by
  refine ⟨Error.length_rejection_le o, fun shape e hjson => ?_⟩
  unfold json at hjson
  split at hjson
  · cases hjson
  · rename_i cause hcause
    obtain rfl := Except.error.inj hjson
    obtain ⟨hreach, hwords, hquoted⟩ := Json.decode_modest hcause
    -- A place is within the body, so that its numerals are no longer than that of the length.
    rw [Json.Position.reach] at hreach
    have hexcerpt := Excerpt.length_ofBody_le o.body
    have hline := length_toString_mono (Nat.le_trans (Nat.le_add_right _ _) hreach)
    have hcolumn := length_toString_mono (Nat.le_trans (Nat.le_add_left _ _) hreach)
    refine ⟨cause, rfl, fun hquiet => ?_, Error.quotedLength_le cause _, ?_, fun hmemory => ?_⟩
    · cases hnone : cause.fault.quoted? with
      | none => rfl
      | some s =>
        rw [hnone, hquiet] at hquoted
        cases hquoted rfl
    · rw [Error.length_deserialize, Json.ReadError.length_message, maxMessage]
      rw [Json.maxWords] at hwords
      omega
    · have hdigits : (toString (o.body.length + 1)).length ≤ 20 :=
        (Nat.length_repr_le_iff (by decide)).mpr (by omega)
      rw [Error.length_deserialize, Json.ReadError.length_message, maxMessage]
      rw [Json.maxWords] at hwords
      omega

/-- The outcome of a target that answered with a body. -/
def answered (body : Bytes) : Outcome :=
  ⟨⟨0, "http://a"⟩, ⟨.get, ⟨some ("http".toList, ['a']), ['/'], none⟩, Header.Map.empty⟩,
    some ⟨Status.ok, .http11, Header.Map.empty⟩, body, none, 1⟩

/-- A word that is cut short, as any document, has a short error. -/
theorem error_texts_bounded_cut :
    ∃ cause, (answered [0x6E, 0x75]).json .any =
        .error (.deserialize cause (Excerpt.ofBody [0x6E, 0x75])) ∧
      (Error.deserialize cause (Excerpt.ofBody [0x6E, 0x75])).message.length ≤
        maxMessage + 40 := by
  have hjson : (answered [0x6E, 0x75]).json .any = .error
      (.deserialize ⟨.eofInValue, ⟨1, 2⟩⟩ (Excerpt.ofBody [0x6E, 0x75])) := rfl
  obtain ⟨cause, heq, hquiet, _, _, hbound⟩ :=
    (error_texts_bounded (answered [0x6E, 0x75])).2 .any _ hjson
  have hshort := hbound (by decide)
  rw [hquiet rfl] at hshort
  rw [heq] at hjson hshort
  exact ⟨cause, hjson, hshort⟩

end Outcome

/-! ## §3 What grows -/

namespace Json

/-- A document that is one text of some letters. -/
def lettersDocument (n : Nat) : Bytes := 0x22 :: (List.replicate n 0x78 ++ [0x22])

def letters (n : Nat) : String := String.ofList (List.replicate n 'x')

theorem decode?_letters (n : Nat) :
    Utf8.decode? (List.replicate n 0x78) = some (List.replicate n 'x') := by
  have hscan : Utf8.scan (List.replicate n 0x78) = (List.replicate n 'x').map some := by
    induction n with
    | zero => rfl
    | succ n ih => exact congrArg (some 'x' :: ·) ih
  rw [Utf8.decode?, hscan]
  induction List.replicate n 'x' with
  | nil => rfl
  | cons c rest ih => simp [ih]

namespace Reader

theorem textBytes_letters (n : Nat) {fuel : Nat} (hfuel : n < fuel)
    (taken : List (UInt8 × Position)) (p : Position) :
    ∃ all after, textBytes fuel taken ⟨List.replicate n 0x78 ++ [0x22], p⟩ = .ok (all, after) ∧
      all.map (·.1) = (taken.map (·.1)).reverse ++ List.replicate n 0x78 := by
  induction n generalizing fuel taken p with
  | zero =>
    obtain ⟨fuel, rfl⟩ := Nat.exists_eq_succ_of_ne_zero (Nat.ne_of_gt hfuel)
    exact ⟨taken.reverse, _, rfl, by simp⟩
  | succ n ih =>
    obtain ⟨fuel, rfl⟩ := Nat.exists_eq_succ_of_ne_zero (Nat.ne_of_gt (Nat.zero_lt_of_lt hfuel))
    obtain ⟨all, after, hread, hall⟩ :=
      ih (Nat.lt_of_succ_lt_succ hfuel) ((0x78, p.past 0x78) :: taken) (p.past 0x78)
    refine ⟨all, after, hread, ?_⟩
    rw [hall, List.map_cons, List.reverse_cons, List.append_assoc, List.replicate_succ]
    rfl

theorem text_letters (n : Nat) (p : Position) :
    ∃ after, text ⟨List.replicate n 0x78 ++ [0x22], p⟩ = .ok (letters n, after) := by
  have hfuel : n < (List.replicate n (0x78 : UInt8) ++ [0x22]).length + 1 := by
    rw [List.length_append, List.length_replicate]
    omega
  obtain ⟨all, after, hread, hall⟩ := textBytes_letters n hfuel [] p
  refine ⟨after, ?_⟩
  change (textBytes _ [] ⟨List.replicate n 0x78 ++ [0x22], p⟩).bind _ = _
  rw [hread]
  have hdecoded : Utf8.decode? (all.map (·.1)) = some (List.replicate n 'x') := by
    rw [hall]
    exact decode?_letters n
  simp only [Except.bind, hdecoded]
  rfl

end Reader

theorem decode_letters (n : Nat) :
    ∃ p, decode .byte (lettersDocument n) =
      .error ⟨.invalidType (.string (letters n)) "u8", p⟩ := by
  obtain ⟨after, htext⟩ := Reader.text_letters n (Position.start.past 0x22)
  have hunexpected : (Reader.unexpected "u8" : Reader Json) ⟨lettersDocument n, Position.start⟩ =
      .error ⟨.invalidType (.string (letters n)) "u8", after.position⟩ := by
    change (Reader.text ⟨List.replicate n 0x78 ++ [0x22], Position.start.past 0x22⟩).bind _ = _
    rw [htext]
    rfl
  have hnumber : Reader.wholeNumber 0 255 "u8" ⟨lettersDocument n, Position.start⟩ =
      .error ⟨.invalidType (.string (letters n)) "u8", after.position⟩ := hunexpected
  refine ⟨after.position, ?_⟩
  change ((Reader.wholeNumber 0 255 "u8" ⟨lettersDocument n, Position.start⟩).bind _).bind _ = _
  rw [hnumber]
  rfl

end Json

namespace Outcome

/-- No bound holds for the errors of all bodies: a long text in place of a number is quoted. -/
theorem error_texts_grow :
    ¬ ∃ bound, ∀ (o : Outcome) (shape : Json.Shape) (e : Error),
      o.json shape = .error e → e.message.length ≤ bound := by
  rintro ⟨bound, hall⟩
  -- One letter more than the bound, where a number was expected.
  obtain ⟨p, hdecode⟩ := Json.decode_letters (bound + 1)
  have hjson : (answered (Json.lettersDocument (bound + 1))).json .byte = .error (.deserialize
      ⟨.invalidType (.string (Json.letters (bound + 1))) "u8", p⟩
      (Excerpt.ofBody (Json.lettersDocument (bound + 1)))) := by
    simp only [json, answered, hdecode]
  have hbound := hall _ _ _ hjson
  have hheld := Error.quotedLength_le
    ⟨.invalidType (.string (Json.letters (bound + 1))) "u8", p⟩
    (Excerpt.ofBody (Json.lettersDocument (bound + 1)))
  have hquoted := Quoted.length_le (Json.letters (bound + 1))
  have hletters : (Json.letters (bound + 1)).length = bound + 1 := by
    rw [Json.letters, String.length_ofList, List.length_replicate]
  rw [Json.Fault.quoted?, Json.Found.quoted?, quotedLength] at hheld
  omega

end Outcome

end Replicast
