import Mathlib.Tactic
import RateCard.Proofs.Bind
import RateCard.Proofs.Json.Grammar
import RateCard.Proofs.Text.Utf8

/-!
# Strings are read back

One lemma for each way to spell a character: the scanner gathers the encoding of the character. A
whole body is then gathered as an encoded text, which decodes to that text.
-/
namespace RateCard.Json.Scan
open RateCard.Text Grammar

/-- The gathered bytes with more in front. -/
def prepend (front : Bytes) (result : Except Stop (Bytes × Bytes)) : Except Stop (Bytes × Bytes) :=
  result.map fun (bytes, rest) => (front ++ bytes, rest)

theorem bind_prepend (front : Bytes) (result : Except Stop (Bytes × Bytes)) :
    (result >>= fun r => Except.ok (front ++ r.1, r.2)) = prepend front result := by
  cases result <;> rfl

theorem stringBytes_plain {bytes : Bytes} (h : ∀ b ∈ bytes, 32 ≤ b ∧ b ≠ 34 ∧ b ≠ 92)
    (steps : Nat) (s : Bytes) :
    stringBytes (bytes.length + steps) (bytes ++ s) = prepend bytes (stringBytes steps s) := by
  induction bytes with
  | nil =>
    simp only [List.length_nil, Nat.zero_add, List.nil_append]
    cases stringBytes steps s <;> rfl
  | cons b bytes ih =>
    obtain ⟨hlow, hquote, hslash⟩ := h b (by simp)
    have hlow' : ¬ b < 32 := by
      rw [UInt8.lt_iff_toNat_lt]
      have := UInt8.le_iff_toNat_le.1 hlow
      omega
    have hrest := ih fun b hb => h b (by simp [hb])
    rw [List.length_cons, Nat.add_right_comm, List.cons_append, stringBytes, if_neg hquote,
      if_neg hslash, if_neg hlow', hrest]
    cases stringBytes steps s <;> rfl

/-- A whole escape takes one step, however many bytes it has. -/
theorem stringBytes_escape {letters s : Bytes} {c : Char}
    (h : escape (letters ++ s) = .ok (c, s)) {steps : Nat}
    (hs : (92 :: letters).length ≤ steps) :
    ∃ left, steps - (92 :: letters).length ≤ left ∧
      stringBytes steps (92 :: letters ++ s) =
        prepend (String.utf8EncodeChar c) (stringBytes left s) := by
  rw [List.length_cons] at hs ⊢
  obtain ⟨left, rfl⟩ : ∃ left, steps = left + 1 := ⟨steps - 1, by omega⟩
  refine ⟨left, by omega, ?_⟩
  rw [List.cons_append, stringBytes, if_neg (by decide), if_pos rfl, h]
  exact bind_prepend _ _

theorem hexUnit_text {u : Nat} {bytes : Bytes} (text : HexText u bytes) (rest : Bytes) :
    hexUnit (bytes ++ rest) = .ok (u, rest) := by
  cases text with
  | mk ha hb hc hd => simp [hexUnit, ha, hb, hc, hd]

theorem escape_short {letter : UInt8} {c : Char} (h : (letter, c) ∈ shortEscapes) (rest : Bytes) :
    escape (letter :: rest) = .ok (c, rest) := by
  simp only [shortEscapes, List.mem_cons, Prod.mk.injEq, List.not_mem_nil, or_false] at h
  rcases h with h | h | h | h | h | h | h | h <;> obtain ⟨rfl, rfl⟩ := h <;> rfl

theorem escape_unit {u : Nat} {bytes : Bytes} (text : HexText u bytes)
    (hlead : isLeadUnit u = false) (htrail : isTrailUnit u = false) (rest : Bytes) :
    escape (117 :: bytes ++ rest) = .ok (Char.ofNat u, rest) := by
  change unicodeEscape (bytes ++ rest) = _
  rw [unicodeEscape, hexUnit_text text rest]
  simp [hlead, htrail]

theorem escape_pair {lead trail : Nat} {bytes bytes' : Bytes} (hl : HexText lead bytes)
    (ht : HexText trail bytes') (hlead : isLeadUnit lead = true)
    (htrail : isTrailUnit trail = true) (rest : Bytes) :
    escape (117 :: bytes ++ 92 :: 117 :: bytes' ++ rest) =
      .ok (Char.ofNat (0x10000 + (lead - 0xD800) * 0x400 + (trail - 0xDC00)), rest) := by
  have hnot : isTrailUnit lead = false := by
    simp only [isLeadUnit, isTrailUnit, Bool.and_eq_true, decide_eq_true_eq] at hlead ⊢
    simp
    omega
  have hpair : surrogatePair lead (92 :: 117 :: bytes' ++ rest) =
      .ok (Char.ofNat (0x10000 + (lead - 0xD800) * 0x400 + (trail - 0xDC00)), rest) := by
    simp [surrogatePair, hexUnit_text ht rest, htrail]
  change unicodeEscape (bytes ++ 92 :: 117 :: bytes' ++ rest) = _
  rw [List.append_assoc, unicodeEscape, hexUnit_text hl]
  simpa [hlead, hnot] using hpair

theorem plain_bytes {c : Char} (hlow : 32 ≤ c.toNat) (hquote : c ≠ '"') (hslash : c ≠ '\\') :
    ∀ b ∈ String.utf8EncodeChar c, 32 ≤ b ∧ b ≠ 34 ∧ b ≠ 92 := by
  intro b hb
  simp only [UInt8.le_iff_toNat_le, ne_eq, ← UInt8.toNat_inj]
  by_cases hc : c.toNat < 128
  · rw [Utf8.encodeChar_ascii hc, List.mem_singleton] at hb
    have hn : b.toNat = c.toNat := by
      rw [hb]
      exact UInt8.toNat_ofNat_of_lt' (by rw [UInt8.size]; omega)
    refine ⟨by simpa [hn] using hlow, fun h => hquote ?_, fun h => hslash ?_⟩
    · exact Char.toNat_inj.1 (hn ▸ h)
    · exact Char.toNat_inj.1 (hn ▸ h)
  · have := Utf8.le_of_mem_encodeChar (by omega) hb
    refine ⟨?_, ?_, ?_⟩ <;> simp <;> omega

/-- Whichever way a character is spelled, the scanner gathers its encoding, in at most as many
steps as bytes. -/
theorem stringBytes_char {c : Char} {bytes : Bytes} (text : CharText c bytes) (s : Bytes)
    {steps : Nat} (h : bytes.length ≤ steps) :
    ∃ left, steps - bytes.length ≤ left ∧
      stringBytes steps (bytes ++ s) =
        prepend (String.utf8EncodeChar c) (stringBytes left s) := by
  cases text with
  | plain hlow hquote hslash =>
    refine ⟨steps - (String.utf8EncodeChar c).length, le_rfl, ?_⟩
    rw [← stringBytes_plain (plain_bytes hlow hquote hslash), Nat.add_sub_cancel' h]
  | short hmem => exact stringBytes_escape (escape_short hmem s) h
  | unit hu hlead htrail => exact stringBytes_escape (escape_unit hu hlead htrail s) h
  | pair hl ht hlead htrail => exact stringBytes_escape (escape_pair hl ht hlead htrail s) h

theorem stringBytes_body {cs : List Char} {bytes : Bytes} (text : BodyText cs bytes)
    (rest : Bytes) {steps : Nat} (h : bytes.length < steps) :
    stringBytes steps (bytes ++ 34 :: rest) = .ok (Utf8.encode cs, rest) := by
  induction text generalizing steps with
  | nil =>
    obtain ⟨left, rfl⟩ : ∃ left, steps = left + 1 := ⟨steps - 1, by simp at h; omega⟩
    rfl
  | @cons c cs bytes more hc _ ih =>
    rw [List.length_append] at h
    obtain ⟨left, hleft, hread⟩ :=
      stringBytes_char hc (more ++ 34 :: rest) (by omega : bytes.length ≤ steps)
    rw [List.append_assoc, hread, ih (by omega)]
    rfl

theorem string_text {text : String} {bytes : Bytes} (h : StringText text bytes) (rest : Bytes) :
    ∃ body, bytes = 34 :: body ∧ string (body ++ rest) = .ok (text, rest) := by
  cases h with
  | @mk cs body hbody =>
    refine ⟨body ++ [34], rfl, ?_⟩
    have hsteps : body.length < (body ++ 34 :: rest).length := by simp
    have hread := stringBytes_body hbody rest hsteps
    rw [List.append_assoc, List.singleton_append, string, hread, ok_bind]
    simp only [Utf8.decode_encode]

end RateCard.Json.Scan
