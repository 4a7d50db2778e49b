import Mathlib.Tactic
import RateCard.Proofs.Bind
import RateCard.Proofs.Json.Grammar
import RateCard.Proofs.Text.WellFormed

/-!
# Strings that are read are spelled

The scanner gathers bytes and decodes them at the end. If they are the encoding of a text, every
escape and every byte that stands for itself falls within one of its characters, since an escape
starts with no continuation byte. So the body of a string is cut into spelled characters by
induction on the text.
-/
namespace RateCard.Json.Scan
open RateCard.Text Grammar Utf8

/-! ## Escapes -/

theorem spelled_hexUnit {s rest : Bytes} {u : Nat} (h : hexUnit s = .ok (u, rest)) :
    ∃ bytes, HexText u bytes ∧ s = bytes ++ rest := by
  unfold hexUnit at h
  split at h
  · split at h
    · next ha hb hc hd =>
      cases h
      exact ⟨_, .mk ha hb hc hd, rfl⟩
    · cases h
  · cases h

/-- A trail unit is spelled by a second escape. -/
theorem spelled_surrogatePair {lead : Nat} {s rest : Bytes} {c : Char}
    (h : surrogatePair lead s = .ok (c, rest)) :
    ∃ trail bytes, HexText trail bytes ∧ isTrailUnit trail = true ∧
      s = 92 :: 117 :: bytes ++ rest ∧
      c = Char.ofNat (0x10000 + (lead - 0xD800) * 0x400 + (trail - 0xDC00)) := by
  unfold surrogatePair at h
  split at h
  · cases h
  split_ifs at h with hslash
  · split at h
    · cases h
    split_ifs at h with hu
    · obtain ⟨⟨trail, s'⟩, hunit, h⟩ := bind_eq_ok.1 h
      simp only at h
      split_ifs at h with htrail
      · rw [Except.ok.injEq, Prod.mk.injEq] at h
        obtain ⟨bytes, hbytes, hs⟩ := spelled_hexUnit hunit
        exact ⟨trail, bytes, hbytes, htrail, by rw [hslash, hu, hs, h.2]; rfl, h.1.symm⟩
      · cases h
    · cases h
  · cases h

theorem spelled_unicodeEscape {s rest : Bytes} {c : Char} (h : unicodeEscape s = .ok (c, rest)) :
    ∃ bytes, CharText c (92 :: 117 :: bytes) ∧ s = bytes ++ rest := by
  obtain ⟨⟨unit, s'⟩, hunit, h⟩ := bind_eq_ok.1 h
  obtain ⟨bytes, hbytes, hs⟩ := spelled_hexUnit hunit
  simp only at h
  split_ifs at h with htrail hlead
  · cases h
  · obtain ⟨trail, bytes', hbytes', htrail', hs', hc⟩ := spelled_surrogatePair h
    refine ⟨bytes ++ 92 :: 117 :: bytes', ?_, by simp [hs, hs']⟩
    rw [hc]
    exact .pair hbytes hbytes' hlead htrail'
  · cases h
    exact ⟨bytes, .unit hbytes (Bool.eq_false_iff.2 hlead) (Bool.eq_false_iff.2 htrail), hs⟩

theorem spelled_escape {s rest : Bytes} {c : Char} (h : escape s = .ok (c, rest)) :
    ∃ letters, CharText c (92 :: letters) ∧ s = letters ++ rest := by
  unfold escape at h
  split at h
  · cases h
  next b s =>
  have short {letter : UInt8} {d : Char} (hmem : (letter, d) ∈ shortEscapes) (hb : b = letter)
      (h : Except.ok (ε := Stop) (d, s) = .ok (c, rest)) :
      ∃ letters, CharText c (92 :: letters) ∧ b :: s = letters ++ rest := by
    cases h
    exact ⟨[letter], .short hmem, by rw [hb]; rfl⟩
  split_ifs at h with h34 h92 h47 h98 h102 h110 h114 h116 hu
  · exact short (by decide) h34 h
  · exact short (by decide) h92 h
  · exact short (by decide) h47 h
  · exact short (by decide) h98 h
  · exact short (by decide) h102 h
  · exact short (by decide) h110 h
  · exact short (by decide) h114 h
  · exact short (by decide) h116 h
  · obtain ⟨bytes, hc, hs⟩ := spelled_unicodeEscape h
    exact ⟨117 :: bytes, hc, by rw [hu, hs]; rfl⟩
  · cases h

/-! ## Bodies -/

/-- The three ways in which the scanner goes on. -/
theorem stringBytes_cases {steps : Nat} {s rest bs : Bytes}
    (h : stringBytes steps s = .ok (bs, rest)) :
    s = 34 :: rest ∧ bs = [] ∨
      (∃ c letters s' bs' left, CharText c (92 :: letters) ∧ s = 92 :: letters ++ s' ∧
        bs = String.utf8EncodeChar c ++ bs' ∧ stringBytes left s' = .ok (bs', rest)) ∨
      ∃ b s' bs' left, 32 ≤ b ∧ b ≠ 34 ∧ b ≠ 92 ∧ s = b :: s' ∧ bs = b :: bs' ∧
        stringBytes left s' = .ok (bs', rest) := by
  unfold stringBytes at h
  split at h
  · cases h
  · cases h
  next left b s =>
  split_ifs at h with hquote hslash hlow
  · cases h
    exact .inl ⟨by rw [hquote], rfl⟩
  · obtain ⟨⟨c, s₁⟩, hescape, h⟩ := bind_eq_ok.1 h
    obtain ⟨⟨bs', s₂⟩, hread, h⟩ := bind_eq_ok.1 h
    rw [Except.ok.injEq, Prod.mk.injEq] at h
    obtain ⟨letters, hc, hs⟩ := spelled_escape hescape
    refine .inr (.inl ⟨c, letters, s₁, bs', left, hc, by rw [hslash, hs]; rfl, h.1.symm, ?_⟩)
    rw [hread, h.2]
  · cases h
  · obtain ⟨⟨bs', s₁⟩, hread, h⟩ := bind_eq_ok.1 h
    rw [Except.ok.injEq, Prod.mk.injEq] at h
    have hb : 32 ≤ b := by
      rw [UInt8.le_iff_toNat_le]
      rw [UInt8.lt_iff_toNat_lt] at hlow
      omega
    refine .inr (.inr ⟨b, s, bs', left, hb, hquote, hslash, rfl, h.1.symm, ?_⟩)
    rw [hread, h.2]

/-- Continuation bytes stand for themselves. -/
theorem stringBytes_continuation {tl : Bytes} (htl : ∀ t ∈ tl, IsContinuation t) {steps : Nat}
    {s rest bs : Bytes} (h : stringBytes steps s = .ok (tl ++ bs, rest)) :
    ∃ left s', s = tl ++ s' ∧ stringBytes left s' = .ok (bs, rest) := by
  induction tl generalizing steps s with
  | nil => exact ⟨steps, s, rfl, h⟩
  | cons t tl ih =>
    rcases stringBytes_cases h with ⟨-, hnil⟩ | ⟨c, letters, s', bs', left, -, -, hbs, -⟩ |
      ⟨b, s', bs', left, -, -, -, rfl, hbs, hread⟩
    · cases hnil
    · obtain ⟨first, others, hc, hfirst, -⟩ := encodeChar_eq_cons c
      rw [hc] at hbs
      exact absurd (List.cons.inj hbs).1 fun he => hfirst (he ▸ htl t (by simp))
    · obtain ⟨rfl, rfl⟩ := List.cons.inj hbs
      obtain ⟨left', s'', rfl, hread'⟩ := ih (fun t ht => htl t (by simp [ht])) hread
      exact ⟨left', s'', rfl, hread'⟩

/-- A character whose first byte stands for itself stands for itself. -/
theorem charText_of_first {c : Char} {b : UInt8} {tl : Bytes}
    (hc : String.utf8EncodeChar c = b :: tl) (hlow : 32 ≤ b) (hquote : b ≠ 34) (hslash : b ≠ 92) :
    CharText c (String.utf8EncodeChar c) := by
  rw [UInt8.le_iff_toNat_le] at hlow
  have hne {d : Char} (hd : d.toNat < 128) (hb : b ≠ UInt8.ofNat d.toNat) : c ≠ d := by
    rintro rfl
    rw [encodeChar_ascii hd] at hc
    exact hb (List.cons.inj hc).1.symm
  refine .plain ?_ (hne (by decide) hquote) (hne (by decide) hslash)
  by_contra hsmall
  rw [encodeChar_ascii (by omega)] at hc
  rw [← (List.cons.inj hc).1, UInt8.toNat_ofNat_of_lt' (by rw [UInt8.size]; omega)] at hlow
  exact hsmall hlow

theorem spelled_stringBytes {cs : List Char} {steps : Nat} {s rest : Bytes}
    (h : stringBytes steps s = .ok (encode cs, rest)) :
    ∃ body, BodyText cs body ∧ s = body ++ 34 :: rest := by
  induction cs generalizing steps s with
  | nil =>
    rcases stringBytes_cases h with ⟨hs, -⟩ | ⟨c, letters, s', bs', left, -, -, hbs, -⟩ |
      ⟨b, s', bs', left, -, -, -, -, hbs, -⟩
    · exact ⟨[], .nil, hs⟩
    · obtain ⟨first, others, hc, -⟩ := encodeChar_eq_cons c
      rw [hc] at hbs
      cases hbs
    · cases hbs
  | cons c cs ih =>
    obtain ⟨first, tl, hc, -, htl⟩ := encodeChar_eq_cons c
    rw [encode_cons] at h
    rcases stringBytes_cases h with ⟨-, hbs⟩ | ⟨d, letters, s', bs', left, hd, rfl, hbs, hread⟩ |
      ⟨b, s', bs', left, hlow, hquote, hslash, rfl, hbs, hread⟩
    · rw [hc] at hbs
      cases hbs
    · obtain ⟨rfl, rfl⟩ := encodeChar_append_inj hbs.symm
      obtain ⟨body, hbody, rfl⟩ := ih hread
      exact ⟨92 :: letters ++ body, .cons hd hbody, by simp⟩
    · rw [hc] at hbs
      obtain ⟨rfl, rfl⟩ := List.cons.inj hbs
      obtain ⟨left', s'', rfl, hread'⟩ := stringBytes_continuation htl hread
      obtain ⟨body, hbody, rfl⟩ := ih hread'
      refine ⟨String.utf8EncodeChar c ++ body,
        .cons (charText_of_first hc hlow hquote hslash) hbody, ?_⟩
      rw [hc]
      simp

theorem spelled_string {s rest : Bytes} {text : String} (h : string s = .ok (text, rest)) :
    ∃ body, StringText text (34 :: body) ∧ s = body ++ rest := by
  obtain ⟨⟨bs, s'⟩, hread, h⟩ := bind_eq_ok.1 h
  simp only at h
  split at h
  · next cs hcs =>
    cases h
    rw [decode_eq_some_iff.1 hcs] at hread
    obtain ⟨body, hbody, rfl⟩ := spelled_stringBytes hread
    exact ⟨body ++ [34], by simpa using StringText.mk hbody, by simp⟩
  · cases h

end RateCard.Json.Scan
