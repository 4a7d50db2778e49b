import Mathlib.Tactic
import RateCard.Proofs.Bind
import RateCard.Proofs.Json.Grammar

/-!
# Numbers that are read are spelled

What the scanner takes from a text spells the number that it gives. Every part of a literal has its
lemma, as for reading spelled numbers back.
-/
namespace RateCard.Json.Scan
open RateCard.Text Grammar

theorem digitByte_of_digit? {b : UInt8} {d : Digit} (h : digit? b = some d) : digitByte d = b := by
  rw [digit?] at h
  split_ifs at h with hb
  rw [Option.some.injEq] at h
  rw [← h, digitByte, show 48 + (b.toNat - 48) = b.toNat by omega, UInt8.ofNat_toNat]

theorem spelled_digits (s : Bytes) : s = digitBytes (digits s).1 ++ (digits s).2 := by
  induction s with
  | nil => rfl
  | cons b s ih =>
    rw [digits]
    cases hd : digit? b with
    | none => rfl
    | some d =>
      change b :: s = digitByte d :: (digitBytes (digits s).1 ++ (digits s).2)
      rw [← ih, digitByte_of_digit? hd]

theorem spelled_wholePart {s rest : Bytes} {whole : Whole} (h : wholePart s = .ok (whole, rest)) :
    s = digitBytes whole.digits ++ rest := by
  unfold wholePart at h
  split at h
  · cases h
  · next b s =>
    split at h
    · cases h
    · next hzero =>
      have hb : b = 48 := (digitByte_of_digit? hzero).symm
      split at h
      · cases h
        rw [hb]
        rfl
      · split_ifs at h
        · cases h
        · cases h
          rw [hb]
          rfl
    · next n hn hdigit =>
      cases h
      rw [← digitByte_of_digit? hdigit]
      exact congrArg _ (spelled_digits s)

theorem spelled_fractionPart {s rest : Bytes} {fraction : List Digit}
    (h : fractionPart s = .ok (fraction, rest)) :
    ∃ bytes, FractionText fraction bytes ∧ s = bytes ++ rest := by
  unfold fractionPart at h
  split at h
  · cases h
    exact ⟨[], .none, rfl⟩
  · next b s =>
    split_ifs at h with hpoint
    · have hs := spelled_digits s
      split at h
      · cases h
      · cases h
      · next ds rest' hne hds =>
        cases h
        rw [hds] at hs
        refine ⟨46 :: digitBytes fraction, .some fun hnil => ?_, by rw [hpoint, hs]; rfl⟩
        subst hnil
        cases rest with
        | nil => exact hne rfl
        | cons => simp_all
    · cases h
      exact ⟨[], .none, rfl⟩

theorem spelled_exponentSign (s : Bytes) :
    ∃ sign, SignText (exponentSign s).1 sign ∧ s = sign ++ (exponentSign s).2 := by
  cases s with
  | nil => exact ⟨[], .none, rfl⟩
  | cons b s =>
    rw [exponentSign]
    split_ifs with hminus hplus
    · exact ⟨[45], .minus, by rw [hminus]; rfl⟩
    · exact ⟨[43], .plus, by rw [hplus]; rfl⟩
    · exact ⟨[], .none, rfl⟩

theorem spelled_exponentPart {s rest : Bytes} {exponent : Option Exponent}
    (h : exponentPart s = .ok (exponent, rest)) :
    ∃ bytes, ExponentText exponent bytes ∧ s = bytes ++ rest := by
  unfold exponentPart at h
  split at h
  · cases h
    exact ⟨[], .none, rfl⟩
  · next mark s =>
    split_ifs at h with hmark
    · obtain ⟨sign, hsign, hs⟩ := spelled_exponentSign s
      simp only at h
      split at h
      · cases h
      · next c s' hs' =>
        split at h
        · cases h
        · next d hd =>
          cases h
          refine ⟨_, .some hmark hsign, ?_⟩
          rw [hs, hs', ← digitByte_of_digit? hd]
          change _ = mark :: sign ++ (digitByte d :: digitBytes (digits s').1) ++ (digits s').2
          conv_lhs => rw [spelled_digits s']
          simp
    · cases h
      exact ⟨[], .none, rfl⟩

/-- The sign stands in front of what is scanned. -/
theorem spelled_unsigned {negative : Bool} {s rest : Bytes} {n : Numeral}
    (h : unsigned negative s = .ok (n, rest)) :
    ∃ bytes, NumeralText n ((if negative then [45] else []) ++ bytes) ∧ s = bytes ++ rest := by
  obtain ⟨⟨whole, s₁⟩, hwhole, h⟩ := bind_eq_ok.1 h
  obtain ⟨⟨fraction, s₂⟩, hfraction, h⟩ := bind_eq_ok.1 h
  obtain ⟨⟨exponent, s₃⟩, hexponent, h⟩ := bind_eq_ok.1 h
  cases h
  obtain ⟨fractionBytes, hf, hs₁⟩ := spelled_fractionPart hfraction
  obtain ⟨exponentBytes, he, hs₂⟩ := spelled_exponentPart hexponent
  refine ⟨digitBytes whole.digits ++ fractionBytes ++ exponentBytes, ?_, ?_⟩
  · simpa only [List.append_assoc] using NumeralText.mk hf he
  · rw [spelled_wholePart hwhole, hs₁, hs₂]
    simp only [List.append_assoc]

theorem spelled_numeral {s rest : Bytes} {n : Numeral} (h : numeral s = .ok (n, rest)) :
    ∃ bytes, NumeralText n bytes ∧ s = bytes ++ rest := by
  unfold numeral at h
  split at h
  · cases h
  · split_ifs at h with hminus
    · obtain ⟨bytes, hn, hs⟩ := spelled_unsigned h
      exact ⟨45 :: bytes, hn, by rw [hminus, hs]; rfl⟩
    · exact spelled_unsigned h

end RateCard.Json.Scan
