import Mathlib.Tactic
import RateCard.Proofs.Bind
import RateCard.Proofs.Json.Grammar

/-!
# Numbers are read back

The scanner takes a spelled number to the number, as long as what stands behind it does not prolong
it. Every part of a literal has its lemma; the last one puts them together.
-/
namespace RateCard.Json.Scan
open RateCard.Text Grammar

/-- What stands behind a number does not prolong it. -/
def EndsNumeral (rest : Bytes) : Prop :=
  ∀ b ∈ rest.head?, digit? b = none ∧ b ≠ 46 ∧ b ≠ 101 ∧ b ≠ 69

theorem endsNumeral_nil : EndsNumeral [] := by simp [EndsNumeral]

theorem endsNumeral_cons {b : UInt8} {rest : Bytes} :
    EndsNumeral (b :: rest) ↔ digit? b = none ∧ b ≠ 46 ∧ b ≠ 101 ∧ b ≠ 69 := by
  simp [EndsNumeral]

@[simp] theorem digit?_digitByte (d : Digit) : digit? (digitByte d) = some d := by
  revert d
  decide

theorem digits_digitBytes (ds : List Digit) {rest : Bytes}
    (h : ∀ b ∈ rest.head?, digit? b = none) : digits (digitBytes ds ++ rest) = (ds, rest) := by
  induction ds with
  | nil =>
    cases rest with
    | nil => rfl
    | cons b rest => simp [digitBytes, digits, h b rfl]
  | cons d ds ih =>
    change digits (digitByte d :: (digitBytes ds ++ rest)) = _
    simp [digits, ih]

theorem wholePart_digitBytes (whole : Whole) {rest : Bytes}
    (h : ∀ b ∈ rest.head?, digit? b = none) :
    wholePart (digitBytes whole.digits ++ rest) = .ok (whole, rest) := by
  cases whole with
  | zero =>
    have h0 : digit? 48 = some 0 := by decide
    cases rest with
    | nil => rfl
    | cons b rest =>
      change wholePart (48 :: b :: rest) = _
      simp [wholePart, h0, h b rfl]
  | leading first more =>
    obtain ⟨n, hn⟩ := first
    change wholePart (digitByte ⟨n + 1, Nat.succ_lt_succ hn⟩ :: (digitBytes more ++ rest)) = _
    simp only [wholePart, digit?_digitByte, digits_digitBytes more h]

theorem fractionPart_text {fraction : List Digit} {bytes : Bytes}
    (text : FractionText fraction bytes) {rest : Bytes}
    (h : ∀ b ∈ rest.head?, digit? b = none ∧ b ≠ 46) :
    fractionPart (bytes ++ rest) = .ok (fraction, rest) := by
  cases text with
  | none =>
    cases rest with
    | nil => rfl
    | cons b rest => simp [fractionPart, (h b rfl).2]
  | some hne =>
    obtain ⟨d, ds, rfl⟩ := List.exists_cons_of_ne_nil hne
    simp only [List.cons_append, fractionPart, if_true,
      digits_digitBytes (d :: ds) (fun b hb => (h b hb).1)]

theorem exponentSign_text {negative : Bool} {sign : Bytes} (text : SignText negative sign)
    {b : UInt8} (h : (digit? b).isSome) (rest : Bytes) :
    exponentSign (sign ++ b :: rest) = (negative, b :: rest) := by
  have h45 : b ≠ 45 := by rintro rfl; simp [digit?] at h
  have h43 : b ≠ 43 := by rintro rfl; simp [digit?] at h
  cases text <;> simp [exponentSign, h45, h43]

theorem exponentPart_text {exponent : Option Exponent} {bytes : Bytes}
    (text : ExponentText exponent bytes) {rest : Bytes} (h : EndsNumeral rest) :
    exponentPart (bytes ++ rest) = .ok (exponent, rest) := by
  cases text with
  | none =>
    cases rest with
    | nil => rfl
    | cons b rest =>
      obtain ⟨-, -, he, hE⟩ := endsNumeral_cons.1 h
      simp [exponentPart, he, hE]
  | @some mark negative sign first more hmark hsign =>
    have hs := exponentSign_text hsign (b := digitByte first) (by simp) (digitBytes more ++ rest)
    have hd := digits_digitBytes more (fun b hb => (h b hb).1)
    change exponentPart (mark :: sign ++ digitByte first :: digitBytes more ++ rest) = _
    simp only [List.cons_append, List.append_assoc, exponentPart, if_pos hmark, hs,
      digit?_digitByte, hd]

/-- The head of a fraction, or of what follows a number without one, prolongs no digits. -/
theorem head_fraction {fraction : List Digit} {bytes rest : Bytes}
    (text : FractionText fraction bytes) (h : ∀ b ∈ rest.head?, digit? b = none) :
    ∀ b ∈ (bytes ++ rest).head?, digit? b = none := by
  cases text with
  | none => simpa using h
  | some _ => simp [digit?]

theorem head_exponent {exponent : Option Exponent} {bytes rest : Bytes}
    (text : ExponentText exponent bytes) (h : EndsNumeral rest) :
    ∀ b ∈ (bytes ++ rest).head?, digit? b = none ∧ b ≠ 46 := by
  cases text with
  | none => exact fun b hb => ⟨(h b hb).1, (h b hb).2.1⟩
  | some hmark _ => rcases hmark with rfl | rfl <;> simp [digit?]

theorem unsigned_text (negative : Bool) (whole : Whole) {fraction : List Digit}
    {exponent : Option Exponent} {fractionBytes exponentBytes rest : Bytes}
    (hf : FractionText fraction fractionBytes) (he : ExponentText exponent exponentBytes)
    (h : EndsNumeral rest) :
    unsigned negative (digitBytes whole.digits ++ (fractionBytes ++ (exponentBytes ++ rest))) =
      .ok (⟨negative, whole, fraction, exponent⟩, rest) := by
  have hw := wholePart_digitBytes whole (head_fraction hf fun b hb => (head_exponent he h b hb).1)
  simp only [unsigned, hw, ok_bind, fractionPart_text hf (head_exponent he h),
    exponentPart_text he h]

theorem digitBytes_digits_head (whole : Whole) :
    ∃ d ds, digitBytes whole.digits = digitByte d :: ds := by
  cases whole <;> exact ⟨_, _, rfl⟩

theorem digitByte_ne_minus (d : Digit) : digitByte d ≠ 45 := by
  revert d
  decide

theorem numeral_text {n : Numeral} {bytes : Bytes} (text : NumeralText n bytes) {rest : Bytes}
    (h : EndsNumeral rest) : numeral (bytes ++ rest) = .ok (n, rest) := by
  cases text with
  | @mk negative whole _ _ _ _ hf he =>
    have hu := unsigned_text negative whole hf he h
    cases negative with
    | false =>
      obtain ⟨d, ds, hd⟩ := digitBytes_digits_head whole
      simp only [Bool.false_eq_true, if_false, List.nil_append, List.append_assoc] at hu ⊢
      rw [hd] at hu ⊢
      simpa [numeral, digitByte_ne_minus] using hu
    | true => simpa [numeral] using hu

/-- A number starts with a minus or a digit. -/
theorem numeralText_start {n : Numeral} {bytes : Bytes} (text : NumeralText n bytes) :
    ∃ b tl, bytes = b :: tl ∧ startsNumeral b = true := by
  cases text with
  | @mk negative whole _ _ _ _ _ _ =>
    cases negative with
    | false =>
      obtain ⟨d, ds, hd⟩ := digitBytes_digits_head whole
      exact ⟨digitByte d, _, by simp only [hd]; rfl, by simp [startsNumeral]⟩
    | true => exact ⟨45, _, rfl, by decide⟩

end RateCard.Json.Scan
