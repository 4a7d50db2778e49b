import Mathlib.Tactic
import RateCard.CommandLine.Seconds

/-!
# Which texts are numbers of seconds

A text is read as a number of seconds exactly if it writes one in decimal digits that lies between 1
and the greatest number of 64 bits.
-/
namespace RateCard.CommandLine.Seconds

/-- Decimal digits of this number, of which the first ones may be zeros, behind a plus sign or
not. -/
def Writes (text : String) (n : Nat) : Prop :=
  ∃ digits, (text.toList = digits ∨ text.toList = '+' :: digits) ∧ digits ≠ [] ∧
    (∀ c ∈ digits, c.isDigit = true) ∧ Nat.ofDigitChars 10 digits 0 = n

theorem le_ofDigitChars (digits : List Char) (n : Nat) : n ≤ Nat.ofDigitChars 10 digits n := by
  rw [Nat.ofDigitChars_eq_ofDigitChars_zero]
  exact (Nat.le_mul_of_pos_left n (by positivity)).trans (Nat.le_add_right _ _)

/-- Digits are read to the end unless the number grows too large on the way. -/
theorem readFrom_eq_ok {n m : Nat} (hn : n ≤ maxSeconds) {digits : List Char} :
    readFrom n digits = .ok m ↔
      (∀ c ∈ digits, c.isDigit = true) ∧ Nat.ofDigitChars 10 digits n = m ∧ m ≤ maxSeconds := by
  induction digits generalizing n with
  | nil =>
    simp only [readFrom, Except.ok.injEq, List.not_mem_nil, false_implies, implies_true,
      Nat.ofDigitChars_nil, true_and]
    exact ⟨fun h => ⟨h, h ▸ hn⟩, fun h => h.1⟩
  | cons c rest ih =>
    rw [readFrom, Nat.ofDigitChars_cons, List.forall_mem_cons, Nat.mul_comm n 10]
    by_cases hdigit : c.isDigit = true
    · simp only [hdigit, Bool.not_true, Bool.false_eq_true, if_false, true_and]
      by_cases hlarge : maxSeconds < 10 * n + (c.toNat - '0'.toNat)
      · have hle := le_ofDigitChars rest (10 * n + (c.toNat - '0'.toNat))
        rw [if_pos hlarge]
        simp only [reduceCtorEq, false_iff, not_and]
        intro _ hm
        omega
      · rw [if_neg hlarge, ih (by omega)]
    · simp [hdigit]

theorem read_eq_ok {n : Nat} {text : List Char} : read text = .ok n ↔
    (∃ digits, (text = digits ∨ text = '+' :: digits) ∧ digits ≠ [] ∧
      (∀ c ∈ digits, c.isDigit = true) ∧ Nat.ofDigitChars 10 digits 0 = n) ∧ n ≤ maxSeconds := by
  have hplus (digits : List Char) : ¬ ∀ c ∈ '+' :: digits, c.isDigit = true := by
    intro h
    exact absurd (h '+' List.mem_cons_self) (by decide)
  unfold read
  split
  · simp
  · simp
  next digits hne =>
    rw [readFrom_eq_ok (Nat.zero_le _)]
    constructor
    · rintro ⟨hdigits, hn, hmax⟩
      exact ⟨⟨digits, .inr rfl, hne, hdigits, hn⟩, hmax⟩
    · rintro ⟨⟨digits', rfl | heq, -, hdigits, hn⟩, hmax⟩
      · exact absurd hdigits (hplus digits)
      · rw [← (List.cons.inj heq).2] at hdigits hn
        exact ⟨hdigits, hn, hmax⟩
  next digits hnil _ hnplus =>
    rw [readFrom_eq_ok (Nat.zero_le _)]
    constructor
    · rintro ⟨hdigits, hn, hmax⟩
      exact ⟨⟨text, .inl rfl, hnil, hdigits, hn⟩, hmax⟩
    · rintro ⟨⟨digits', rfl | heq, -, hdigits, hn⟩, hmax⟩
      · exact ⟨hdigits, hn, hmax⟩
      · exact absurd heq (hnplus digits')

theorem ofString_eq_ok {text : String} {n : Nat} :
    ofString text = .ok n ↔ Writes text n ∧ 1 ≤ n ∧ n ≤ maxSeconds := by
  have hread (m : Nat) : read text.toList = .ok m ↔ Writes text m ∧ m ≤ maxSeconds := read_eq_ok
  rw [ofString]
  split
  next fault hfault =>
    simp only [reduceCtorEq, false_iff, not_and]
    intro hwrites _ hmax
    cases hfault.symm.trans ((hread n).2 ⟨hwrites, hmax⟩)
  next hzero =>
    simp only [reduceCtorEq, false_iff, not_and]
    intro hwrites hpos hmax
    have := Except.ok.inj (hzero.symm.trans ((hread n).2 ⟨hwrites, hmax⟩))
    omega
  next m hpos hm =>
    rw [Except.ok.injEq]
    constructor
    · rintro rfl
      obtain ⟨hwrites, hmax⟩ := (hread m).1 hm
      exact ⟨hwrites, Nat.pos_of_ne_zero hpos, hmax⟩
    · rintro ⟨hwrites, -, hmax⟩
      exact Except.ok.inj (hm.symm.trans ((hread n).2 ⟨hwrites, hmax⟩))

end RateCard.CommandLine.Seconds
