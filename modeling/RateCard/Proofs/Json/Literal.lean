import Mathlib.Tactic
import RateCard.Proofs.Json.Layout

/-!
# Number literals as they are written again

A literal is printed as it was read, but for its exponent: the mark becomes small and the sign is
written out. What a literal denotes is computed from its bytes here, exactly, so that the respelling
can be compared with the literal that was read and not with the number that was kept of it.
-/
namespace RateCard.Json.Literal
open RateCard.Text Grammar

/-- The mark in front of an exponent. -/
def isMark (b : UInt8) : Bool := b == 101 || b == 69

/-- An exponent with its sign written out. -/
def signed (exponent : Bytes) : Bytes :=
  if exponent.head? = some 43 ∨ exponent.head? = some 45 then exponent else 43 :: exponent

/-- The same literal with a small mark and a written sign in front of the exponent. -/
def respell : Bytes → Bytes
  | [] => []
  | b :: literal => if isMark b then 101 :: signed literal else b :: respell literal

/-! ## What a literal denotes -/

/-- The number that the digits of a text write; its other bytes are passed over. -/
def natural (text : Bytes) : Nat := Numeral.valueOf (text.filterMap digit?)

def integer (text : Bytes) : Int := if text.head? = some 45 then -natural text else natural text

/-- What stands in front of the exponent. -/
def mantissa (literal : Bytes) : Bytes := literal.takeWhile fun b => !isMark b

/-- What stands behind the mark of the exponent. -/
def exponent (literal : Bytes) : Bytes := (literal.dropWhile fun b => !isMark b).tail

/-- How many digits stand behind the point. -/
def decimals (mantissa : Bytes) : Nat := (mantissa.dropWhile (· != 46)).tail.length

/-- The rational number that a literal denotes. -/
def denoted (literal : Bytes) : ℚ :=
  integer (mantissa literal) *
    10 ^ (integer (exponent literal) - decimals (mantissa literal))

example : denoted (Utf8.ofString "-12.50E3") = -12500 := by decide +kernel

/-! ## Respelling -/

theorem respell_append {front : Bytes} (h : ∀ b ∈ front, isMark b = false) (literal : Bytes) :
    respell (front ++ literal) = front ++ respell literal := by
  induction front with
  | nil => rfl
  | cons b front ih =>
    rw [List.cons_append, respell, h b List.mem_cons_self,
      ih fun c hc => h c (List.mem_cons_of_mem b hc)]
    rfl

theorem isMark_small : isMark 101 = true := rfl

theorem mantissa_respell (literal : Bytes) : mantissa (respell literal) = mantissa literal := by
  induction literal with
  | nil => rfl
  | cons b literal ih =>
    rw [respell]
    cases hb : isMark b with
    | true => simp [mantissa, isMark_small, hb]
    | false => simpa [mantissa, hb] using ih

/-- A plus sign changes no integer. -/
theorem integer_signed (text : Bytes) : integer (signed text) = integer text := by
  rw [signed]
  split_ifs with h
  · rfl
  · push Not at h
    have hplus : digit? 43 = none := by decide
    simp [integer, natural, h.2, hplus]

theorem integer_exponent_respell (literal : Bytes) :
    integer (exponent (respell literal)) = integer (exponent literal) := by
  induction literal with
  | nil => rfl
  | cons b literal ih =>
    rw [respell]
    cases hb : isMark b with
    | true => simpa [exponent, isMark_small, hb] using integer_signed literal
    | false => simpa [exponent, hb] using ih

theorem denoted_respell (literal : Bytes) : denoted (respell literal) = denoted literal := by
  rw [denoted, denoted, mantissa_respell, integer_exponent_respell]

/-! ## Printed literals -/

theorem not_mark_digit : ∀ d : Digit, isMark (digitByte d) = false := by decide

theorem not_mark_digits (ds : List Digit) : ∀ b ∈ digitBytes ds, isMark b = false := by
  intro b hb
  obtain ⟨d, -, rfl⟩ := List.mem_map.1 hb
  exact not_mark_digit d

theorem head_digits (first : Digit) (more : List Digit) :
    ¬ ((digitBytes (first :: more)).head? = some 43 ∨
      (digitBytes (first :: more)).head? = some 45) := by
  have hdigit : ∀ d : Digit, digitByte d ≠ 43 ∧ digitByte d ≠ 45 := by decide
  simpa [digitBytes] using hdigit first

theorem respell_exponent {exponent : Option Exponent} {bytes : Bytes}
    (text : ExponentText exponent bytes) :
    respell bytes = Utf8.encode (Numeral.exponentChars exponent) := by
  cases text with
  | none => rfl
  | @some mark negative sign first more hmark hsign =>
    have hm : isMark mark = true := by rcases hmark with rfl | rfl <;> rfl
    have hsigned : signed (sign ++ digitBytes (first :: more)) =
        (if negative then 45 else 43) :: digitBytes (first :: more) := by
      cases hsign with
      | none => rw [List.nil_append, signed, if_neg (head_digits first more)]; rfl
      | plus => rfl
      | minus => rfl
    rw [List.cons_append, respell, hm, if_pos rfl, hsigned, Numeral.exponentChars,
      Utf8.encode_cons, Utf8.encode_cons, encode_digits]
    cases negative <;> rfl

theorem fraction_printed {fraction : List Digit} {bytes : Bytes}
    (text : FractionText fraction bytes) :
    bytes = Utf8.encode (Numeral.fractionChars fraction) ∧ ∀ b ∈ bytes, isMark b = false := by
  cases text with
  | none => exact ⟨rfl, fun b hb => nomatch hb⟩
  | some hne =>
    obtain ⟨d, ds, rfl⟩ := List.exists_cons_of_ne_nil hne
    refine ⟨?_, List.forall_mem_cons.2 ⟨rfl, not_mark_digits _⟩⟩
    rw [Numeral.fractionChars, Utf8.encode_cons, encode_digits]
    · rfl
    · exact hne

/-- A number is printed as the respelling of any literal of it. -/
theorem respell_text {n : Numeral} {literal : Bytes} (text : NumeralText n literal) :
    respell literal = Utf8.encode n.chars := by
  cases text with
  | @mk negative whole fraction exponent fractionBytes exponentBytes hfraction hexponent =>
    have hsign : ∀ b ∈ if negative then [45] else ([] : Bytes), isMark b = false := by
      cases negative with
      | false => exact fun b hb => nomatch hb
      | true => exact List.forall_mem_singleton.2 rfl
    obtain ⟨hprinted, hpoint⟩ := fraction_printed hfraction
    rw [List.append_assoc, List.append_assoc, respell_append hsign,
      respell_append (not_mark_digits _), respell_append hpoint, respell_exponent hexponent,
      Numeral.chars, Utf8.encode_append, Utf8.encode_append, Utf8.encode_append, encode_sign,
      encode_digits, ← hprinted, List.append_assoc, List.append_assoc]

end RateCard.Json.Literal
