import Mathlib.Tactic
import RateCard.Json.Print
import RateCard.Proofs.Json.Readable

/-!
# Tokens of printed documents

Who reads a printed text has to know whether a character stands in a string, where brackets, colons
and blanks mean nothing. Strings and other scalars are tokens: read from outside of strings they end
there again, and outside of strings they hold no layout, colon or bracket.
-/
namespace RateCard.Json

/-- Where a reader stands: outside of strings, in a string, or there behind a backslash. -/
inductive Spot where
  | outside
  | inside
  | escaped
  deriving DecidableEq, Repr

namespace Spot

def next : Spot → Char → Spot
  | .outside, c => if c = '"' then .inside else .outside
  | .inside, c => if c = '"' then .outside else if c = '\\' then .escaped else .inside
  | .escaped, _ => .inside

def after (spot : Spot) (text : List Char) : Spot := text.foldl next spot

@[simp] theorem after_nil (spot : Spot) : spot.after [] = spot := rfl

@[simp] theorem after_cons (spot : Spot) (c : Char) (text : List Char) :
    spot.after (c :: text) = (spot.next c).after text := rfl

@[simp] theorem after_append (spot : Spot) (text text' : List Char) :
    spot.after (text ++ text') = (spot.after text).after text' := List.foldl_append

end Spot

/-- What outside of strings is no part of a scalar. -/
def structural : List Char := [' ', ':', ',', '[', ']', '\x7b', '\x7d']

/-- A text without control characters that outside of strings holds parts of scalars only. -/
def Solid : Spot → List Char → Prop
  | _, [] => True
  | spot, c :: text => 32 ≤ c.toNat ∧ (spot = .outside → c ∉ structural) ∧ Solid (spot.next c) text

theorem solid_append {spot : Spot} {text text' : List Char} :
    Solid spot (text ++ text') ↔ Solid spot text ∧ Solid (spot.after text) text' := by
  induction text generalizing spot with
  | nil => simp [Solid]
  | cons c text ih => simp [Solid, ih, and_assoc]

/-- A text that is read as one scalar. -/
structure IsToken (text : List Char) : Prop where
  ne_nil : text ≠ []
  solid : Solid .outside text
  after : Spot.outside.after text = .outside

theorem IsToken.head {text : List Char} (h : IsToken text) :
    ∃ c rest, text = c :: rest ∧ 32 ≤ c.toNat ∧ c ∉ structural := by
  obtain ⟨c, rest, rfl⟩ := List.exists_cons_of_ne_nil h.ne_nil
  exact ⟨c, rest, rfl, h.solid.1, h.solid.2.1 rfl⟩

/-! ## Strings -/

/-- Characters that leave the reader where it stands. -/
theorem stays {spot : Spot} {text : List Char}
    (h : ∀ c ∈ text, 32 ≤ c.toNat ∧ (spot = .outside → c ∉ structural) ∧ spot.next c = spot) :
    Solid spot text ∧ spot.after text = spot := by
  induction text with
  | nil => exact ⟨trivial, rfl⟩
  | cons c text ih =>
    obtain ⟨hlow, hstructural, hnext⟩ := h c List.mem_cons_self
    obtain ⟨hsolid, hafter⟩ := ih fun d hd => h d (List.mem_cons_of_mem c hd)
    rw [Solid, Spot.after_cons, hnext]
    exact ⟨⟨hlow, hstructural, hsolid⟩, hafter⟩

theorem stays_inside {text : List Char} (h : ∀ c ∈ text, 32 ≤ c.toNat ∧ c ≠ '"' ∧ c ≠ '\\') :
    Solid .inside text ∧ Spot.inside.after text = .inside := by
  refine stays fun c hc => ?_
  obtain ⟨hlow, hquote, hslash⟩ := h c hc
  exact ⟨hlow, nofun, by rw [Spot.next, if_neg hquote, if_neg hslash]⟩

theorem hexChar_plain : ∀ k : Fin 16, 32 ≤ (hexChar k).toNat ∧ hexChar k ≠ '"' ∧
    hexChar k ≠ '\\' := by
  decide

theorem escapeChar_stays (c : Char) :
    Solid .inside (escapeChar c) ∧ Spot.inside.after (escapeChar c) = .inside := by
  have hshort (d : Char) (hd : 32 ≤ d.toNat) :
      Solid .inside ['\\', d] ∧ Spot.inside.after ['\\', d] = .inside :=
    ⟨⟨by decide, nofun, hd, nofun, trivial⟩, rfl⟩
  unfold escapeChar
  split_ifs with h1 h2 h3 h4 h5 h6 h7 h8
  case pos => exact hshort '"' (by decide)
  case pos => exact hshort '\\' (by decide)
  case pos => exact hshort 'b' (by decide)
  case pos => exact hshort 'f' (by decide)
  case pos => exact hshort 'n' (by decide)
  case pos => exact hshort 'r' (by decide)
  case pos => exact hshort 't' (by decide)
  case pos =>
    have hhigh := hexChar_plain ⟨c.toNat / 16, by omega⟩
    have hlow := hexChar_plain ⟨c.toNat % 16, by omega⟩
    have hdigits : ∀ d ∈ ['0', '0', hexChar (c.toNat / 16), hexChar (c.toNat % 16)],
        32 ≤ d.toNat ∧ d ≠ '"' ∧ d ≠ '\\' := by
      simp only [List.forall_mem_cons]
      exact ⟨by decide, by decide, hhigh, hlow, by simp⟩
    obtain ⟨hsolid, hafter⟩ := stays_inside hdigits
    exact ⟨⟨by decide, nofun, by decide, nofun, hsolid⟩, hafter⟩
  case neg =>
    exact stays_inside (by simpa using ⟨by omega, h1, h2⟩)

theorem body_stays (text : List Char) :
    Solid .inside (text.flatMap escapeChar) ∧
      Spot.inside.after (text.flatMap escapeChar) = .inside := by
  induction text with
  | nil => exact ⟨trivial, rfl⟩
  | cons c text ih =>
    obtain ⟨hsolid, hafter⟩ := escapeChar_stays c
    rw [List.flatMap_cons, solid_append, Spot.after_append, hafter]
    exact ⟨⟨hsolid, ih.1⟩, ih.2⟩

theorem isToken_string (s : String) : IsToken (stringChars s) := by
  obtain ⟨hsolid, hafter⟩ := body_stays s.toList
  have hopen : Spot.outside.next '"' = .inside := rfl
  have hclosed : Solid .inside (s.toList.flatMap escapeChar ++ ['"']) := by
    rw [solid_append, hafter]
    exact ⟨hsolid, by decide, nofun, trivial⟩
  refine ⟨List.cons_ne_nil _ _, ⟨by decide, fun _ => by decide, hclosed⟩, ?_⟩
  rw [stringChars, List.cons_append, Spot.after_cons, hopen, Spot.after_append, hafter]
  rfl

/-! ## Scalars -/

/-- Whether a character can stand in a scalar that is no string. -/
def isPlain (c : Char) : Bool := decide (32 ≤ c.toNat ∧ c ∉ structural ∧ c ≠ '"')

theorem isToken_of_plain {text : List Char} (hne : text ≠ []) (h : text.all isPlain = true) :
    IsToken text := by
  have hplain : ∀ c ∈ text, 32 ≤ c.toNat ∧ (Spot.outside = .outside → c ∉ structural) ∧
      Spot.outside.next c = .outside := by
    intro c hc
    obtain ⟨hlow, hstructural, hquote⟩ := of_decide_eq_true (List.all_eq_true.1 h c hc)
    exact ⟨hlow, fun _ => hstructural, by rw [Spot.next, if_neg hquote]⟩
  obtain ⟨hsolid, hafter⟩ := stays hplain
  exact ⟨hne, hsolid, hafter⟩

/-- The characters of number literals. -/
def numeralAlphabet : List Char := ['-', '+', '.', 'e'] ++ (List.finRange 10).map Digit.char

theorem mem_numeralAlphabet {n : Numeral} {c : Char} (h : c ∈ n.chars) : c ∈ numeralAlphabet := by
  have hdigits (ds : List Digit) (hc : c ∈ ds.map Digit.char) : c ∈ numeralAlphabet := by
    obtain ⟨d, -, rfl⟩ := List.mem_map.1 hc
    exact List.mem_append_right _ (List.mem_map_of_mem (List.mem_finRange d))
  obtain ⟨negative, whole, fraction, exponent⟩ := n
  simp only [Numeral.chars, List.mem_append] at h
  rcases h with ((h | h) | h) | h
  · rw [Numeral.signChars] at h
    split_ifs at h
    · simp_all [numeralAlphabet]
    · cases h
  · exact hdigits _ h
  · cases fraction with
    | nil => cases h
    | cons d ds =>
      rcases List.mem_cons.1 h with rfl | h
      · simp [numeralAlphabet]
      · exact hdigits _ h
  · cases exponent with
    | none => cases h
    | some e =>
      rcases List.mem_cons.1 h with rfl | h
      · simp [numeralAlphabet]
      · rcases List.mem_cons.1 h with rfl | h
        · cases e.negative <;> simp [numeralAlphabet]
        · exact hdigits _ h

theorem isToken_numeral (n : Numeral) : IsToken n.chars := by
  refine isToken_of_plain ?_ (List.all_eq_true.2 fun c hc => ?_)
  · obtain ⟨negative, whole, fraction, exponent⟩ := n
    cases whole <;> simp [Numeral.chars, Whole.digits]
  · have hall : numeralAlphabet.all isPlain = true := by decide
    exact List.all_eq_true.1 hall c (mem_numeralAlphabet hc)

theorem isToken_scalar {x : Json} (h : IsScalar x) : IsToken (scalarChars x) := by
  cases x with
  | null => exact isToken_of_plain (by decide) (by decide)
  | bool b => cases b <;> exact isToken_of_plain (by decide) (by decide)
  | number n => exact isToken_numeral n
  | string s => exact isToken_string s
  | array _ | object _ => exact h.elim

end RateCard.Json
