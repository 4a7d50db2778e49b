import Mathlib.Tactic
import RateCard.Text.Quoted

/-!
# Reading quoted texts

A quoted text consists of visible characters, whatever was quoted, and it can be read back: a reader
that goes over it once finds the text and stops behind the closing quote.
-/
namespace RateCard.Text.Quoted

/-! ## Visible characters -/

/-- The line breaks and the other characters that control a terminal. -/
def IsControl (c : Char) : Prop := c.toNat < 0x20 ∨ 0x7F ≤ c.toNat ∧ c.toNat < 0xA0

theorem IsControl.invisible {c : Char} (h : IsControl c) : isInvisible c = true := by
  rw [isInvisible, List.any_eq_true]
  rcases h with h | ⟨h, h'⟩
  · refine ⟨(0x0, 0x1F), List.mem_cons_self, ?_⟩
    simp only [Bool.and_eq_true, decide_eq_true_eq]
    omega
  · refine ⟨(0x7F, 0xA0), List.mem_cons_of_mem _ List.mem_cons_self, ?_⟩
    simp only [Bool.and_eq_true, decide_eq_true_eq]
    omega

/-- Printable ASCII. -/
abbrev IsPrintable (c : Char) : Prop := 0x20 ≤ c.toNat ∧ c.toNat < 0x7F

theorem IsPrintable.visible {c : Char} (h : IsPrintable c) : isInvisible c = false := by
  have hranges : ∀ r ∈ invisibleRanges, r.2 < 0x20 ∨ 0x7F ≤ r.1 := by decide +kernel
  rw [isInvisible, List.any_eq_false]
  intro r hr
  simp only [Bool.and_eq_true, decide_eq_true_eq, not_and]
  rcases hranges r hr with hlow | hhigh <;> obtain ⟨h, h'⟩ := h <;> omega

theorem visible_digitChar (k : Fin 16) : isInvisible (Nat.digitChar k) = false := by
  have hdigits : ∀ k : Fin 16, IsPrintable (Nat.digitChar k) := by decide
  exact (hdigits k).visible

theorem visible_digits {b n : Nat} (hb : 1 < b) (hb' : b ≤ 16) {c : Char}
    (h : c ∈ Nat.toDigits b n) : isInvisible c = false := by
  induction n using Nat.strong_induction_on with
  | _ n ih =>
  rw [Nat.toDigits_eq_if hb] at h
  split at h
  next hlt =>
    rw [List.mem_singleton.1 h]
    exact visible_digitChar ⟨n, by omega⟩
  next hle =>
    rcases List.mem_append.1 h with h | h
    · exact ih (n / b) (Nat.div_lt_self (by omega) hb) h
    · have := Nat.mod_lt n (show b > 0 by omega)
      rw [List.mem_singleton.1 h]
      exact visible_digitChar ⟨n % b, by omega⟩

/-- The characters that escapes are made of, beside digits. -/
def marks : List Char := ['\\', 'u', '\x7b'] ++ ['\x7d', '0', 't', 'n', 'r', '"']

theorem visible_marks (x : Char) (h : x ∈ marks) : isInvisible x = false := by
  have hmarks : (marks.all fun x => decide (IsPrintable x)) = true := by decide
  exact (of_decide_eq_true (List.all_eq_true.1 hmarks x h)).visible

theorem visible_escape {c x : Char} (h : x ∈ escape c) : isInvisible x = false := by
  have hpair {y : Char} (hy : y ∈ marks) (h : x ∈ ['\\', y]) : isInvisible x = false := by
    rcases List.mem_pair.1 h with rfl | rfl
    · exact visible_marks _ (by simp [marks])
    · exact visible_marks _ hy
  unfold escape at h
  split_ifs at h with h₁ h₂ h₃ h₄ h₅ h₆ hc
  · exact hpair (by simp [marks]) h
  · exact hpair (by simp [marks]) h
  · exact hpair (by simp [marks]) h
  · exact hpair (by simp [marks]) h
  · exact hpair (by simp [marks]) h
  · exact hpair (by simp [marks]) h
  · rcases List.mem_append.1 h with h | h
    · rcases List.mem_append.1 h with h | h
      · exact visible_marks x (List.mem_append_left _ h)
      · exact visible_digits (by decide) le_rfl h
    · exact visible_marks x (by simp [marks, List.mem_singleton.1 h])
  · rw [List.mem_singleton.1 h]
    exact Bool.not_eq_true _ ▸ hc

/-- Whatever is quoted, no invisible character is shown, so that no quoted text takes more than its
own line or controls a terminal. -/
theorem visible_quote {text : List Char} {c : Char} (h : c ∈ quote text) :
    isInvisible c = false := by
  have hquote : isInvisible '"' = false := visible_marks _ (by simp [marks])
  simp only [quote, List.cons_append, List.mem_cons, List.mem_append, List.mem_flatMap,
    List.not_mem_nil, or_false] at h
  rcases h with rfl | ⟨x, -, h⟩ | rfl
  · exact hquote
  · exact visible_escape h
  · exact hquote

/-! ## Reading back -/

/-- How far a quoted text has been read: between two characters of it, behind a backslash, behind
the letter of a code point, or behind digits that write this number. -/
inductive Reading where
  | text
  | slash
  | letter
  | code (n : Nat)

/-- What a character behind a backslash stands for. -/
def short? : Char → Option Char
  | '0' => some '\x00'
  | 't' => some '\t'
  | 'n' => some '\n'
  | 'r' => some '\r'
  | '"' => some '"'
  | '\\' => some '\\'
  | _ => none

def digit? (c : Char) : Option Nat := (List.range 16).find? fun n => Nat.digitChar n == c

/-- Adds a character in front of what was read. -/
def reads (c : Char) (read : Option (List Char × List Char)) : Option (List Char × List Char) :=
  read.map fun (text, rest) => (c :: text, rest)

/-- Reads up to a closing quote and gives what stands behind it too. -/
def readFrom : Reading → List Char → Option (List Char × List Char)
  | _, [] => none
  | .text, c :: rest =>
    if c = '"' then some ([], rest)
    else if c = '\\' then readFrom .slash rest
    else reads c (readFrom .text rest)
  | .slash, c :: rest =>
    if c = 'u' then readFrom .letter rest
    else (short? c).bind fun x => reads x (readFrom .text rest)
  | .letter, c :: rest => if c = '\x7b' then readFrom (.code 0) rest else none
  | .code n, c :: rest =>
    if c = '\x7d' then reads (Char.ofNat n) (readFrom .text rest)
    else (digit? c).bind fun d => readFrom (.code (16 * n + d)) rest

/-- The text that is quoted in front of a text, and what stands behind it. -/
def unquote? : List Char → Option (List Char × List Char)
  | '"' :: rest => readFrom .text rest
  | _ => none

theorem digit_digitChar : ∀ k : Fin 16, digit? (Nat.digitChar k) = some k.val ∧
    Nat.digitChar k ≠ '\x7d' := by
  decide

theorem readFrom_digit (n : Nat) {k : Nat} (hk : k < 16) (rest : List Char) :
    readFrom (.code n) (Nat.digitChar k :: rest) = readFrom (.code (16 * n + k)) rest := by
  obtain ⟨hdigit, hne⟩ := digit_digitChar ⟨k, hk⟩
  rw [readFrom, if_neg hne, hdigit, Option.bind_some]

/-- Digits are read to the number that they write. -/
theorem readFrom_hex (n : Nat) (rest : List Char) :
    readFrom (.code 0) (hex n ++ rest) = readFrom (.code n) rest := by
  induction n using Nat.strong_induction_on generalizing rest with
  | _ n ih =>
  rw [hex, Nat.toDigits_eq_if (by decide)]
  split
  next hlt => rw [List.singleton_append, readFrom_digit 0 hlt, Nat.mul_zero, Nat.zero_add]
  · rw [List.append_assoc, ← hex, ih (n / 16) (by omega), List.singleton_append,
      readFrom_digit _ (Nat.mod_lt _ (by decide)), Nat.div_add_mod]

/-- An escape is read as the character that it stands for. -/
theorem readFrom_escape (c : Char) (rest : List Char) :
    readFrom .text (escape c ++ rest) = reads c (readFrom .text rest) := by
  have hpair (y x : Char) (hy : y ≠ 'u') (hx : short? y = some x) :
      readFrom .text (['\\', y] ++ rest) = reads x (readFrom .text rest) := by
    simp [readFrom, hy, hx]
  unfold escape
  split_ifs with h₁ h₂ h₃ h₄ h₅ h₆ hc
  · rw [h₁]
    exact hpair '0' _ (by decide) rfl
  · rw [h₂]
    exact hpair 't' _ (by decide) rfl
  · rw [h₃]
    exact hpair 'n' _ (by decide) rfl
  · rw [h₄]
    exact hpair 'r' _ (by decide) rfl
  · rw [h₅]
    exact hpair '"' _ (by decide) rfl
  · rw [h₆]
    exact hpair '\\' _ (by decide) rfl
  · have hopen (more : List Char) :
        readFrom .text (['\\', 'u', '\x7b'] ++ more) = readFrom (.code 0) more := by
      simp [readFrom]
    rw [List.append_assoc, List.append_assoc, hopen, readFrom_hex, List.singleton_append, readFrom,
      if_pos rfl, Char.ofNat_toNat]
  · rw [List.singleton_append, readFrom, if_neg h₅, if_neg h₆]

/-- What was quoted is read back, and nothing behind it is touched. -/
theorem unquote_quote (text rest : List Char) :
    unquote? (quote text ++ rest) = some (text, rest) := by
  rw [quote, List.cons_append, List.cons_append, unquote?, List.append_assoc]
  induction text with
  | nil => rfl
  | cons c text ih =>
    rw [List.flatMap_cons, List.append_assoc, readFrom_escape, ih]
    rfl

end RateCard.Text.Quoted
