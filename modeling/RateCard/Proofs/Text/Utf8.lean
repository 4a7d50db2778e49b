import Mathlib.Tactic
import RateCard.Text.Utf8

/-!
# Encoded texts are read back

The reader of single bytes takes the bytes of one character to that character and is then at rest,
so that every encoded text is decoded to itself. Encoded characters beyond ASCII hold no byte that
stands for an ASCII character.
-/
namespace RateCard.Text.Utf8

@[simp] theorem encode_nil : encode [] = [] := rfl

@[simp] theorem encode_cons (c : Char) (cs : List Char) :
    encode (c :: cs) = String.utf8EncodeChar c ++ encode cs := rfl

@[simp] theorem encode_append (a b : List Char) : encode (a ++ b) = encode a ++ encode b :=
  List.flatMap_append

theorem encodeChar_ascii {c : Char} (h : c.toNat < 128) :
    String.utf8EncodeChar c = [UInt8.ofNat c.toNat] := by
  have h' : c.toNat ≤ 127 := by omega
  simp [String.utf8EncodeChar, h']

/-- What the first byte does, by its value. -/
theorem start_ofNat {n : Nat} (h : n < 256) :
    start (UInt8.ofNat n) =
      if n < 0x80 then .done (Char.ofNat n)
      else if n < 0xC2 then .refuse
      else if n < 0xE0 then .more ⟨n - 0xC0, 0x80, 0xBF, 0⟩
      else if n = 0xE0 then .more ⟨0, 0xA0, 0xBF, 1⟩
      else if n = 0xED then .more ⟨0xD, 0x80, 0x9F, 1⟩
      else if n < 0xF0 then .more ⟨n - 0xE0, 0x80, 0xBF, 1⟩
      else if n = 0xF0 then .more ⟨0, 0x90, 0xBF, 2⟩
      else if n < 0xF4 then .more ⟨n - 0xF0, 0x80, 0xBF, 2⟩
      else if n = 0xF4 then .more ⟨4, 0x80, 0x8F, 2⟩
      else .refuse := by
  have hn : (UInt8.ofNat n).toNat = n := UInt8.toNat_ofNat_of_lt' h
  simp [start, UInt8.lt_iff_toNat_lt, ← UInt8.toNat_inj, hn]

/-- A continuation byte carries the low six bits of `v` when those above are read. -/
theorem feed_continuation {v due : Nat} {low high : UInt8} (hlow : low.toNat ≤ v % 64 + 128)
    (hhigh : v % 64 + 128 ≤ high.toNat) :
    Pending.feed ⟨v / 64, low, high, due⟩ (UInt8.ofNat (v % 64 + 128)) =
      match due with
      | 0 => .done (Char.ofNat v)
      | due + 1 => .more ⟨v, 0x80, 0xBF, due⟩ := by
  have hn : (UInt8.ofNat (v % 64 + 128)).toNat = v % 64 + 128 :=
    UInt8.toNat_ofNat_of_lt' (by rw [UInt8.size]; omega)
  have hbits : v / 64 * 64 + (v % 64 + 128 - 0x80) = v := by omega
  cases due <;>
    simp only [Pending.feed, UInt8.le_iff_toNat_le, hn, hlow, hhigh, and_self, if_true, hbits]

theorem feed_last (v : Nat) :
    feed (some ⟨v / 64, 0x80, 0xBF, 0⟩) (UInt8.ofNat (v % 64 + 128)) = .done (Char.ofNat v) :=
  feed_continuation (by simp) (by simp; omega)

theorem feed_inner {v due : Nat} {low high : UInt8} (hlow : low.toNat ≤ v % 64 + 128)
    (hhigh : v % 64 + 128 ≤ high.toNat) :
    feed (some ⟨v / 64, low, high, due + 1⟩) (UInt8.ofNat (v % 64 + 128)) =
      .more ⟨v, 0x80, 0xBF, due⟩ :=
  feed_continuation hlow hhigh

theorem decodeFrom_more {state : Option Pending} {b : UInt8} {p : Pending} {rest : Bytes}
    (h : feed state b = .more p) : decodeFrom state (b :: rest) = decodeFrom (some p) rest := by
  cases state <;> simp [decodeFrom, h]

theorem decodeFrom_done {state : Option Pending} {b : UInt8} {c : Char} {rest : Bytes}
    (h : feed state b = .done c) :
    decodeFrom state (b :: rest) = (decodeFrom none rest).map (c :: ·) := by
  cases state <;> simp [decodeFrom, h]

/-! ## First bytes -/

theorem feed_first_two {v : Nat} (h : 128 ≤ v) (hv : v < 0x800) :
    feed none (UInt8.ofNat (v / 64 % 32 + 192)) = .more ⟨v / 64, 0x80, 0xBF, 0⟩ := by
  rw [feed, start_ofNat (by omega), if_neg (by omega), if_neg (by omega), if_pos (by omega)]
  rw [show v / 64 % 32 + 192 - 0xC0 = v / 64 by omega]

/-- The second byte of three keeps off what two bytes can say, and off the surrogates. -/
theorem feed_first_three {v : Nat} (h : 0x800 ≤ v) (hv : v < 0xD800 ∨ 0xDFFF < v ∧ v < 0x10000) :
    ∃ low high : UInt8,
      feed none (UInt8.ofNat (v / 4096 % 16 + 224)) = .more ⟨v / 64 / 64, low, high, 1⟩ ∧
        low.toNat ≤ v / 64 % 64 + 128 ∧ v / 64 % 64 + 128 ≤ high.toNat := by
  rw [feed, start_ofNat (by omega), if_neg (by omega), if_neg (by omega), if_neg (by omega)]
  by_cases hE0 : v / 64 / 64 = 0
  · refine ⟨0xA0, 0xBF, ?_, by simp; omega, by simp; omega⟩
    rw [if_pos (by omega), hE0]
  · rw [if_neg (by omega)]
    by_cases hED : v / 64 / 64 = 13
    · refine ⟨0x80, 0x9F, ?_, by simp, by simp; omega⟩
      rw [if_pos (by omega), hED]
    · refine ⟨0x80, 0xBF, ?_, by simp, by simp; omega⟩
      rw [if_neg (by omega), if_pos (by omega),
        show v / 4096 % 16 + 224 - 0xE0 = v / 64 / 64 by omega]

/-- The second byte of four keeps off what three bytes can say, and off what no character is. -/
theorem feed_first_four {v : Nat} (h : 0x10000 ≤ v) (hv : v < 0x110000) :
    ∃ low high : UInt8,
      feed none (UInt8.ofNat (v / 262144 % 8 + 240)) = .more ⟨v / 4096 / 64, low, high, 2⟩ ∧
        low.toNat ≤ v / 4096 % 64 + 128 ∧ v / 4096 % 64 + 128 ≤ high.toNat := by
  rw [feed, start_ofNat (by omega), if_neg (by omega), if_neg (by omega), if_neg (by omega),
    if_neg (by omega), if_neg (by omega), if_neg (by omega)]
  by_cases hF0 : v / 4096 / 64 = 0
  · refine ⟨0x90, 0xBF, ?_, by simp; omega, by simp; omega⟩
    rw [if_pos (by omega), hF0]
  · rw [if_neg (by omega)]
    by_cases hF4 : v / 4096 / 64 = 4
    · refine ⟨0x80, 0x8F, ?_, by simp, by simp; omega⟩
      rw [if_neg (by omega), if_pos (by omega), hF4]
    · refine ⟨0x80, 0xBF, ?_, by simp, by simp; omega⟩
      rw [if_pos (by omega), show v / 262144 % 8 + 240 - 0xF0 = v / 4096 / 64 by omega]

/-! ## Characters -/

/-- The reader takes an encoded character to that character. The cases are the four lengths; a
character is no surrogate and not above U+10FFFF. -/
theorem decodeFrom_encodeChar (c : Char) (rest : Bytes) :
    decodeFrom none (String.utf8EncodeChar c ++ rest) = (decodeFrom none rest).map (c :: ·) := by
  have valid : c.toNat < 0xD800 ∨ 0xDFFF < c.toNat ∧ c.toNat < 0x110000 := c.valid
  have back : Char.ofNat c.toNat = c := Char.ofNat_toNat c
  generalize hv : c.toNat = v at valid back
  have hv' : c.val.toNat = v := hv
  have last : feed (some ⟨v / 64, 0x80, 0xBF, 0⟩) (UInt8.ofNat (v % 64 + 128)) = .done c := by
    rw [feed_last, back]
  simp only [String.utf8EncodeChar, hv']
  split_ifs with h1 h2 h3
  · apply decodeFrom_done
    rw [feed, start_ofNat (by omega), if_pos (by omega), back]
  · rw [List.cons_append, decodeFrom_more (feed_first_two (by omega) (by omega))]
    exact decodeFrom_done last
  · obtain ⟨low, high, hfirst, hlow, hhigh⟩ := feed_first_three (v := v) (by omega) (by omega)
    rw [List.cons_append, decodeFrom_more hfirst, List.cons_append,
      decodeFrom_more (feed_inner hlow hhigh)]
    exact decodeFrom_done last
  · obtain ⟨low, high, hfirst, hlow, hhigh⟩ := feed_first_four (v := v) (by omega) (by omega)
    have hthird : feed (some ⟨v / 64 / 64, 0x80, 0xBF, 1⟩) (UInt8.ofNat (v / 64 % 64 + 128)) =
        .more ⟨v / 64, 0x80, 0xBF, 0⟩ :=
      feed_inner (by simp) (by simp; omega)
    rw [List.cons_append, decodeFrom_more hfirst, List.cons_append,
      decodeFrom_more (feed_inner hlow hhigh), List.cons_append,
      show v / 4096 = v / 64 / 64 by omega, decodeFrom_more hthird]
    exact decodeFrom_done last

theorem decode_encode (text : List Char) : decode (encode text) = some text := by
  unfold decode
  induction text with
  | nil => rfl
  | cons c cs ih => rw [encode_cons, decodeFrom_encodeChar, ih]; rfl

theorem decode_ofString (text : String) : decode (ofString text) = some text.toList :=
  decode_encode text.toList

/-- The bytes of a character beyond ASCII lie beyond ASCII. -/
theorem le_of_mem_encodeChar {c : Char} (h : 128 ≤ c.toNat) {b : UInt8}
    (hb : b ∈ String.utf8EncodeChar c) : 128 ≤ b.toNat := by
  have hv : ¬ c.val.toNat ≤ 127 := by
    have : c.toNat = c.val.toNat := rfl
    omega
  simp only [String.utf8EncodeChar, if_neg hv] at hb
  split_ifs at hb <;> simp only [List.mem_cons, List.not_mem_nil, or_false] at hb <;>
    rcases hb with rfl | rfl | rfl | rfl <;> simp <;> omega

end RateCard.Text.Utf8
