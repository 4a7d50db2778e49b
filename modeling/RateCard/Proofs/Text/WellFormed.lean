import RateCard.Proofs.Text.Utf8

/-!
# Well-formed bytes

Bytes that are decoded to a text are the encoding of that text, so that a text has one encoding and
the reader accepts nothing else. A state of the reader is described by the characters it can still
become: each of them is encoded by the bytes read so far and its own last continuation bytes.
-/
namespace RateCard.Text.Utf8

/-- The last `n` bytes of an encoded character of number `v`, each of which carries six bits. -/
def continuation (v : Nat) : Nat → Bytes
  | 0 => []
  | n + 1 => UInt8.ofNat (v / 64 ^ n % 64 + 128) :: continuation v n

/-- The bytes `held` have led to the state `p`: whichever character has the bits read so far and a
next byte that is allowed is encoded by `held` with its own bytes behind. -/
structure LeadsTo (held : Bytes) (p : Pending) : Prop where
  low : 128 ≤ p.low.toNat
  high : p.high.toNat < 192
  encodes {v : Nat} : v / 64 ^ (p.due + 1) = p.bits → p.low.toNat ≤ v / 64 ^ p.due % 64 + 128 →
    v / 64 ^ p.due % 64 + 128 ≤ p.high.toNat →
    String.utf8EncodeChar (Char.ofNat v) = held ++ continuation v (p.due + 1)

theorem toNat_ofNat {v : Nat} (h : v < 0xD800 ∨ 0xDFFF < v ∧ v < 0x110000) :
    (Char.ofNat v).val.toNat = v := by
  have hv : v.isValidChar := h
  rw [Char.ofNat, dif_pos hv]
  rfl

/-! ## First bytes -/

theorem start_done {b : UInt8} {c : Char} (h : start b = .done c) :
    String.utf8EncodeChar c = [b] := by
  have hb : b.toNat < 0x80 := by
    by_contra hb
    rw [← UInt8.ofNat_toNat (x := b), start_ofNat b.toNat_lt, if_neg hb] at h
    split_ifs at h
  rw [← UInt8.ofNat_toNat (x := b), start_ofNat b.toNat_lt, if_pos hb, Step.done.injEq] at h
  have hc : c.toNat = b.toNat := by
    rw [← h]
    exact toNat_ofNat (by omega)
  rw [encodeChar_ascii (by omega), hc, UInt8.ofNat_toNat]

theorem encodeChar_two {v : Nat} (h : 0x80 ≤ v) (hv : v < 0x800) :
    String.utf8EncodeChar (Char.ofNat v) = UInt8.ofNat (v / 64 + 192) :: continuation v 1 := by
  have hn := toNat_ofNat (v := v) (by omega)
  simp only [String.utf8EncodeChar, hn, if_neg (by omega : ¬ v ≤ 127), if_pos (by omega : v ≤ 2047),
    continuation, pow_zero, Nat.div_one]
  rw [show v / 64 % 32 + 192 = v / 64 + 192 by omega]

theorem encodeChar_three {v : Nat} (h : 0x800 ≤ v) (hv : v < 0xD800 ∨ 0xDFFF < v ∧ v < 0x10000) :
    String.utf8EncodeChar (Char.ofNat v) =
      UInt8.ofNat (v / 4096 + 224) :: continuation v 2 := by
  have hn := toNat_ofNat (v := v) (by omega)
  simp only [String.utf8EncodeChar, hn, if_neg (by omega : ¬ v ≤ 127),
    if_neg (by omega : ¬ v ≤ 2047), if_pos (by omega : v ≤ 65535), continuation, pow_zero, pow_one,
    Nat.div_one]
  rw [show v / 4096 % 16 + 224 = v / 4096 + 224 by omega]

theorem encodeChar_four {v : Nat} (h : 0x10000 ≤ v) (hv : v < 0x110000) :
    String.utf8EncodeChar (Char.ofNat v) =
      UInt8.ofNat (v / 262144 + 240) :: continuation v 3 := by
  have hn := toNat_ofNat (v := v) (by omega)
  simp only [String.utf8EncodeChar, hn, if_neg (by omega : ¬ v ≤ 127),
    if_neg (by omega : ¬ v ≤ 2047), if_neg (by omega : ¬ v ≤ 65535), continuation, pow_zero,
    pow_one, Nat.div_one]
  rw [show v / 262144 % 8 + 240 = v / 262144 + 240 by omega]
  rfl

theorem leadsTo_two {n : Nat} (h : 0xC2 ≤ n) (hn : n < 0xE0) :
    LeadsTo [UInt8.ofNat n] ⟨n - 0xC0, 0x80, 0xBF, 0⟩ where
  low := by simp
  high := by simp
  encodes {v} hbits _ _ := by
    simp only [zero_add, pow_one] at hbits
    rw [encodeChar_two (by omega) (by omega), show v / 64 + 192 = n by omega]
    rfl

/-- The second byte decides whether two bytes had been enough and whether it is a surrogate. -/
theorem leadsTo_three {n : Nat} {low high : UInt8} (h : 0xE0 ≤ n) (hn : n < 0xF0)
    (hlow : 128 ≤ low.toNat) (hhigh : high.toNat < 192) (hfirst : n = 0xE0 → 0xA0 ≤ low.toNat)
    (hsurrogate : n = 0xED → high.toNat < 0xA0) :
    LeadsTo [UInt8.ofNat n] ⟨n - 0xE0, low, high, 1⟩ where
  low := hlow
  high := hhigh
  encodes {v} hbits hl hh := by
    simp only [Nat.reduceAdd, Nat.reducePow, pow_one] at hbits hl hh
    rw [encodeChar_three (by omega) (by omega), show v / 4096 + 224 = n by omega]
    rfl

/-- The second byte decides whether three bytes had been enough and whether it is too great. -/
theorem leadsTo_four {n : Nat} {low high : UInt8} (h : 0xF0 ≤ n) (hn : n < 0xF5)
    (hlow : 128 ≤ low.toNat) (hhigh : high.toNat < 192) (hfirst : n = 0xF0 → 0x90 ≤ low.toNat)
    (hlast : n = 0xF4 → high.toNat < 0x90) :
    LeadsTo [UInt8.ofNat n] ⟨n - 0xF0, low, high, 2⟩ where
  low := hlow
  high := hhigh
  encodes {v} hbits hl hh := by
    simp only [Nat.reduceAdd, Nat.reducePow] at hbits hl hh
    rw [encodeChar_four (by omega) (by omega), show v / 262144 + 240 = n by omega]
    rfl

theorem leadsTo_start {b : UInt8} {p : Pending} (h : start b = .more p) : LeadsTo [b] p := by
  have hb := b.toNat_lt
  rw [← UInt8.ofNat_toNat (x := b), start_ofNat hb] at h
  rw [← UInt8.ofNat_toNat (x := b)]
  generalize b.toNat = n at h hb
  split_ifs at h with _ _ _ hE0 hED _ hF0 _ hF4 <;> rw [Step.more.injEq] at h <;> subst h
  · exact leadsTo_two (by omega) (by omega)
  · subst hE0
    exact leadsTo_three le_rfl (by omega) (by decide) (by decide) (by decide) (by decide)
  · subst hED
    exact leadsTo_three (by omega) (by omega) (by decide) (by decide) (by decide) (by decide)
  · exact leadsTo_three (by omega) (by omega) (by simp) (by simp) (by omega) (by omega)
  · subst hF0
    exact leadsTo_four le_rfl (by omega) (by decide) (by decide) (by decide) (by decide)
  · exact leadsTo_four (by omega) (by omega) (by simp) (by simp) (by omega) (by omega)
  · subst hF4
    exact leadsTo_four (by omega) (by omega) (by decide) (by decide) (by decide) (by decide)

/-! ## Continuation bytes -/

section Feeding
variable {held : Bytes} {p q : Pending} {b : UInt8} (hp : LeadsTo held p)
include hp

/-- A byte that is allowed is the next continuation byte of the characters that have its bits. -/
theorem LeadsTo.next {v : Nat} (hlow : p.low ≤ b) (hhigh : b ≤ p.high)
    (hv : v / 64 ^ p.due = p.bits * 64 + (b.toNat - 0x80)) :
    String.utf8EncodeChar (Char.ofNat v) = held ++ b :: continuation v p.due := by
  have hl := hp.low
  have hh := hp.high
  rw [UInt8.le_iff_toNat_le] at hlow hhigh
  have hbyte : v / 64 ^ p.due % 64 + 128 = b.toNat := by omega
  have hbits : v / 64 ^ (p.due + 1) = p.bits := by
    rw [pow_succ, ← Nat.div_div_eq_div_mul]
    omega
  rw [hp.encodes hbits (by omega) (by omega), continuation, hbyte, UInt8.ofNat_toNat]

theorem LeadsTo.done {c : Char} (h : p.feed b = .done c) :
    String.utf8EncodeChar c = held ++ [b] := by
  rw [Pending.feed] at h
  split_ifs at h with hb
  cases hdue : p.due with
  | zero =>
    rw [hdue] at h
    have hnext := hp.next hb.1 hb.2 (v := p.bits * 64 + (b.toNat - 0x80)) (by simp [hdue])
    rw [hdue] at hnext
    rw [← Step.done.inj h]
    exact hnext
  | succ due => rw [hdue] at h; cases h

theorem LeadsTo.more (h : p.feed b = .more q) : LeadsTo (held ++ [b]) q := by
  rw [Pending.feed] at h
  split_ifs at h with hb
  cases hdue : p.due with
  | zero => rw [hdue] at h; cases h
  | succ due =>
    rw [hdue] at h
    rw [← Step.more.inj h]
    refine ⟨by simp, by simp, fun {v} hbits _ _ => ?_⟩
    have hnext := hp.next hb.1 hb.2 (v := v) (by rw [hdue]; exact hbits)
    rw [hnext, hdue, List.append_assoc]
    rfl

end Feeding

/-! ## Texts -/

/-- The bytes read since the last whole character. -/
def Since : Option Pending → Bytes → Prop
  | none, held => held = []
  | some p, held => LeadsTo held p

/-- What is decoded behind the bytes of a character that is being read. -/
theorem encode_of_decodeFrom {held bytes : Bytes} {state : Option Pending} {cs : List Char}
    (hstate : Since state held) (h : decodeFrom state bytes = some cs) :
    held ++ bytes = encode cs := by
  induction bytes generalizing held state cs with
  | nil =>
    cases state with
    | none =>
      rw [decodeFrom, Option.some.injEq] at h
      obtain rfl : held = [] := hstate
      rw [← h]
      rfl
    | some p => cases h
  | cons b bytes ih =>
    cases hfeed : feed state b with
    | done c =>
      rw [decodeFrom_done hfeed] at h
      obtain ⟨cs, hcs, rfl⟩ := Option.map_eq_some_iff.1 h
      have hc : String.utf8EncodeChar c = held ++ [b] := by
        cases state with
        | none =>
          obtain rfl : held = [] := hstate
          exact start_done hfeed
        | some p => exact LeadsTo.done hstate hfeed
      rw [encode_cons, hc, ← ih (show Since none [] from rfl) hcs]
      simp
    | more p =>
      rw [decodeFrom_more hfeed] at h
      have hp : LeadsTo (held ++ [b]) p := by
        cases state with
        | none =>
          obtain rfl : held = [] := hstate
          exact leadsTo_start hfeed
        | some p => exact LeadsTo.more hstate hfeed
      rw [← ih (show Since (some p) _ from hp) h]
      simp
    | refuse =>
      cases state <;> simp [decodeFrom, hfeed] at h

/-- Decoding accepts the encodings of texts and nothing else. -/
theorem decode_eq_some_iff {bytes : Bytes} {cs : List Char} :
    decode bytes = some cs ↔ bytes = encode cs :=
  ⟨encode_of_decodeFrom (show Since none [] from rfl), fun h => h ▸ decode_encode cs⟩

/-- An encoded text starts with one character only. -/
theorem encodeChar_append_inj {c d : Char} {bytes : Bytes} {cs : List Char}
    (h : String.utf8EncodeChar c ++ bytes = String.utf8EncodeChar d ++ encode cs) :
    c = d ∧ bytes = encode cs := by
  have hdecode : decode (String.utf8EncodeChar c ++ bytes) = some (d :: cs) := by
    rw [h]
    exact decode_encode (d :: cs)
  rw [decode, decodeFrom_encodeChar] at hdecode
  obtain ⟨cs', hcs', heq⟩ := Option.map_eq_some_iff.1 hdecode
  obtain ⟨rfl, rfl⟩ := List.cons.inj heq
  exact ⟨rfl, decode_eq_some_iff.1 hcs'⟩

/-! ## Bytes within characters -/

/-- Bytes that only stand behind the first byte of a character. -/
def IsContinuation (b : UInt8) : Prop := 128 ≤ b.toNat ∧ b.toNat < 192

theorem isContinuation_of_mem {v n : Nat} {b : UInt8} (h : b ∈ continuation v n) :
    IsContinuation b := by
  induction n with
  | zero => cases h
  | succ n ih =>
    rcases List.mem_cons.1 h with rfl | h
    · rw [IsContinuation, UInt8.toNat_ofNat_of_lt' (by rw [UInt8.size]; omega)]
      omega
    · exact ih h

/-- A character starts with a byte that is no continuation, and all others are. -/
theorem encodeChar_eq_cons (c : Char) : ∃ b tl, String.utf8EncodeChar c = b :: tl ∧
    ¬ IsContinuation b ∧ ∀ t ∈ tl, IsContinuation t := by
  have valid : c.toNat < 0xD800 ∨ 0xDFFF < c.toNat ∧ c.toNat < 0x110000 := c.valid
  have back : Char.ofNat c.toNat = c := Char.ofNat_toNat c
  generalize hv : c.toNat = v at valid back
  have first {n : Nat} (h : n < 128 ∨ 192 ≤ n) (hn : n < 256) :
      ¬ IsContinuation (UInt8.ofNat n) := by
    rw [IsContinuation, UInt8.toNat_ofNat_of_lt' (by rwa [UInt8.size])]
    omega
  by_cases h1 : v < 0x80
  · rw [encodeChar_ascii (by omega), hv]
    exact ⟨_, _, rfl, first (.inl h1) (by omega), by simp⟩
  rw [← back]
  by_cases h2 : v < 0x800
  · exact ⟨_, _, encodeChar_two (by omega) h2, first (by omega) (by omega),
      fun _ => isContinuation_of_mem⟩
  by_cases h3 : v < 0x10000
  · exact ⟨_, _, encodeChar_three (by omega) (by omega), first (by omega) (by omega),
      fun _ => isContinuation_of_mem⟩
  · exact ⟨_, _, encodeChar_four (by omega) (by omega), first (by omega) (by omega),
      fun _ => isContinuation_of_mem⟩

end RateCard.Text.Utf8
