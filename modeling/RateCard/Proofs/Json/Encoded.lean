import RateCard.Proofs.Json.Grammar
import RateCard.Proofs.Text.WellFormed

/-!
# Spelled documents are texts

The grammar of documents is one of bytes. All of them but those of plain characters in strings are
ASCII, and these are whole encodings, so that whatever spells a document is well-formed UTF-8.
-/
namespace RateCard.Text.Utf8

/-- Bytes that encode a text. -/
def IsText (bytes : Bytes) : Prop := ∃ cs, bytes = encode cs

theorem isText_nil : IsText [] := ⟨[], rfl⟩

theorem IsText.append {a b : Bytes} (ha : IsText a) (hb : IsText b) : IsText (a ++ b) := by
  obtain ⟨cs, rfl⟩ := ha
  obtain ⟨ds, rfl⟩ := hb
  exact ⟨cs ++ ds, (encode_append cs ds).symm⟩

theorem isText_byte {b : UInt8} (h : b < 128) : IsText [b] := by
  rw [UInt8.lt_iff_toNat_lt] at h
  have hb : (Char.ofNat b.toNat).toNat = b.toNat := toNat_ofNat (.inl (by simp at h; omega))
  refine ⟨[Char.ofNat b.toNat], ?_⟩
  rw [encode_cons, encode_nil, List.append_nil, encodeChar_ascii (by rw [hb]; exact h), hb,
    UInt8.ofNat_toNat]

theorem IsText.cons {b : UInt8} {bytes : Bytes} (h : IsText bytes) (hb : b < 128) :
    IsText (b :: bytes) := by
  exact (isText_byte hb).append h

theorem isText_ascii {bytes : Bytes} (h : ∀ b ∈ bytes, b < 128) : IsText bytes := by
  induction bytes with
  | nil => exact isText_nil
  | cons b bytes ih =>
    exact (ih fun c hc => h c (List.mem_cons_of_mem b hc)).cons (h b List.mem_cons_self)

theorem isText_encodeChar (c : Char) : IsText (String.utf8EncodeChar c) :=
  ⟨[c], by simp⟩

theorem isNone_decode_iff {bytes : Bytes} : (decode bytes).isNone = true ↔ ¬ IsText bytes := by
  simp only [Option.isNone_iff_eq_none, Option.eq_none_iff_forall_ne_some, ne_eq,
    decode_eq_some_iff, IsText, not_exists]

end RateCard.Text.Utf8

namespace RateCard.Json.Grammar
open RateCard.Text RateCard.Text.Utf8
open RateCard.Json.Scan (isBlank hexDigit?)

theorem isText_blanks {ws : Bytes} (h : Blanks ws) : IsText ws := by
  refine isText_ascii fun b hb => ?_
  have hblank := h b hb
  simp only [isBlank, Bool.or_eq_true, beq_iff_eq] at hblank
  rcases hblank with ((rfl | rfl) | rfl) | rfl <;> decide

/-! ## Numbers -/

theorem digitByte_lt : ∀ d : Digit, digitByte d < 128 := by decide

theorem isText_digits (ds : List Digit) : IsText (digitBytes ds) := by
  refine isText_ascii fun b hb => ?_
  obtain ⟨d, -, rfl⟩ := List.mem_map.1 hb
  exact digitByte_lt d

theorem isText_numeral {n : Numeral} {bytes : Bytes} (text : NumeralText n bytes) :
    IsText bytes := by
  obtain ⟨fraction, exponent⟩ := text
  refine ((IsText.append ?_ (isText_digits _)).append ?_).append ?_
  · split
    · exact isText_byte (by decide)
    · exact isText_nil
  · cases fraction with
    | none => exact isText_nil
    | some => exact (isText_digits _).cons (by decide)
  · cases exponent with
    | none => exact isText_nil
    | some mark sign =>
      refine IsText.append (IsText.cons ?_ ?_) (isText_digits _)
      · cases sign with
        | none => exact isText_nil
        | _ => exact isText_byte (by decide)
      · rcases mark with rfl | rfl <;> decide

/-! ## Strings -/

theorem lt_of_hexDigit {b : UInt8} {x : Nat} (h : hexDigit? b = some x) : b < 128 := by
  by_contra hb
  rw [UInt8.not_lt, UInt8.le_iff_toNat_le] at hb
  simp only [hexDigit?, UInt8.le_iff_toNat_le] at h
  split_ifs at h with h₁ h₂ h₃ <;> simp_all <;> omega

theorem isText_hex {u : Nat} {bytes : Bytes} (text : HexText u bytes) : IsText bytes := by
  obtain ⟨ha, hb, hc, hd⟩ := text
  exact (((isText_byte (lt_of_hexDigit hd)).cons (lt_of_hexDigit hc)).cons
    (lt_of_hexDigit hb)).cons (lt_of_hexDigit ha)

theorem isText_char {c : Char} {bytes : Bytes} (text : CharText c bytes) : IsText bytes := by
  cases text with
  | plain => exact isText_encodeChar c
  | @short letter c h =>
    have hletter : letter < 128 := by
      revert h
      simp only [shortEscapes, List.mem_cons, Prod.mk.injEq, List.not_mem_nil, or_false]
      rintro (⟨rfl, -⟩ | ⟨rfl, -⟩ | ⟨rfl, -⟩ | ⟨rfl, -⟩ | ⟨rfl, -⟩ | ⟨rfl, -⟩ | ⟨rfl, -⟩ | ⟨rfl, -⟩)
        <;> decide
    exact (isText_byte hletter).cons (by decide)
  | unit hu => exact ((isText_hex hu).cons (by decide)).cons (by decide)
  | pair hlead htrail =>
    exact (((isText_hex hlead).cons (by decide)).cons (by decide)).append
      (((isText_hex htrail).cons (by decide)).cons (by decide))

theorem isText_body {cs : List Char} {bytes : Bytes} (text : BodyText cs bytes) :
    IsText bytes := by
  induction text with
  | nil => exact isText_nil
  | cons hc _ ih => exact (isText_char hc).append ih

theorem isText_string {s : String} {bytes : Bytes} (text : StringText s bytes) :
    IsText bytes := by
  obtain ⟨hbody⟩ := text
  exact ((isText_body hbody).cons (by decide)).append (isText_byte (by decide))

/-! ## Containers -/

section Containers
variable {α : Type} {R : α → Bytes → Prop} (hR : ∀ x bytes, R x bytes → IsText bytes)
include hR

theorem isText_items {xs : List α} {bytes : Bytes} (text : ItemsText R xs bytes) :
    IsText bytes := by
  induction text with
  | close hws => exact (isText_blanks hws).append (isText_byte (by decide))
  | more hws hws' hx _ ih =>
    exact (((isText_blanks hws).append ((isText_blanks hws').cons (by decide))).append
      (hR _ _ hx)).append ih

theorem isText_array {xs : List α} {bytes : Bytes} (text : ArrayText R xs bytes) :
    IsText bytes := by
  cases text with
  | empty hws => exact ((isText_blanks hws).cons (by decide)).append (isText_byte (by decide))
  | items hws hx hxs =>
    exact (((isText_blanks hws).cons (by decide)).append (hR _ _ hx)).append (isText_items hR hxs)

theorem isText_member {m : String × α} {bytes : Bytes} (text : MemberText R m bytes) :
    IsText bytes := by
  obtain ⟨hkey, hws, hws', hx⟩ := text
  exact (((isText_string hkey).append (isText_blanks hws)).append
    ((isText_blanks hws').cons (by decide))).append (hR _ _ hx)

theorem isText_members {ms : List (String × α)} {bytes : Bytes} (text : MembersText R ms bytes) :
    IsText bytes := by
  induction text with
  | close hws => exact (isText_blanks hws).append (isText_byte (by decide))
  | more hws hws' hm _ ih =>
    exact (((isText_blanks hws).append ((isText_blanks hws').cons (by decide))).append
      (isText_member hR hm)).append ih

theorem isText_object {ms : List (String × α)} {bytes : Bytes} (text : ObjectText R ms bytes) :
    IsText bytes := by
  cases text with
  | empty hws => exact ((isText_blanks hws).cons (by decide)).append (isText_byte (by decide))
  | members hws hm hms =>
    exact (((isText_blanks hws).cons (by decide)).append (isText_member hR hm)).append
      (isText_members hR hms)

end Containers

/-! ## Documents -/

theorem isText_scalar {x : Json} {bytes : Bytes} (text : ScalarText x bytes) : IsText bytes := by
  cases text with
  | number hn => exact isText_numeral hn
  | string hs => exact isText_string hs
  | _ => exact isText_ascii (by simp)

theorem isText_spelled {n : Numeral} {bytes : Bytes} (text : SpelledText n bytes) :
    IsText bytes := by
  obtain ⟨hws, hws₁, hws₂, hws₃, hkey, hs, -⟩ := text
  have hopen := (isText_blanks hws).cons (by decide : (123 : UInt8) < 128)
  have hname := hopen.append (isText_string hkey)
  have hafter := (isText_blanks hws₂).cons (by decide : (58 : UInt8) < 128)
  have hcolon := (isText_blanks hws₁).append hafter
  have hend := (isText_blanks hws₃).append (isText_byte (by decide : (125 : UInt8) < 128))
  simpa using (hname.append hcolon).append ((isText_string hs).append hend)

theorem isText_value {depth : Nat} {x : Json} {bytes : Bytes} (text : ValueText depth x bytes) :
    IsText bytes := by
  induction depth generalizing x bytes with
  | zero => exact isText_scalar text
  | succ depth ih =>
    cases text with
    | scalar h => exact isText_scalar h
    | array h => exact isText_array (fun _ _ => ih) h
    | object h => exact isText_object (fun _ _ => ih) h
    | spelled h => exact isText_spelled h

/-- What spells a document encodes a text. -/
theorem isText_document {x : Json} {bytes : Bytes} (text : Document x bytes) : IsText bytes := by
  obtain ⟨hws, hx, hws'⟩ := text
  exact ((isText_blanks hws).append (isText_value hx)).append (isText_blanks hws')

end RateCard.Json.Grammar
