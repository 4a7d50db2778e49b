import Mathlib.Tactic
import RateCard.Json.Print
import RateCard.Proofs.Json.Readable
import RateCard.Proofs.Text.Utf8

/-!
# Printed documents are spelled

Both layouts print texts of the grammar. A node is printed in the grammar when its elements and
member values are, which gives each layout by induction on the depth.
-/
namespace RateCard.Json
open RateCard.Text Grammar
open Scan (isLeadUnit isTrailUnit hexDigit?)

/-! ## Numbers and strings -/

theorem encode_digit (d : Digit) : String.utf8EncodeChar d.char = [digitByte d] := by
  revert d
  decide

theorem encode_digits (ds : List Digit) : Utf8.encode (ds.map Digit.char) = digitBytes ds := by
  induction ds with
  | nil => rfl
  | cons d ds ih => rw [List.map_cons, Utf8.encode_cons, encode_digit, ih]; rfl

theorem encode_sign (negative : Bool) :
    Utf8.encode (Numeral.signChars negative) = if negative then [45] else [] := by
  cases negative <;> rfl

theorem fractionText_chars (fraction : List Digit) :
    FractionText fraction (Utf8.encode (Numeral.fractionChars fraction)) := by
  cases fraction with
  | nil => exact .none
  | cons d ds =>
    rw [Numeral.fractionChars, Utf8.encode_cons, encode_digits]
    · exact .some (by simp)
    · simp

theorem exponentText_chars (exponent : Option Exponent) :
    ExponentText exponent (Utf8.encode (Numeral.exponentChars exponent)) := by
  cases exponent with
  | none => exact .none
  | some e =>
    rcases e with ⟨negative, first, more⟩
    rw [Numeral.exponentChars, Utf8.encode_cons, Utf8.encode_cons, encode_digits]
    cases negative with
    | false => exact .some (.inl rfl) .plus
    | true => exact .some (.inl rfl) .minus

theorem numeralText_chars (n : Numeral) : NumeralText n (Utf8.encode n.chars) := by
  rw [Numeral.chars, Utf8.encode_append, Utf8.encode_append, Utf8.encode_append, encode_sign,
    encode_digits]
  exact .mk (fractionText_chars n.fraction) (exponentText_chars n.exponent)

theorem hexDigit_hexChar : ∀ k : Fin 16, ∃ b, String.utf8EncodeChar (hexChar k) = [b] ∧
    hexDigit? b = some k.val := by
  intro k
  refine ⟨(String.utf8EncodeChar (hexChar k)).headD 0, ?_, ?_⟩ <;> revert k <;> decide

/-- A control character is printed as the number of its code point. -/
theorem charText_control {c : Char} (h : c.toNat < 32) :
    CharText c (Utf8.encode
      ['\\', 'u', '0', '0', hexChar (c.toNat / 16), hexChar (c.toNat % 16)]) := by
  obtain ⟨high, hhigh, hhigh'⟩ := hexDigit_hexChar ⟨c.toNat / 16, by omega⟩
  obtain ⟨low, hlow, hlow'⟩ := hexDigit_hexChar ⟨c.toNat % 16, by omega⟩
  have hzero : hexDigit? 48 = some 0 := by decide
  have hunit := HexText.mk hzero hzero hhigh' hlow'
  have hsum : ((0 * 16 + 0) * 16 + c.toNat / 16) * 16 + c.toNat % 16 = c.toNat := by omega
  rw [hsum] at hunit
  have htext := CharText.unit hunit (by simp [isLeadUnit]; omega) (by simp [isTrailUnit]; omega)
  rw [Char.ofNat_toNat] at htext
  simp only [Utf8.encode_cons, Utf8.encode_nil, hhigh, hlow]
  exact htext

theorem charText_escapeChar (c : Char) : CharText c (Utf8.encode (escapeChar c)) := by
  unfold escapeChar
  split_ifs with h1 h2 h3 h4 h5 h6 h7 h8
  case pos => exact .short (by subst h1; decide)
  case pos => exact .short (by subst h2; decide)
  case pos => exact .short (by subst h3; decide)
  case pos => exact .short (by subst h4; decide)
  case pos => exact .short (by subst h5; decide)
  case pos => exact .short (by subst h6; decide)
  case pos => exact .short (by subst h7; decide)
  case pos => exact charText_control h8
  case neg =>
    rw [Utf8.encode_cons, Utf8.encode_nil, List.append_nil]
    exact .plain (by omega) h1 h2

theorem bodyText_escaped (cs : List Char) :
    BodyText cs (Utf8.encode (cs.flatMap escapeChar)) := by
  induction cs with
  | nil => exact .nil
  | cons c cs ih =>
    rw [List.flatMap_cons, Utf8.encode_append]
    exact .cons (charText_escapeChar c) ih

theorem stringText_chars (s : String) : StringText s (Utf8.encode (stringChars s)) := by
  have h := StringText.mk (bodyText_escaped s.toList)
  rw [String.ofList_toList] at h
  rw [stringChars, List.cons_append, Utf8.encode_cons, Utf8.encode_append]
  exact h

theorem scalarText_chars {x : Json} (h : IsScalar x) :
    ScalarText x (Utf8.encode (scalarChars x)) := by
  cases x with
  | null => exact .null
  | bool b => cases b <;> constructor
  | number n => exact .number (numeralText_chars n)
  | string s => exact .string (stringText_chars s)
  | array _ | object _ => exact h.elim

/-! ## Nodes -/

/-- What one layout prints inside a container: `gap` stands in front of every element and member,
`space` behind a colon. -/
structure Inside (value : Json → Bytes) where
  gap : Bytes
  space : Bytes
  items : List Json → Bytes
  members : List (String × Json) → Bytes
  blanks_gap : Blanks gap
  blanks_space : Blanks space
  items_nil : items [] = []
  items_cons (x : Json) (xs : List Json) : items (x :: xs) = 44 :: gap ++ value x ++ items xs
  members_nil : members [] = []
  members_cons (key : String) (x : Json) (ms : List (String × Json)) :
    members ((key, x) :: ms) =
      44 :: gap ++ (Utf8.encode (stringChars key) ++ 58 :: space ++ value x) ++ members ms

namespace Inside
variable {value : Json → Bytes} (inside : Inside value)

/-- A node around these insides, with `close` in front of its closing bracket. -/
def node (close : Bytes) : Json → Bytes
  | .array (x :: xs) => 91 :: inside.gap ++ value x ++ (inside.items xs ++ (close ++ [93]))
  | .object ((key, x) :: ms) =>
    123 :: inside.gap ++ (Utf8.encode (stringChars key) ++ 58 :: inside.space ++ value x) ++
      (inside.members ms ++ (close ++ [125]))
  | leaf => Utf8.encode (scalarChars leaf)

variable {P : Json → Prop} {R : Json → Bytes → Prop} {close : Bytes}

theorem itemsText (hclose : Blanks close) {xs : List Json} (h : ∀ x ∈ xs, R x (value x)) :
    ItemsText R xs (inside.items xs ++ (close ++ [93])) := by
  induction xs with
  | nil =>
    rw [inside.items_nil]
    exact .close hclose
  | cons x xs ih =>
    have hrest := ih fun y hy => h y (List.mem_cons_of_mem x hy)
    have := ItemsText.more blanks_nil inside.blanks_gap (h x (by simp)) hrest
    simpa [inside.items_cons] using this

theorem memberText {x : Json} (h : R x (value x)) (key : String) :
    MemberText R (key, x)
      (Utf8.encode (stringChars key) ++ 58 :: inside.space ++ value x) := by
  have := MemberText.mk (stringText_chars key) blanks_nil
    inside.blanks_space h
  simpa using this

theorem membersText (hclose : Blanks close) {ms : List (String × Json)}
    (h : ∀ m ∈ ms, R m.2 (value m.2)) :
    MembersText R ms (inside.members ms ++ (close ++ [125])) := by
  induction ms with
  | nil =>
    rw [inside.members_nil]
    exact .close hclose
  | cons m ms ih =>
    obtain ⟨key, x⟩ := m
    have hrest := ih fun n hn => h n (List.mem_cons_of_mem _ hn)
    have hfirst := inside.memberText (h (key, x) (by simp)) key
    have := MembersText.more blanks_nil inside.blanks_gap hfirst hrest
    simpa [inside.members_cons] using this

theorem arrayText (hclose : Blanks close) {items : List Json} (h : ∀ x ∈ items, R x (value x)) :
    ArrayText R items (inside.node close (.array items)) := by
  cases items with
  | nil => exact .empty blanks_nil
  | cons x xs =>
    exact .items inside.blanks_gap (h x (by simp))
      (inside.itemsText hclose fun y hy => h y (List.mem_cons_of_mem x hy))

theorem objectText (hclose : Blanks close) {members : Members}
    (h : ∀ m ∈ members, R m.2 (value m.2)) :
    ObjectText R members (inside.node close (.object members)) := by
  cases members with
  | nil => exact .empty blanks_nil
  | cons m ms =>
    obtain ⟨key, x⟩ := m
    exact .members inside.blanks_gap (inside.memberText (h (key, x) (by simp)) key)
      (inside.membersText hclose fun n hn => h n (List.mem_cons_of_mem _ hn))

theorem nodeText (hclose : Blanks close) (hR : ∀ x, P x → R x (value x)) {x : Json}
    (h : NodeReadable P x) : NodeText R x (inside.node close x) := by
  cases x with
  | array items => exact .array (inside.arrayText hclose fun x hx => hR x (h x hx))
  | object members =>
    obtain ⟨⟨hkeys, hvalues⟩, hfirst⟩ := h
    have htext := inside.objectText hclose fun m hm => hR m.2 (hvalues m hm)
    have := NodeText.object htext hfirst
    rwa [Members.ofWritten_of_nodup hkeys] at this
  | _ => exact .scalar (scalarText_chars trivial)

end Inside

/-! ## Layouts -/

def compactInside : Inside fun x => Utf8.encode (compactChars x) where
  gap := []
  space := []
  items xs := Utf8.encode (compactItems xs)
  members ms := Utf8.encode (compactMembers ms)
  blanks_gap := blanks_nil
  blanks_space := blanks_nil
  items_nil := rfl
  items_cons x xs := by
    simp [compactItems]
    rfl
  members_nil := rfl
  members_cons key x ms := by
    simp [compactMembers, compactMember]
    rfl

theorem encode_compact (x : Json) :
    Utf8.encode (compactChars x) = compactInside.node [] x := by
  cases x with
  | array items =>
    cases items with
    | nil => rfl
    | cons x xs =>
      simp [compactChars, Inside.node, compactInside]
      rfl
  | object members =>
    cases members with
    | nil => rfl
    | cons m ms =>
      obtain ⟨key, x⟩ := m
      simp [compactChars, compactMember, Inside.node, compactInside]
      rfl
  | _ => rfl

theorem blanks_lineBreak (depth : Nat) : Blanks (Utf8.encode (lineBreak depth)) := by
  intro b hb
  simp only [lineBreak, Utf8.encode, List.flatMap_cons, List.mem_append, List.mem_flatMap,
    List.mem_replicate] at hb
  rcases hb with hb | ⟨c, ⟨-, rfl⟩, hb⟩
  · have hbreak : (String.utf8EncodeChar '\n').all Scan.isBlank = true := by decide
    exact List.all_eq_true.1 hbreak b hb
  · have hspace : (String.utf8EncodeChar ' ').all Scan.isBlank = true := by decide
    exact List.all_eq_true.1 hspace b hb

def prettyInside (depth : Nat) : Inside fun x => Utf8.encode (prettyChars depth x) where
  gap := Utf8.encode (lineBreak depth)
  space := [32]
  items xs := Utf8.encode (prettyItems depth xs)
  members ms := Utf8.encode (prettyMembers depth ms)
  blanks_gap := blanks_lineBreak depth
  blanks_space := by simp [Blanks, Scan.isBlank]
  items_nil := rfl
  items_cons x xs := by
    simp [prettyItems]
    rfl
  members_nil := rfl
  members_cons key x ms := by
    simp [prettyMembers, prettyMember]
    rfl

theorem encode_pretty (depth : Nat) (x : Json) :
    Utf8.encode (prettyChars depth x) =
      (prettyInside (depth + 1)).node (Utf8.encode (lineBreak depth)) x := by
  cases x with
  | array items =>
    cases items with
    | nil => rfl
    | cons x xs =>
      simp [prettyChars, Inside.node, prettyInside]
      rfl
  | object members =>
    cases members with
    | nil => rfl
    | cons m ms =>
      obtain ⟨key, x⟩ := m
      simp [prettyChars, prettyMember, Inside.node, prettyInside]
      rfl
  | _ => rfl

theorem valueText_compact {depth : Nat} {x : Json} (h : Readable depth x) :
    ValueText depth x (Utf8.encode (compactChars x)) := by
  induction depth generalizing x with
  | zero =>
    cases x with
    | array _ | object _ => exact h.elim
    | _ => exact scalarText_chars trivial
  | succ depth ih =>
    rw [encode_compact]
    exact compactInside.nodeText blanks_nil (fun _ => ih) h

theorem valueText_pretty {depth : Nat} {x : Json} (h : Readable depth x) (indent : Nat) :
    ValueText depth x (Utf8.encode (prettyChars indent x)) := by
  induction depth generalizing x indent with
  | zero =>
    cases x with
    | array _ | object _ => exact h.elim
    | _ => exact scalarText_chars trivial
  | succ depth ih =>
    rw [encode_pretty]
    exact (prettyInside (indent + 1)).nodeText (blanks_lineBreak indent)
      (fun _ hx => ih hx (indent + 1)) h

end RateCard.Json
