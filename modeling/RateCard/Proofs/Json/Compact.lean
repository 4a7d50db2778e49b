import RateCard.Proofs.Json.Induction
import RateCard.Proofs.Json.Layout
import RateCard.Proofs.Json.Reading.Value

/-!
# Compact forms tell documents apart

What is printed in front of something that ends it can be cut off again: scalars by the reader of
documents, containers by their brackets and separators. No reader of whole documents would do here,
since an object that starts with the key of a spelled number is printed like any other, but is not
read back.
-/
namespace RateCard.Json
open RateCard.Text Grammar
open Scan (EndsNumeral valueWith stopAt)

/-! ## The printed bytes -/

def printed (x : Json) : Bytes := Utf8.encode (compactChars x)

def printedItems (xs : List Json) : Bytes := Utf8.encode (compactItems xs)

def printedMembers (ms : Members) : Bytes := Utf8.encode (compactMembers ms)

theorem printed_scalar {x : Json} (h : IsScalar x) : ScalarText x (printed x) := by
  cases x with
  | array _ | object _ => exact h.elim
  | _ => exact scalarText_chars trivial

theorem printed_array (x : Json) (xs : List Json) :
    printed (.array (x :: xs)) = 91 :: (printed x ++ (printedItems xs ++ [93])) := by
  simp [printed, printedItems, compactChars]
  rfl

theorem printed_object (m : String × Json) (ms : Members) :
    printed (.object (m :: ms)) =
      123 :: (Utf8.encode (compactMember m) ++ (printedMembers ms ++ [125])) := by
  simp [printed, printedMembers, compactChars]
  rfl

theorem printed_member (key : String) (x : Json) :
    Utf8.encode (compactMember (key, x)) = Utf8.encode (stringChars key) ++ 58 :: printed x := by
  simp [printed, compactMember]
  rfl

theorem printedItems_cons (x : Json) (xs : List Json) :
    printedItems (x :: xs) = 44 :: (printed x ++ printedItems xs) := by
  simp [printed, printedItems, compactItems]
  rfl

theorem printedMembers_cons (m : String × Json) (ms : Members) :
    printedMembers (m :: ms) = 44 :: (Utf8.encode (compactMember m) ++ printedMembers ms) := by
  simp [printedMembers, compactMembers]
  rfl

theorem printed_array_head (items : List Json) : ∃ tl, printed (.array items) = 91 :: tl := by
  cases items <;> exact ⟨_, rfl⟩

theorem printed_object_head (ms : Members) : ∃ tl, printed (.object ms) = 123 :: tl := by
  cases ms <;> exact ⟨_, rfl⟩

theorem printed_scalar_head {x : Json} (h : IsScalar x) : ∃ b tl, printed x = b :: tl ∧ b ≠ 93 := by
  obtain ⟨b, tl, hstart, -, hb⟩ := Scan.scalarText_start (printed_scalar h)
  exact ⟨b, tl, hstart, hb⟩

/-- No document is printed like the end of an array. -/
theorem printed_head (x : Json) : ∃ b tl, printed x = b :: tl ∧ b ≠ 93 := by
  cases x with
  | array items =>
    obtain ⟨tl, h⟩ := printed_array_head items
    exact ⟨91, tl, h, by decide⟩
  | object members =>
    obtain ⟨tl, h⟩ := printed_object_head members
    exact ⟨123, tl, h, by decide⟩
  | _ => exact printed_scalar_head trivial

theorem printed_member_head (m : String × Json) :
    ∃ tl, Utf8.encode (compactMember m) = 34 :: tl := by
  obtain ⟨key, x⟩ := m
  exact ⟨_, rfl⟩

theorem ends_of_separator {b : UInt8} {s : Bytes} (h : b = 44 ∨ b = 93 ∨ b = 125) :
    EndsNumeral (b :: s) := by
  rw [Scan.endsNumeral_cons]
  rcases h with rfl | rfl | rfl <;> decide

theorem ends_items (xs : List Json) (s : Bytes) : EndsNumeral (printedItems xs ++ 93 :: s) := by
  cases xs with
  | nil => exact ends_of_separator (.inr (.inl rfl))
  | cons x xs =>
    rw [printedItems_cons]
    exact ends_of_separator (.inl rfl)

theorem ends_members (ms : Members) (s : Bytes) :
    EndsNumeral (printedMembers ms ++ 125 :: s) := by
  cases ms with
  | nil => exact ends_of_separator (.inr (.inr rfl))
  | cons m ms =>
    rw [printedMembers_cons]
    exact ends_of_separator (.inl rfl)

/-! ## Cutting off -/

/-- A document is known from its printed form, whatever follows it. -/
def CutOff (x : Json) : Prop :=
  ∀ ⦃y : Json⦄ ⦃s t : Bytes⦄, EndsNumeral s → EndsNumeral t →
    printed x ++ s = printed y ++ t → x = y ∧ s = t

theorem cutOff_string {a b : String} {s t : Bytes}
    (h : Utf8.encode (stringChars a) ++ s = Utf8.encode (stringChars b) ++ t) : a = b ∧ s = t := by
  obtain ⟨body, ha, hread⟩ := Scan.string_text (stringText_chars a) s
  obtain ⟨body', hb, hread'⟩ := Scan.string_text (stringText_chars b) t
  rw [ha, hb, List.cons_append, List.cons_append, List.cons.injEq] at h
  rw [h.2, hread', Except.ok.injEq, Prod.mk.injEq] at hread
  exact ⟨hread.1.symm, hread.2.symm⟩

theorem cutOff_items {xs ys : List Json} {s t : Bytes} (hcut : ∀ x ∈ xs, CutOff x)
    (h : printedItems xs ++ 93 :: s = printedItems ys ++ 93 :: t) : xs = ys ∧ s = t := by
  induction xs generalizing ys with
  | nil =>
    cases ys with
    | nil => exact ⟨rfl, (List.cons.inj h).2⟩
    | cons y ys =>
      rw [printedItems_cons] at h
      exact absurd (List.cons.inj h).1 (by decide)
  | cons x xs ih =>
    cases ys with
    | nil =>
      rw [printedItems_cons] at h
      exact absurd (List.cons.inj h).1 (by decide)
    | cons y ys =>
      rw [printedItems_cons, printedItems_cons, List.cons_append, List.cons_append,
        List.cons.injEq, List.append_assoc, List.append_assoc] at h
      obtain ⟨rfl, hrest⟩ := hcut x List.mem_cons_self (ends_items xs s) (ends_items ys t) h.2
      obtain ⟨rfl, rfl⟩ := ih (fun z hz => hcut z (List.mem_cons_of_mem x hz)) hrest
      exact ⟨rfl, rfl⟩

theorem cutOff_member {m n : String × Json} {s t : Bytes} (hcut : CutOff m.2)
    (hs : EndsNumeral s) (ht : EndsNumeral t)
    (h : Utf8.encode (compactMember m) ++ s = Utf8.encode (compactMember n) ++ t) :
    m = n ∧ s = t := by
  obtain ⟨key, x⟩ := m
  obtain ⟨key', y⟩ := n
  rw [printed_member, printed_member, List.append_assoc, List.append_assoc] at h
  obtain ⟨rfl, hvalue⟩ := cutOff_string h
  obtain ⟨rfl, rfl⟩ := hcut hs ht (List.cons.inj hvalue).2
  exact ⟨rfl, rfl⟩

theorem cutOff_members {ms ns : Members} {s t : Bytes} (hcut : ∀ m ∈ ms, CutOff m.2)
    (h : printedMembers ms ++ 125 :: s = printedMembers ns ++ 125 :: t) : ms = ns ∧ s = t := by
  induction ms generalizing ns with
  | nil =>
    cases ns with
    | nil => exact ⟨rfl, (List.cons.inj h).2⟩
    | cons n ns =>
      rw [printedMembers_cons] at h
      exact absurd (List.cons.inj h).1 (by decide)
  | cons m ms ih =>
    cases ns with
    | nil =>
      rw [printedMembers_cons] at h
      exact absurd (List.cons.inj h).1 (by decide)
    | cons n ns =>
      rw [printedMembers_cons, printedMembers_cons, List.cons_append, List.cons_append,
        List.cons.injEq, List.append_assoc, List.append_assoc] at h
      obtain ⟨rfl, hrest⟩ := cutOff_member (hcut m List.mem_cons_self) (ends_members ms s)
        (ends_members ns t) h.2
      obtain ⟨rfl, rfl⟩ := ih (fun k hk => hcut k (List.mem_cons_of_mem m hk)) hrest
      exact ⟨rfl, rfl⟩

/-- Scalars are told from containers by their first byte. -/
theorem isScalar_of_printed {x y : Json} {s t : Bytes} (hx : IsScalar x) (hs : EndsNumeral s)
    (h : printed x ++ s = printed y ++ t) : IsScalar y := by
  have hread := Scan.valueWith_scalar (stopAt .tooDeep) (stopAt .tooDeep) (printed_scalar hx)
    blanks_nil hs
  rw [h] at hread
  cases y with
  | array items =>
    obtain ⟨tl, hy⟩ := printed_array_head items
    rw [hy] at hread
    cases (Scan.valueWith_array _ _ blanks_nil (tl ++ t)).symm.trans hread
  | object members =>
    obtain ⟨tl, hy⟩ := printed_object_head members
    rw [hy] at hread
    cases (Scan.valueWith_object _ _ blanks_nil (tl ++ t)).symm.trans hread
  | _ => trivial

theorem cutOff_scalar {x : Json} (hx : IsScalar x) : CutOff x := by
  intro y s t hs ht h
  have hy := isScalar_of_printed hx hs h
  have hread := Scan.valueWith_scalar (stopAt .tooDeep) (stopAt .tooDeep) (printed_scalar hx)
    blanks_nil hs
  rw [h, Scan.valueWith_scalar _ _ (printed_scalar hy) blanks_nil ht, Except.ok.injEq,
    Prod.mk.injEq] at hread
  exact ⟨hread.1.symm, hread.2.symm⟩

theorem cutOff_array {items : List Json} (hcut : ∀ x ∈ items, CutOff x) :
    CutOff (.array items) := by
  intro y s t hs ht h
  have hy : ¬ IsScalar y := fun hy => isScalar_of_printed hy ht h.symm
  cases y with
  | array ys =>
    cases items with
    | nil =>
      cases ys with
      | nil => exact ⟨rfl, (List.cons.inj (List.cons.inj h).2).2⟩
      | cons y ys =>
        obtain ⟨b, tl, hy, hb⟩ := printed_head y
        rw [printed_array, hy] at h
        exact absurd (List.cons.inj (List.cons.inj h).2).1.symm hb
    | cons x xs =>
      cases ys with
      | nil =>
        obtain ⟨b, tl, hx, hb⟩ := printed_head x
        rw [printed_array, hx] at h
        exact absurd (List.cons.inj (List.cons.inj h).2).1 hb
      | cons y ys =>
        simp only [printed_array, List.cons_append, List.append_assoc, List.nil_append,
          List.cons.injEq, true_and] at h
        obtain ⟨rfl, hrest⟩ := hcut x List.mem_cons_self (ends_items xs s) (ends_items ys t) h
        obtain ⟨rfl, rfl⟩ := cutOff_items (fun z hz => hcut z (List.mem_cons_of_mem x hz)) hrest
        exact ⟨rfl, rfl⟩
  | object ns =>
    obtain ⟨tl, hx⟩ := printed_array_head items
    obtain ⟨tl', hy⟩ := printed_object_head ns
    rw [hx, hy] at h
    exact absurd (List.cons.inj h).1 (by decide)
  | _ => exact (hy trivial).elim

theorem cutOff_object {ms : Members} (hcut : ∀ m ∈ ms, CutOff m.2) : CutOff (.object ms) := by
  intro y s t hs ht h
  have hy : ¬ IsScalar y := fun hy => isScalar_of_printed hy ht h.symm
  cases y with
  | array ys =>
    obtain ⟨tl, hx⟩ := printed_object_head ms
    obtain ⟨tl', hy⟩ := printed_array_head ys
    rw [hx, hy] at h
    exact absurd (List.cons.inj h).1 (by decide)
  | object ns =>
    cases ms with
    | nil =>
      cases ns with
      | nil => exact ⟨rfl, (List.cons.inj (List.cons.inj h).2).2⟩
      | cons n ns =>
        obtain ⟨tl, hn⟩ := printed_member_head n
        rw [printed_object, hn] at h
        exact absurd (List.cons.inj (List.cons.inj h).2).1 (by decide)
    | cons m ms =>
      cases ns with
      | nil =>
        obtain ⟨tl, hm⟩ := printed_member_head m
        rw [printed_object, hm] at h
        exact absurd (List.cons.inj (List.cons.inj h).2).1 (by decide)
      | cons n ns =>
        simp only [printed_object, List.cons_append, List.append_assoc, List.nil_append,
          List.cons.injEq, true_and] at h
        obtain ⟨rfl, hrest⟩ := cutOff_member (hcut m List.mem_cons_self) (ends_members ms s)
          (ends_members ns t) h
        obtain ⟨rfl, rfl⟩ := cutOff_members (fun k hk => hcut k (List.mem_cons_of_mem m hk)) hrest
        exact ⟨rfl, rfl⟩
  | _ => exact (hy trivial).elim

/-- Every document can be cut off what follows it. -/
theorem cutOff (x : Json) : CutOff x := by
  induction x using tree_induction with
  | scalar x h => exact cutOff_scalar h
  | array items ih => exact cutOff_array ih
  | object members ih => exact cutOff_object ih

theorem compact_injective : Function.Injective compact := by
  intro x y h
  have hbytes : printed x ++ [] = printed y ++ [] :=
    congrArg (· ++ []) (congrArg Utf8.encode (String.ofList_injective h))
  exact (cutOff x Scan.endsNumeral_nil Scan.endsNumeral_nil hbytes).1

end RateCard.Json
