import RateCard.Proofs.Json.Reading.Value

/-!
# One text in two grammars

If whatever one grammar spells is spelled in another one too, by something related to it, then so
it is for containers. Here it gives documents the same spellings at every greater depth, by which no
text spells two of them, whatever the depths.
-/
namespace RateCard.Json.Grammar
open RateCard.Text Scan

/-- Members with one key and related values. -/
def MemberRelated {α β : Type} (Q : α → β → Prop) (m : String × α) (n : String × β) : Prop :=
  m.1 = n.1 ∧ Q m.2 n.2

section Containers
variable {α β : Type} {R : α → Bytes → Prop} {S : β → Bytes → Prop} {Q : α → β → Prop}
  (h : ∀ x bytes, R x bytes → ∃ y, S y bytes ∧ Q x y)
include h

theorem related_items {xs : List α} {bytes : Bytes} (text : ItemsText R xs bytes) :
    ∃ ys, ItemsText S ys bytes ∧ List.Forall₂ Q xs ys := by
  induction text with
  | close hws => exact ⟨[], .close hws, .nil⟩
  | more hws hws' hx _ ih =>
    obtain ⟨y, hy, hxy⟩ := h _ _ hx
    obtain ⟨ys, hys, hrelated⟩ := ih
    exact ⟨y :: ys, .more hws hws' hy hys, .cons hxy hrelated⟩

theorem related_array {xs : List α} {bytes : Bytes} (text : ArrayText R xs bytes) :
    ∃ ys, ArrayText S ys bytes ∧ List.Forall₂ Q xs ys := by
  cases text with
  | empty hws => exact ⟨[], .empty hws, .nil⟩
  | items hws hx hxs =>
    obtain ⟨y, hy, hxy⟩ := h _ _ hx
    obtain ⟨ys, hys, hrelated⟩ := related_items h hxs
    exact ⟨y :: ys, .items hws hy hys, .cons hxy hrelated⟩

theorem related_member {m : String × α} {bytes : Bytes} (text : MemberText R m bytes) :
    ∃ n, MemberText S n bytes ∧ MemberRelated Q m n := by
  cases text with
  | @mk key x _ _ _ _ hkey hws hws' hx =>
    obtain ⟨y, hy, hxy⟩ := h _ _ hx
    exact ⟨(key, y), .mk hkey hws hws' hy, rfl, hxy⟩

theorem related_members {ms : List (String × α)} {bytes : Bytes}
    (text : MembersText R ms bytes) :
    ∃ ns, MembersText S ns bytes ∧ List.Forall₂ (MemberRelated Q) ms ns := by
  induction text with
  | close hws => exact ⟨[], .close hws, .nil⟩
  | more hws hws' hm _ ih =>
    obtain ⟨n, hn, hmn⟩ := related_member h hm
    obtain ⟨ns, hns, hrelated⟩ := ih
    exact ⟨n :: ns, .more hws hws' hn hns, .cons hmn hrelated⟩

theorem related_object {ms : List (String × α)} {bytes : Bytes} (text : ObjectText R ms bytes) :
    ∃ ns, ObjectText S ns bytes ∧ List.Forall₂ (MemberRelated Q) ms ns := by
  cases text with
  | empty hws => exact ⟨[], .empty hws, .nil⟩
  | members hws hm hms =>
    obtain ⟨n, hn, hmn⟩ := related_member h hm
    obtain ⟨ns, hns, hrelated⟩ := related_members h hms
    exact ⟨n :: ns, .members hws hn hns, .cons hmn hrelated⟩

end Containers

section Lists
variable {α β : Type} {Q : α → β → Prop}

theorem related_lookup {ms : List (String × α)} {ns : List (String × β)}
    (h : List.Forall₂ (MemberRelated Q) ms ns) {name : String} {x : α}
    (hx : ms.lookup name = some x) : ∃ y, ns.lookup name = some y ∧ Q x y := by
  induction h with
  | nil => cases hx
  | @cons m n ms ns hmn _ ih =>
    rw [List.lookup_cons] at hx
    rw [List.lookup_cons, ← hmn.1]
    cases hkey : name == m.1 with
    | true =>
      rw [hkey] at hx
      obtain rfl : m.2 = x := by simpa using hx
      exact ⟨n.2, rfl, hmn.2⟩
    | false =>
      rw [hkey] at hx
      exact ih hx

theorem related_startsNumber {ms : List (String × α)} {ns : List (String × β)}
    (h : List.Forall₂ (MemberRelated Q) ms ns) : StartsNumber ms ↔ StartsNumber ns := by
  cases h with
  | nil => exact Iff.rfl
  | cons hmn _ => simp [StartsNumber, hmn.1]

end Lists

/-! ## Depth -/

theorem valueText_succ {depth : Nat} {x : Json} {bytes : Bytes} (h : ValueText depth x bytes) :
    ValueText (depth + 1) x bytes := by
  induction depth generalizing x bytes with
  | zero => exact .scalar h
  | succ depth ih =>
    have hsame (y : Json) (b : Bytes) (hy : ValueText depth y b) :
        ∃ z, ValueText (depth + 1) z b ∧ y = z := ⟨y, ih hy, rfl⟩
    cases h with
    | scalar h => exact .scalar h
    | array h =>
      obtain ⟨ys, hys, hrelated⟩ := related_array hsame h
      rw [List.forall₂_eq_eq_eq] at hrelated
      exact .array (hrelated ▸ hys)
    | @object written _ h hfirst =>
      obtain ⟨ns, hns, hrelated⟩ := related_object hsame h
      have hequal : written = ns := by
        rw [← List.forall₂_eq_eq_eq]
        exact hrelated.imp fun m n hmn => Prod.ext hmn.1 hmn.2
      subst hequal
      exact .object hns hfirst
    | spelled h => exact .spelled h

theorem valueText_mono {depth depth' : Nat} (hd : depth ≤ depth') {x : Json} {bytes : Bytes}
    (h : ValueText depth x bytes) : ValueText depth' x bytes := by
  induction hd with
  | refl => exact h
  | step _ ih => exact valueText_succ ih

/-- No text spells two documents. -/
theorem valueText_unique {depth depth' : Nat} {x y : Json} {bytes : Bytes}
    (hx : ValueText depth x bytes) (hy : ValueText depth' y bytes) : x = y := by
  have hx' := (reads_value (max depth depth')).read (valueText_mono (le_max_left ..) hx) blanks_nil
    endsNumeral_nil
  have hy' := (reads_value (max depth depth')).read (valueText_mono (le_max_right ..) hy) blanks_nil
    endsNumeral_nil
  rw [hx', Except.ok.injEq, Prod.mk.injEq] at hy'
  exact hy'.1

end RateCard.Json.Grammar
