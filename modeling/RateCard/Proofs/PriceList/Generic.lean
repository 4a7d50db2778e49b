import RateCard.Proofs.Json.Exact.Value
import RateCard.Proofs.PriceList.ReadBack

/-!
# Price lists as documents

The typed reader takes exactly the texts of its own grammar, as the reader of documents does. Since
both grammars share the rules of their containers and spend the same depth on them, a text is a
price list and a document of the same records exactly if none of these starts like a spelled number.
-/
namespace RateCard.PriceList
open RateCard.Json (Members)
open RateCard.Json.Grammar
open RateCard.Json.Scan
open RateCard.Text

/-! ## The typed reader is exact -/

theorem spelled_members {item : Reader Json} {R : Json → Bytes → Prop} (hr : TakesSpelled item R)
    {s rest : Bytes} {r : PriceRecord} (h : members item s = .ok (r, rest)) :
    ∃ bytes, RecordText R r (123 :: bytes) ∧ s = bytes ++ rest := by
  obtain ⟨⟨key, s₁⟩, hfirst, h⟩ := bind_eq_ok.1 h
  have hmembers := spelled_object_members hr hfirst
  cases key with
  | none =>
    cases h
    obtain ⟨bytes, hbytes, hs⟩ := hmembers
    exact ⟨bytes, .mk hbytes, hs⟩
  | some key =>
    obtain ⟨⟨written, s₂⟩, hwritten, h⟩ := bind_eq_ok.1 h
    cases h
    obtain ⟨-, bytes, hbytes, hs⟩ := hmembers.2 hwritten
    exact ⟨bytes, .mk hbytes, hs⟩

theorem takesSpelled_record {item : Reader Json} {R : Json → Bytes → Prop}
    (hr : TakesSpelled item R) : TakesSpelled (record item) (RecordText R) := by
  intro s r rest h
  obtain ⟨ws, hws, hs⟩ := spelled_blanks s
  rw [record] at h
  split at h
  · cases h
  next b s₁ hskip =>
  rw [hskip] at hs
  split_ifs at h with hb
  · obtain ⟨bytes, hbytes, hs₁⟩ := spelled_members hr h
    exact ⟨ws, 123 :: bytes, hws, hbytes, by rw [hs, hb, hs₁, List.cons_append]⟩
  · exact absurd h not_mismatch

theorem takesSpelled_list {item : Reader PriceRecord} {R : PriceRecord → Bytes → Prop}
    (hr : TakesSpelled item R) : TakesSpelled (list item) (ArrayText R) := by
  intro s rs rest h
  obtain ⟨ws, hws, hs⟩ := spelled_blanks s
  rw [list] at h
  split at h
  · cases h
  next b s₁ hskip =>
  rw [hskip] at hs
  split_ifs at h with hb
  · obtain ⟨bytes, hbytes, hs₁⟩ := spelled_array hr h
    exact ⟨ws, 91 :: bytes, hws, hbytes, by rw [hs, hb, hs₁, List.cons_append]⟩
  · exact absurd h not_mismatch

/-- A text is decoded to a price list exactly if it spells it. -/
theorem decode_eq_ok_iff {l : PriceList} {text : Bytes} :
    decode text = .ok l ↔ WholeText ListText l text := by
  refine ⟨wholeText_of_whole fun s l rest h => ?_, decode_text⟩
  obtain ⟨⟨records, s₁⟩, hrecords, h⟩ := bind_eq_ok.1 h
  cases h
  exact takesSpelled_list (takesSpelled_record (takesSpelled_value _)) hrecords

/-! ## The two grammars -/

section Containers
variable {α β : Type} {R : β → Bytes → Prop} {S : α → Bytes → Prop} {P : α → Prop} {f : α → β}
  (h : ∀ x bytes, R (f x) bytes ↔ S x bytes ∧ P x)
include h

theorem itemsText_map_iff {xs : List α} {bytes : Bytes} :
    ItemsText R (xs.map f) bytes ↔ ItemsText S xs bytes ∧ ∀ x ∈ xs, P x := by
  induction xs generalizing bytes with
  | nil =>
    constructor
    · rintro ⟨hws⟩
      exact ⟨.close hws, by simp⟩
    · rintro ⟨⟨hws⟩, -⟩
      exact .close hws
  | cons x xs ih =>
    constructor
    · intro htext
      cases htext with
      | more hws hws' hx hxs =>
        obtain ⟨hx, hP⟩ := (h x _).1 hx
        obtain ⟨hxs, hPs⟩ := ih.1 hxs
        exact ⟨.more hws hws' hx hxs, List.forall_mem_cons.2 ⟨hP, hPs⟩⟩
    · rintro ⟨htext, hP⟩
      obtain ⟨hP, hPs⟩ := List.forall_mem_cons.1 hP
      cases htext with
      | more hws hws' hx hxs => exact .more hws hws' ((h x _).2 ⟨hx, hP⟩) (ih.2 ⟨hxs, hPs⟩)

theorem arrayText_map_iff {xs : List α} {bytes : Bytes} :
    ArrayText R (xs.map f) bytes ↔ ArrayText S xs bytes ∧ ∀ x ∈ xs, P x := by
  cases xs with
  | nil =>
    constructor
    · rintro ⟨hws⟩
      exact ⟨.empty hws, by simp⟩
    · rintro ⟨⟨hws⟩, -⟩
      exact .empty hws
  | cons x xs =>
    constructor
    · intro htext
      cases htext with
      | items hws hx hxs =>
        obtain ⟨hx, hP⟩ := (h x _).1 hx
        obtain ⟨hxs, hPs⟩ := (itemsText_map_iff h).1 hxs
        exact ⟨.items hws hx hxs, List.forall_mem_cons.2 ⟨hP, hPs⟩⟩
    · rintro ⟨htext, hP⟩
      obtain ⟨hP, hPs⟩ := List.forall_mem_cons.1 hP
      cases htext with
      | items hws hx hxs =>
        exact .items hws ((h x _).2 ⟨hx, hP⟩) ((itemsText_map_iff h).2 ⟨hxs, hPs⟩)

end Containers

theorem valueText_array_iff {depth : Nat} {items : List Json} {bytes : Bytes} :
    ValueText (depth + 1) (.array items) bytes ↔ ArrayText (ValueText depth) items bytes := by
  constructor
  · intro h
    cases h with
    | scalar h => cases h
    | array h => exact h
  · exact .array

/-- The object of a record is spelled like the record, unless it starts like a spelled number. -/
theorem valueText_object_iff {depth : Nat} {r : PriceRecord} {bytes : Bytes} :
    ValueText (depth + 1) (.object r) bytes ↔
      RecordText (ValueText depth) r bytes ∧ ¬ StartsNumber r := by
  constructor
  · intro h
    cases h with
    | scalar h => cases h
    | object h hfirst =>
      refine ⟨.mk h, ?_⟩
      rwa [StartsNumber, Members.head_ofWritten]
  · rintro ⟨⟨h⟩, hfirst⟩
    rw [StartsNumber, Members.head_ofWritten] at hfirst
    exact .object h hfirst

theorem document_toJson_iff {l : PriceList} {text : Bytes} :
    Document l.toJson text ↔ WholeText ListText l text ∧ ∀ r ∈ l.records, ¬ StartsNumber r := by
  have hlist (bytes : Bytes) : ValueText maxDepth l.toJson bytes ↔
      ListText l bytes ∧ ∀ r ∈ l.records, ¬ StartsNumber r :=
    valueText_array_iff.trans (arrayText_map_iff fun _ _ => valueText_object_iff)
  constructor
  · rintro ⟨hws, h, hws'⟩
    exact ⟨.mk hws ((hlist _).1 h).1 hws', ((hlist _).1 h).2⟩
  · rintro ⟨⟨hws, h, hws'⟩, hfirst⟩
    exact .mk hws ((hlist _).2 ⟨h, hfirst⟩) hws'

/-- The reader of documents gives the records of a price list as objects exactly if the typed reader
gives the list and none of its records starts like a spelled number. -/
theorem decode_toJson_iff {l : PriceList} {text : Bytes} :
    Json.decode text = .ok l.toJson ↔ decode text = .ok l ∧ ∀ r ∈ l.records, ¬ StartsNumber r := by
  rw [Json.decode_eq_ok_iff, decode_eq_ok_iff, document_toJson_iff]

end RateCard.PriceList
