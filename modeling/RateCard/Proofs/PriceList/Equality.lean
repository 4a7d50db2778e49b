import RateCard.Proofs.Json.Compact
import RateCard.Proofs.Json.Place
import RateCard.Proofs.PriceList.ReadBack

/-!
# Equal price lists

On lists in which no object repeats a key, equality is identity of the sorted forms. That makes it
an equivalence, and says what it looks at: the order of arrays and the text of numbers, but nowhere
the order of keys.
-/
namespace RateCard.PriceList
open RateCard.Json (Distinct Reordered Place)

/-- A price list in which no object repeats a key, at any depth. -/
abbrev KeyedList := { l : PriceList // Distinct l.toJson }

theorem distinct_of_held {l : PriceList} (h : Held l) : Distinct l.toJson := by
  refine .array fun x hx => ?_
  obtain ⟨r, hr, rfl⟩ := List.mem_map.1 hx
  obtain ⟨hkeys, hvalues⟩ := h.readable r hr
  exact .object hkeys fun m hm => Json.distinct_of_readable (hvalues m hm)

theorem same_iff_sorted (a b : KeyedList) :
    a.1.same b.1 = true ↔ a.1.toJson.sorted = b.1.toJson.sorted :=
  Json.same_iff_sorted a.2 b.2

theorem same_refl (l : KeyedList) : l.1.same l.1 = true := (same_iff_sorted l l).2 rfl

theorem numeral_chars_injective {m n : Json.Numeral} (h : m.chars = n.chars) : m = n := by
  have hcompact : Json.compact (.number m) = Json.compact (.number n) := congrArg String.ofList h
  exact Json.number.inj (Json.compact_injective hcompact)

/-- Equality of price lists is an equivalence, and is identity once the keys of all objects are
sorted. Equal lists have equal documents at every place, arrays are equal item by item and numbers
by their texts. The order of the members of an object matters nowhere, and lists with one compact
form are equal. All lists that the program holds are among these. -/
theorem same_equivalence :
    (Equivalence fun a b : KeyedList => a.1.same b.1 = true) ∧
    (∀ a b : KeyedList, a.1.same b.1 = true ↔ a.1.toJson.sorted = b.1.toJson.sorted) ∧
    (∀ (a b : KeyedList) (place : Place) (x : Json), a.1.same b.1 = true →
      Json.at? place a.1.toJson = some x →
      ∃ y, Json.at? place b.1.toJson = some y ∧ Json.same x y = true) ∧
    (∀ xs ys, Json.same (.array xs) (.array ys) = true ↔
      List.Forall₂ (fun x y => Json.same x y = true) xs ys) ∧
    (∀ m n, Json.same (.number m) (.number n) = true ↔ m.chars = n.chars) ∧
    (∀ (a : KeyedList) (b : PriceList), Reordered a.1.toJson b.toJson → a.1.same b = true) ∧
    (∀ (a : KeyedList) (b : PriceList), a.1.compact = b.compact → a.1.same b = true) ∧
    ∀ l, Held l → Distinct l.toJson := by
  refine ⟨⟨same_refl, fun {a b} h => ?_, fun {a b c} hab hbc => ?_⟩, same_iff_sorted,
    fun a b place x h hx => Json.same_at h hx, fun xs ys => Json.same_array, fun m n => ?_,
    fun a b h => Json.same_of_reordered h a.2, fun a b h => ?_, fun l => distinct_of_held⟩
  · exact (same_iff_sorted b a).2 ((same_iff_sorted a b).1 h).symm
  · rw [same_iff_sorted] at hab hbc ⊢
    exact hab.trans hbc
  · rw [Json.same, beq_iff_eq]
    exact ⟨fun h => congrArg _ h, numeral_chars_injective⟩
  · have hrefl := same_refl a
    rw [same] at hrefl ⊢
    rwa [← Json.compact_injective h]

/-- Two lists that differ in the order of keys inside a record, and a third whose number is
spelled with one more digit. -/
theorem same_equivalence_nested :
    let one : Json.Numeral := ⟨false, .leading 0 [], [], none⟩
    let oneZero : Json.Numeral := ⟨false, .leading 0 [], [0], none⟩
    let list (inner : Json.Members) : PriceList := ⟨[[("tiers", .array [.null, .object inner])]]⟩
    let place : Place := [.item 0, .key "tiers", .item 1, .key "above"]
    ∃ a b c : KeyedList, a.1 = list [("above", .number one), ("prompt", .null)] ∧
      b.1 = list [("prompt", .null), ("above", .number one)] ∧
      c.1 = list [("above", .number oneZero), ("prompt", .null)] ∧
      a.1.same b.1 = true ∧ b.1.same a.1 = true ∧ a.1.toJson.sorted = b.1.toJson.sorted ∧
      (∃ y, Json.at? place b.1.toJson = some y ∧ Json.same (.number one) y = true) ∧
      a.1.same c.1 = false := by
  intro one oneZero list place
  obtain ⟨hequiv, hsorted, hplace, -, hnumber, hreorder, -, -⟩ := same_equivalence
  have hinner (n : Json.Numeral) :
      Distinct (.object [("above", .number n), ("prompt", .null)]) := by
    refine .object (by simp [Json.Members.keys]) fun m hm => ?_
    rcases List.mem_pair.1 hm with rfl | rfl <;> exact .scalar trivial
  have hkeyed (inner : Json.Members) (h : Distinct (.object inner)) :
      Distinct (list inner).toJson := by
    refine .array fun x hx => ?_
    obtain rfl := List.mem_singleton.1 hx
    refine .object (by simp [Json.Members.keys]) fun m hm => ?_
    obtain rfl := List.mem_singleton.1 hm
    refine .array fun x hx => ?_
    rcases List.mem_pair.1 hx with rfl | rfl
    · exact .scalar trivial
    · exact h
  let a : KeyedList := ⟨_, hkeyed _ (hinner one)⟩
  let c : KeyedList := ⟨_, hkeyed _ (hinner oneZero)⟩
  have hswap : Reordered a.1.toJson (list [("prompt", .null), ("above", .number one)]).toJson :=
    .item [] [] (.value [] [] "tiers" (.item [.null] [] (.members (.swap ..))))
  let b : KeyedList := ⟨_, Json.distinct_of_reordered hswap a.2⟩
  have hab : a.1.same b.1 = true := hreorder a _ hswap
  refine ⟨a, b, c, rfl, rfl, rfl, hab, hequiv.symm hab, (hsorted a b).1 hab,
    hplace a b place _ hab rfl, ?_⟩
  rw [Bool.eq_false_iff]
  intro hac
  obtain ⟨z, hz, hsame⟩ := hplace a c place (.number one) hac rfl
  obtain rfl : z = .number oneZero := (Option.some.inj hz).symm
  exact absurd ((hnumber _ _).1 hsame) (by decide)

end RateCard.PriceList
