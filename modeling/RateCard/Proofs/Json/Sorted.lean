import Mathlib.Data.List.Perm.Subperm
import Mathlib.Data.String.Basic
import RateCard.Proofs.Json.RepeatedKeys

/-!
# Equality up to the order of keys

Documents in which no object repeats a key are equal exactly if sorting the keys of all objects
makes them identical. The equality of objects looks up the members on the left among those on the
right only. Since keys are distinct and the sizes are equal, it finds a permutation all the same.
-/
namespace RateCard.Json

/-- No object repeats a key, at any depth. -/
inductive Distinct : Json → Prop where
  | scalar {x : Json} : IsScalar x → Distinct x
  | array {items : List Json} : (∀ x ∈ items, Distinct x) → Distinct (.array items)
  | object {members : Members} :
      (Members.keys members).Nodup → (∀ m ∈ members, Distinct m.2) → Distinct (.object members)

theorem distinct_of_readable {depth : Nat} {x : Json} (h : Readable depth x) : Distinct x := by
  induction depth generalizing x with
  | zero => exact .scalar h
  | succ depth ih =>
    cases x with
    | array items => exact .array fun x hx => ih (h x hx)
    | object members => exact .object h.1.1 fun m hm => ih (h.1.2 m hm)
    | _ => exact .scalar trivial

theorem Distinct.item {items : List Json} (h : Distinct (.array items)) {x : Json}
    (hx : x ∈ items) : Distinct x := by
  cases h with
  | scalar h => exact h.elim
  | array h => exact h x hx

theorem Distinct.keys {members : Members} (h : Distinct (.object members)) :
    (Members.keys members).Nodup := by
  cases h with
  | scalar h => exact h.elim
  | object h => exact h

theorem Distinct.member {members : Members} (h : Distinct (.object members)) {m : String × Json}
    (hm : m ∈ members) : Distinct m.2 := by
  cases h with
  | scalar h => exact h.elim
  | object _ h => exact h m hm

/-! ## The sorted form -/

/-- Members in the order of their keys. -/
def Members.inOrder (members : Members) : Members := members.mergeSort fun m n => m.1 ≤ n.1

mutual

/-- A document with the members of every object in the order of their keys. -/
def sorted : Json → Json
  | .array items => .array (sortedItems items)
  | .object members => .object (Members.inOrder (sortedMembers members))
  | leaf => leaf

def sortedItems : List Json → List Json
  | [] => []
  | x :: xs => sorted x :: sortedItems xs

def sortedMembers : List (String × Json) → List (String × Json)
  | [] => []
  | (key, x) :: ms => (key, sorted x) :: sortedMembers ms

end

theorem sortedItems_eq (items : List Json) : sortedItems items = items.map sorted := by
  induction items with
  | nil => rfl
  | cons x xs ih => rw [sortedItems, ih, List.map_cons]

theorem sortedMembers_eq (members : Members) :
    sortedMembers members = members.map fun m => (m.1, sorted m.2) := by
  induction members with
  | nil => rfl
  | cons m ms ih => rw [sortedMembers, ih, List.map_cons]

@[simp] theorem keys_sortedMembers (members : Members) :
    Members.keys (sortedMembers members) = Members.keys members := by
  rw [sortedMembers_eq, Members.keys, List.map_map]
  rfl

theorem Members.inOrder_perm (members : Members) : (inOrder members).Perm members :=
  List.mergeSort_perm members _

/-- Members with distinct keys have one order. -/
theorem Members.inOrder_eq_iff {members members' : Members} (h : (keys members).Nodup) :
    inOrder members = inOrder members' ↔ members.Perm members' := by
  constructor
  · intro he
    exact (inOrder_perm members).symm.trans (he ▸ inOrder_perm members')
  · intro hperm
    have hordered (ms : Members) : (inOrder ms).Pairwise fun m n => m.1 ≤ n.1 := by
      have htrans (a b c : String × Json) (hab : decide (a.1 ≤ b.1) = true)
          (hbc : decide (b.1 ≤ c.1) = true) : decide (a.1 ≤ c.1) = true :=
        decide_eq_true ((of_decide_eq_true hab).trans (of_decide_eq_true hbc))
      have htotal (a b : String × Json) :
          (decide (a.1 ≤ b.1) || decide (b.1 ≤ a.1)) = true := by
        simpa using le_total a.1 b.1
      simpa only [inOrder, decide_eq_true_eq] using List.pairwise_mergeSort htrans htotal ms
    have hall := (inOrder_perm members).trans (hperm.trans (inOrder_perm members').symm)
    refine hall.eq_of_pairwise (fun m n hm hn hmn hnm => ?_) (hordered _) (hordered _)
    have hm := (inOrder_perm members).mem_iff.1 hm
    have hn := hperm.mem_iff.2 ((inOrder_perm members').mem_iff.1 hn)
    exact List.inj_on_of_nodup_map h hm hn (le_antisymm hmn hnm)

/-! ## Equality -/

theorem sameItems_iff {xs ys : List Json} :
    sameItems xs ys = true ↔ List.Forall₂ (fun x y => same x y = true) xs ys := by
  induction xs generalizing ys with
  | nil => cases ys <;> simp [sameItems]
  | cons x xs ih => cases ys <;> simp [sameItems, ih]

theorem sameMembers_iff {ms ns : Members} :
    sameMembers ms ns = true ↔
      ∀ m ∈ ms, ∃ x, Members.get? m.1 ns = some x ∧ same m.2 x = true := by
  induction ms with
  | nil => simp [sameMembers]
  | cons m ms ih =>
    obtain ⟨key, x⟩ := m
    rw [sameMembers, Bool.and_eq_true, ih, List.forall_mem_cons]
    refine and_congr_left fun _ => ?_
    cases Members.get? key ns <;> simp

theorem same_array {xs ys : List Json} : same (.array xs) (.array ys) = true ↔
    List.Forall₂ (fun x y => same x y = true) xs ys := by
  rw [same, sameItems_iff]

theorem same_object {ms ns : Members} : same (.object ms) (.object ns) = true ↔
    ms.length = ns.length ∧
      ∀ m ∈ ms, ∃ x, Members.get? m.1 ns = some x ∧ same m.2 x = true := by
  rw [same, Bool.and_eq_true, beq_iff_eq, sameMembers_iff]

theorem forall₂_same_iff {xs ys : List Json}
    (h : ∀ x ∈ xs, ∀ y ∈ ys, (same x y = true ↔ sorted x = sorted y)) :
    List.Forall₂ (fun x y => same x y = true) xs ys ↔ xs.map sorted = ys.map sorted := by
  induction xs generalizing ys with
  | nil => cases ys <;> simp
  | cons x xs ih =>
    cases ys with
    | nil => simp
    | cons y ys =>
      have hrest := ih fun x' hx' y' hy' =>
        h x' (List.mem_cons_of_mem x hx') y' (List.mem_cons_of_mem y hy')
      simp [hrest, h x List.mem_cons_self y List.mem_cons_self]

/-- Looking up on one side is enough: members that are all found among as many others are those
others in some order. -/
theorem lookUp_iff_perm {ms ns : Members} (hms : (Members.keys ms).Nodup)
    (hns : (Members.keys ns).Nodup)
    (h : ∀ m ∈ ms, ∀ n ∈ ns, (same m.2 n.2 = true ↔ sorted m.2 = sorted n.2)) :
    (ms.length = ns.length ∧
        ∀ m ∈ ms, ∃ x, Members.get? m.1 ns = some x ∧ same m.2 x = true) ↔
      (sortedMembers ms).Perm (sortedMembers ns) := by
  constructor
  · rintro ⟨hlength, hfound⟩
    have hsubset : sortedMembers ms ⊆ sortedMembers ns := by
      intro m' hm'
      rw [sortedMembers_eq, List.mem_map] at hm' ⊢
      obtain ⟨m, hm, rfl⟩ := hm'
      obtain ⟨x, hx, hsame⟩ := hfound m hm
      have hn := Members.mem_of_get? hx
      exact ⟨(m.1, x), hn, by rw [(h m hm _ hn).1 hsame]⟩
    have hnodup : (sortedMembers ms).Nodup := by
      rw [← keys_sortedMembers] at hms
      exact hms.of_map
    -- Without repeated members a subset of equal size leaves nothing out on the right.
    refine (List.subperm_of_subset hnodup hsubset).perm_of_length_le ?_
    rw [sortedMembers_eq, sortedMembers_eq, List.length_map, List.length_map, hlength]
  · intro hperm
    rw [sortedMembers_eq, sortedMembers_eq] at hperm
    refine ⟨by simpa using hperm.length_eq, fun m hm => ?_⟩
    have hm' := hperm.mem_iff.1 (List.mem_map_of_mem hm)
    obtain ⟨n, hn, he⟩ := List.mem_map.1 hm'
    rw [Prod.mk.injEq] at he
    refine ⟨n.2, Members.get?_of_mem hns ?_, (h m hm n hn).2 he.2.symm⟩
    exact he.1 ▸ hn

/-- Equality is identity of the sorted forms. -/
theorem same_iff_sorted {a b : Json} (ha : Distinct a) (hb : Distinct b) :
    same a b = true ↔ sorted a = sorted b := by
  induction ha generalizing b with
  | @scalar a h =>
    cases a with
    | array _ | object _ => exact h.elim
    | _ => cases b <;> simp [same, sorted]
  | @array xs _ ih =>
    cases b with
    | array ys =>
      rw [same_array, forall₂_same_iff fun x hx y hy => ih x hx (hb.item hy), sorted, sorted,
        Json.array.injEq, sortedItems_eq, sortedItems_eq]
    | _ => simp [same, sorted]
  | @object ms hkeys _ ih =>
    cases b with
    | object ns =>
      have hkeys' : (Members.keys (sortedMembers ms)).Nodup := by rwa [keys_sortedMembers]
      rw [same_object, lookUp_iff_perm hkeys hb.keys fun m hm n hn => ih m hm (hb.member hn),
        sorted, sorted, Json.object.injEq, Members.inOrder_eq_iff hkeys']
    | _ => simp [same, sorted]

end RateCard.Json
