import RateCard.Proofs.Json.Sorted

/-!
# Places in a document

A place is a way down into a document: the index in an array or the key in an object, level by
level. Equal documents have equal documents at every place, and changing the order of the members
of an object at any place leaves a document equal.
-/
namespace RateCard.Json

/-- One level down: into an array or into an object. -/
inductive Step where
  | item (index : Nat)
  | key (name : String)
  deriving DecidableEq, Repr

abbrev Place := List Step

/-- What stands at a place of a document. -/
def at? : Place → Json → Option Json
  | [], x => some x
  | .item index :: place, .array items => items[index]?.bind (at? place)
  | .key name :: place, .object members => (Members.get? name members).bind (at? place)
  | _ :: _, _ => none

theorem at?_item {index : Nat} {place : Place} {x y : Json} :
    at? (.item index :: place) x = some y ↔
      ∃ items z, x = .array items ∧ items[index]? = some z ∧ at? place z = some y := by
  cases x with
  | array items => simp [at?, Option.bind_eq_some_iff]
  | _ => simp [at?]

theorem at?_key {name : String} {place : Place} {x y : Json} :
    at? (.key name :: place) x = some y ↔
      ∃ members z, x = .object members ∧ Members.get? name members = some z ∧
        at? place z = some y := by
  cases x with
  | object members => simp [at?, Option.bind_eq_some_iff]
  | _ => simp [at?]

/-- Related lists have related elements at every index. -/
theorem related_getElem? {α β : Type} {R : α → β → Prop} {xs : List α} {ys : List β}
    (h : List.Forall₂ R xs ys) {index : Nat} {x : α} (hx : xs[index]? = some x) :
    ∃ y, ys[index]? = some y ∧ R x y := by
  induction h generalizing index with
  | nil => cases hx
  | @cons a b as bs hab _ ih =>
    cases index with
    | zero =>
      obtain rfl : a = x := by simpa using hx
      exact ⟨b, rfl, hab⟩
    | succ index => exact ih hx

/-- Equal documents have equal documents at every place. -/
theorem same_at {place : Place} {a b x : Json} (h : same a b = true)
    (hx : at? place a = some x) : ∃ y, at? place b = some y ∧ same x y = true := by
  induction place generalizing a b with
  | nil =>
    obtain rfl := Option.some.inj hx
    exact ⟨b, rfl, h⟩
  | cons step place ih =>
    cases step with
    | item index =>
      obtain ⟨xs, x', rfl, hitem, hx⟩ := at?_item.1 hx
      cases b with
      | array ys =>
        obtain ⟨y', hitem', hsame'⟩ := related_getElem? (same_array.1 h) hitem
        obtain ⟨y, hy, hsame⟩ := ih hsame' hx
        exact ⟨y, at?_item.2 ⟨ys, y', rfl, hitem', hy⟩, hsame⟩
      | _ => simp [same] at h
    | key name =>
      obtain ⟨ms, x', rfl, hget, hx⟩ := at?_key.1 hx
      cases b with
      | object ns =>
        obtain ⟨y', hget', hsame'⟩ := (same_object.1 h).2 _ (Members.mem_of_get? hget)
        obtain ⟨y, hy, hsame⟩ := ih hsame' hx
        exact ⟨y, at?_key.2 ⟨ns, y', rfl, hget', hy⟩, hsame⟩
      | _ => simp [same] at h

/-- One object somewhere in a document has its members in another order. -/
inductive Reordered : Json → Json → Prop where
  | members {ms ns : Members} : ms.Perm ns → Reordered (.object ms) (.object ns)
  | item {x y : Json} (front back : List Json) :
      Reordered x y → Reordered (.array (front ++ x :: back)) (.array (front ++ y :: back))
  | value {x y : Json} (front back : Members) (key : String) :
      Reordered x y →
      Reordered (.object (front ++ (key, x) :: back)) (.object (front ++ (key, y) :: back))

theorem distinct_of_reordered {a b : Json} (h : Reordered a b) (ha : Distinct a) : Distinct b := by
  induction h with
  | members hperm =>
    refine .object ((hperm.map Prod.fst).nodup_iff.1 ha.keys) fun m hm => ?_
    exact ha.member (hperm.mem_iff.2 hm)
  | @item x y front back _ ih =>
    refine .array fun z hz => ?_
    have hx : Distinct x := ha.item (by simp)
    rcases List.mem_append.1 hz with hfront | hback
    · exact ha.item (List.mem_append_left _ hfront)
    · rcases List.mem_cons.1 hback with rfl | hback
      · exact ih hx
      · exact ha.item (by simp [hback])
  | @value x y front back key _ ih =>
    refine .object (by simpa [Members.keys] using ha.keys) fun m hm => ?_
    have hx : Distinct (key, x).2 := ha.member (by simp)
    rcases List.mem_append.1 hm with hfront | hback
    · exact ha.member (List.mem_append_left _ hfront)
    · rcases List.mem_cons.1 hback with rfl | hback
      · exact ih hx
      · exact ha.member (by simp [hback])

theorem sorted_of_reordered {a b : Json} (h : Reordered a b) (ha : Distinct a) :
    sorted a = sorted b := by
  induction h with
  | @members ms ns hperm =>
    have hkeys : (Members.keys (sortedMembers ms)).Nodup := by
      rw [keys_sortedMembers]
      exact ha.keys
    rw [sorted, sorted, (Members.inOrder_eq_iff hkeys).2]
    rw [sortedMembers_eq, sortedMembers_eq]
    exact hperm.map _
  | @item x y front back _ ih =>
    have hx : Distinct x := ha.item (by simp)
    simp [sorted, sortedItems_eq, ih hx]
  | @value x y front back key _ ih =>
    have hx : Distinct (key, x).2 := ha.member (by simp)
    simp [sorted, sortedMembers_eq, ih hx]

/-- The order of keys never matters, at no depth. -/
theorem same_of_reordered {a b : Json} (h : Reordered a b) (ha : Distinct a) : same a b = true :=
  (same_iff_sorted ha (distinct_of_reordered h ha)).2 (sorted_of_reordered h ha)

end RateCard.Json
