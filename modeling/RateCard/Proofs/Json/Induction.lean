import RateCard.Proofs.Json.Readable

/-!
# Induction on documents

What holds of scalars, of arrays if it holds of their items and of objects if it holds of their
values, holds of every document.
-/
namespace RateCard.Json

@[elab_as_elim]
theorem tree_induction {motive : Json → Prop}
    (scalar : ∀ x, IsScalar x → motive x)
    (array : ∀ items, (∀ x ∈ items, motive x) → motive (.array items))
    (object : ∀ members, (∀ m ∈ members, motive m.2) → motive (.object members))
    (x : Json) : motive x :=
  match x with
  | .array items => array items fun x _ => tree_induction scalar array object x
  | .object members => object members fun m _ => tree_induction scalar array object m.2
  | .null | .bool _ | .number _ | .string _ => scalar _ trivial
termination_by sizeOf x
decreasing_by
  · next hx =>
    have hlt := List.sizeOf_lt_of_mem hx
    rw [Json.array.sizeOf_spec]
    omega
  · next hm =>
    have hlt := List.sizeOf_lt_of_mem hm
    obtain ⟨key, x⟩ := m
    rw [Prod.mk.sizeOf_spec] at hlt
    rw [Json.object.sizeOf_spec]
    change sizeOf x < _
    omega

end RateCard.Json
