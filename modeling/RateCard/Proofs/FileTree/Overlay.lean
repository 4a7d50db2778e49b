import RateCard.Proofs.FileTree.Down

/-!
# Overlays

What an operation does to a tree, as entries that are put in place of those that were there.
Overlays that agree where they meet can be laid over a tree in either order.
-/
namespace RateCard.FileTree

/-- The places that are changed, with what stands there then, which may be nothing. -/
abbrev Overlay := Location → Option (Option Entry)

/-- One tree is another one with these changes. -/
structure Overlaid (t t' : FileTree) (change : Overlay) : Prop where
  workDir : t'.workDir = t.workDir
  entry : ∀ l, t'.get? l = (change l).getD (t.get? l)

variable {t t₁ t₂ : FileTree} {f g : Overlay}

theorem Overlaid.trans (h : Overlaid t t₁ f) (h' : Overlaid t₁ t₂ g) :
    Overlaid t t₂ fun l => (g l).or (f l) := by
  refine ⟨h'.workDir.trans h.workDir, fun l => ?_⟩
  rw [h'.entry, h.entry]
  cases g l with
  | none => rfl
  | some x => rfl

theorem Overlaid.comm {t₁' t₂' : FileTree}
    (hagree : ∀ l x y, f l = some x → g l = some y → x = y) (hf : Overlaid t t₁ f)
    (hg : Overlaid t₁ t₂ g) (hg' : Overlaid t t₁' g) (hf' : Overlaid t₁' t₂' f) :
    t₂'.workDir = t₂.workDir ∧ ∀ l, t₂'.get? l = t₂.get? l := by
  have h := hf.trans hg
  have h' := hg'.trans hf'
  refine ⟨h'.workDir.trans h.workDir.symm, fun l => ?_⟩
  rw [h'.entry, h.entry]
  cases hfl : f l with
  | none => rw [Option.none_or, Option.or_none]
  | some x =>
    cases hgl : g l with
    | none => rfl
    | some y => rw [hagree l x y hfl hgl, Option.some_or]

theorem Overlaid.linkless (h : Overlaid t t₁ f) (ht : t.Linkless) (hsound : t₁.Sound)
    (hworkDir : f t.workDir = none) (hplain : ∀ l e, f l = some (some e) → e.plain = true) :
    t₁.Linkless := by
  refine ⟨hsound, ?_, fun names e he => ?_⟩
  · rw [h.workDir, h.entry, hworkDir]
    exact ht.workDir
  · rw [h.workDir, h.entry] at he
    cases hl : f (t.workDir ++ names) with
    | none =>
      rw [hl] at he
      exact ht.entry names e he
    | some x =>
      rw [hl] at he
      obtain rfl : x = some e := he
      exact hplain _ e hl

/-! ## Open ways -/

/-- Directories on the way down over these names. -/
def opening (here : Location) (names : List String) : Overlay := fun l =>
  if l ∈ names.inits.map (here ++ ·) then some (some .directory) else none

variable {here l : Location} {names before : List String} {n : String}

theorem opening_eq_some {x : Option Entry} : opening here names l = some x ↔
    x = some .directory ∧ ∃ way, way <+: names ∧ here ++ way = l := by
  have hmem : l ∈ names.inits.map (here ++ ·) ↔ ∃ way, way <+: names ∧ here ++ way = l := by
    simp only [List.mem_map, List.mem_inits]
  rw [opening, ← hmem]
  split
  next h => rw [Option.some.injEq, eq_comm, and_iff_left h]
  next h => simp [h]

theorem opening_way {way : List String} (h : way <+: names) :
    opening here names (here ++ way) = some (some .directory) :=
  opening_eq_some.2 ⟨rfl, way, h, rfl⟩

theorem opening_eq_none (h : ∀ way, way <+: names → here ++ way ≠ l) :
    opening here names l = none := by
  rw [Option.eq_none_iff_forall_ne_some]
  intro x hx
  obtain ⟨-, way, hway, heq⟩ := opening_eq_some.1 hx
  exact h way hway heq

/-- Nothing changes behind the way. -/
theorem opening_behind (here : Location) (names : List String) (n : String) :
    opening here names (here ++ (names ++ [n])) = none := by
  refine opening_eq_none fun way hway heq => ?_
  have hlength := hway.length_le
  rw [List.append_cancel_left_eq] at heq
  rw [heq, List.length_append, List.length_singleton] at hlength
  omega

theorem overlaid_of_isOpen (h : t.IsOpen t.workDir names) :
    Overlaid t t (opening t.workDir names) := by
  refine ⟨rfl, fun l => ?_⟩
  cases hl : opening t.workDir names l with
  | none => rfl
  | some x =>
    obtain ⟨rfl, way, hway, rfl⟩ := opening_eq_some.1 hl
    exact h way hway

theorem Overlaid.isOpen (h : Overlaid t t₁ (opening t.workDir names)) :
    t₁.IsOpen t₁.workDir names := by
  intro way hway
  rw [h.workDir, h.entry, opening_way hway]
  rfl

/-- A directory at the end of an open way. -/
theorem overlaid_put (h : t.IsOpen t.workDir names) :
    Overlaid t (t.put (t.workDir ++ (names ++ [n])) .directory)
      (opening t.workDir (names ++ [n])) := by
  have hne : t.workDir ++ (names ++ [n]) ≠ [] := by simp
  refine ⟨rfl, fun l => ?_⟩
  rw [get?_put t hne]
  split
  next heq => rw [heq, opening_way List.prefix_rfl]; rfl
  next heq =>
    cases hl : opening t.workDir (names ++ [n]) l with
    | none => rfl
    | some x =>
      obtain ⟨rfl, way, hway, rfl⟩ := opening_eq_some.1 hl
      rcases List.prefix_concat_iff.1 hway with rfl | hway
      · exact absurd rfl heq
      · exact h way hway

/-- Ways that are opened further. -/
theorem Overlaid.further {more : List String} (h : Overlaid t t₁ (opening t.workDir names))
    (h' : Overlaid t₁ t₂ (opening t.workDir (names ++ more))) :
    Overlaid t t₂ (opening t.workDir (names ++ more)) := by
  refine ⟨h'.workDir.trans h.workDir, fun l => ?_⟩
  rw [h'.entry]
  cases hl : opening t.workDir (names ++ more) l with
  | some x => rfl
  | none =>
    rw [Option.getD_none, Option.getD_none, h.entry, opening_eq_none fun way hway heq => ?_]
    · rfl
    · rw [← heq, opening_way (hway.trans (List.prefix_append _ _))] at hl
      cases hl

end RateCard.FileTree
