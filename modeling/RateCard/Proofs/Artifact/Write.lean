import RateCard.Proofs.Artifact.Place

/-!
# What a write does

A write makes the parents of its destination, then one attempt to put the file in its place. So it
ends in one of two ways, described from the tree in which the parents are there.
-/
namespace RateCard.Artifact
open RateCard.FileTree
open RateCard.Text (Bytes)

variable {t t' : FileTree} {p : Path}

theorem makeParents_cases (t : FileTree) (p : Path) :
    (makeParents t p).2 = t ∨
      ∃ parent, p.parent? = some parent ∧ Makes parent t (makeParents t p).2 := by
  rw [makeParents]
  split
  · exact .inl rfl
  · rename_i parent hparent
    have hmakes := makes_makeDirs t parent
    right
    split <;> rename_i hmade <;> rw [hmade] at hmakes <;> exact ⟨parent, hparent, hmakes⟩

theorem makes_makeParents (t : FileTree) (p : Path) : Makes p t (makeParents t p).2 := by
  rcases makeParents_cases t p with heq | ⟨parent, hparent, hmakes⟩
  · rw [heq]
    exact .start
  · obtain ⟨hrooted, hsegments⟩ := Path.parent_eq hparent
    exact hmakes.mono hrooted hsegments

theorem makeParents_error {failure : Failure} {t₁ : FileTree}
    (h : makeParents t p = (.error failure, t₁)) : ∃ q fault, failure = .io q fault := by
  rw [makeParents] at h
  split at h
  · cases h
  · split at h
    · cases h
    · obtain ⟨hfailure, -⟩ := Prod.mk.inj h
      exact ⟨_, _, (Except.error.inj hfailure).symm⟩

/-- A failed write has made parents, and cleared at most the staging place. -/
theorem write_error {prices : PriceList} {failure : Failure}
    (hlink : NoStagedLink (makeParents t p).2 p) (h : write t prices p = (.error failure, t')) :
    (∃ q fault, failure = .io q fault) ∧ Cleared (makeParents t p).2 t' p := by
  rw [write] at h
  split at h
  · rename_i failure' t₁ hparents
    obtain ⟨hfailure, rfl⟩ := Prod.mk.inj h
    obtain rfl := Except.error.inj hfailure
    rw [hparents]
    exact ⟨makeParents_error hparents, .refl _ p⟩
  · rename_i t₁ hparents
    rw [hparents] at hlink ⊢
    split at h
    · rename_i hplace
      obtain ⟨hfailure, rfl⟩ := Prod.mk.inj h
      obtain rfl := Except.error.inj hfailure
      exact place_error hlink hplace
    · cases h

/-- A successful write has made parents and a successful attempt. -/
theorem place_of_write {prices : PriceList} {summary : Summary}
    (h : write t prices p = (.ok summary, t')) :
    summary = ⟨prices.size, p⟩ ∧ place (makeParents t p).2 p (contents prices) = (.ok (), t') := by
  rw [write] at h
  split at h
  · cases h
  · rename_i t₁ hparents
    rw [hparents]
    split at h
    · cases h
    · rename_i hplace
      obtain ⟨hsummary, rfl⟩ := Prod.mk.inj h
      exact ⟨(Except.ok.inj hsummary).symm, hplace⟩

/-- A successful write has moved the printed prices to the destination. -/
theorem write_ok {prices : PriceList} {summary : Summary}
    (hclear : Clear (makeParents t p).2 p) (h : write t prices p = (.ok summary, t')) :
    summary = ⟨prices.size, p⟩ ∧
      ∃ s d, Placed (makeParents t p).2 t' p (contents prices) s d := by
  obtain ⟨hsummary, hplace⟩ := place_of_write h
  exact ⟨hsummary, place_ok hclear hplace⟩

/-- The tree that a write leaves is that of the parents or that of the attempt. -/
theorem write_tree (t : FileTree) (prices : PriceList) (p : Path) :
    (write t prices p).2 = (makeParents t p).2 ∨
      (write t prices p).2 = (place (makeParents t p).2 p (contents prices)).2 := by
  rw [write]
  split
  · rename_i hparents
    exact .inl (by rw [hparents])
  · rename_i hparents
    right
    rw [hparents]
    split <;> rename_i hplace <;> rw [hplace]

end RateCard.Artifact
