import RateCard.Proofs.Artifact.Write

/-!
# Failed writes

A failed write reports an error of the file tree. It may leave new directories above the
destination, and a file at the staging place may be gone; everything else is as it was.
-/
namespace RateCard.Artifact
open RateCard.FileTree
open RateCard.Text (Bytes)

variable {t t' : FileTree} {p : Path}

/-- A directory made on the way of the parent of `p`. -/
def NewParent (t t' : FileTree) (p : Path) (l : Location) : Prop :=
  t.get? l = none ∧ t'.get? l = some .directory ∧
    ∃ parent, p.parent? = some parent ∧ t'.IsPlaceOf parent l

/-- A file or device is gone that stood where the staging path of `p` leads, its parents made. -/
def StagedGone (t t' : FileTree) (p : Path) (l : Location) : Prop :=
  (∃ e, t.get? l = some e ∧ e.passes = false) ∧ t'.get? l = none ∧
    ∃ s, (makeParents t p).2.slot p.staging = .ok s ∧ s.location = l

theorem makeParents_entry (t : FileTree) (p : Path) (l : Location) :
    (makeParents t p).2.get? l = t.get? l ∨ NewParent t (makeParents t p).2 p l := by
  rcases makeParents_cases t p with heq | ⟨parent, hparent, hmakes⟩
  · exact .inl (by rw [heq])
  · rcases hmakes.entry l with heq | ⟨hnone, hdir, hplace⟩
    · exact .inl heq
    · exact .inr ⟨hnone, hdir, parent, hparent, hplace⟩

/-- A new directory holds new directories only. -/
theorem newParent_below (ht : t.Sound) (hcleared : Cleared (makeParents t p).2 t' p)
    {l : Location} {n : String} (h : NewParent t t' p l) (hbelow : t'.get? (l ++ [n]) ≠ none) :
    NewParent t t' p (l ++ [n]) := by
  have hnone : t.get? (l ++ [n]) = none := ht.below (by simp [h.1]) n
  rcases hcleared.2 (l ++ [n]) with heq | ⟨hgone, -⟩
  · rw [heq] at hbelow
    rcases makeParents_entry t p (l ++ [n]) with hsame | ⟨-, hdir, parent, hparent, hplace⟩
    · exact absurd (hsame.trans hnone) hbelow
    · exact ⟨hnone, heq.trans hdir, parent, hparent, hplace.keeps hcleared.keeps⟩
  · exact absurd hgone hbelow

/-- Failure atomicity: every entry is as it was, or it is a new directory above the destination that
holds nothing but others, or it stood at the staging place and is gone. What stood at the
destination is there in any case. -/
theorem write_failure {prices : PriceList} {failure : Failure}
    (hlink : NoStagedLink (makeParents t p).2 p) (h : write t prices p = (.error failure, t')) :
    (∃ q fault, failure = .io q fault) ∧ t'.workDir = t.workDir ∧
      (∀ l, t'.get? l = t.get? l ∨ NewParent t t' p l ∨ StagedGone t t' p l) ∧
      (t.Sound → ∀ l n, NewParent t t' p l → t'.get? (l ++ [n]) ≠ none →
        NewParent t t' p (l ++ [n])) ∧
      ∀ d e, (makeParents t p).2.slot p = .ok d → t.get? d.location = some e →
        t'.get? d.location = some e := by
  obtain ⟨hio, hcleared⟩ := write_error hlink h
  have hmakes := makes_makeParents t p
  refine ⟨hio, hcleared.1.trans hmakes.keeps.1, fun l => ?_,
    fun ht l n => newParent_below ht hcleared, fun d e hd he => ?_⟩
  · rcases hcleared.2 l with heq | ⟨hgone, hplace, e, he, hpasses⟩
    · rcases makeParents_entry t p l with hsame | ⟨hnone, hdir, parent, hparent, hplace⟩
      · exact .inl (heq.trans hsame)
      · exact .inr (.inl ⟨hnone, heq.trans hdir, parent, hparent, hplace.keeps hcleared.keeps⟩)
    · rcases makeParents_entry t p l with hsame | ⟨-, hdir, -⟩
      · exact .inr (.inr ⟨⟨e, hsame.symm.trans he, hpasses⟩, hgone, hplace⟩)
      · rw [he, Option.some.injEq] at hdir
        rw [hdir] at hpasses
        cases hpasses
  · rcases hcleared.2 d.location with heq | ⟨-, ⟨s, hs, hplace⟩, -⟩
    · rw [heq, hmakes.get?_of_some he]
    · exact absurd hplace (staging_ne hs hd)

/-- A directory stands at the destination `out`, and a file beside it. -/
def blocked : FileTree :=
  (FileTree.fresh.put ["tmp", "scratch", "work", "out"] .directory).put
    ["tmp", "scratch", "work", "out.tmp"] (.file [91, 93])

/-- The way over a missing directory is made, the staged file is lost and the move fails. -/
theorem write_failure_blocked :
    let p : Path := ⟨false, ["new", "..", "out"]⟩
    NoStagedLink (makeParents blocked p).2 p ∧
      ∃ t', write blocked .empty p = (.error (.io p (.system .isDirectory)), t') ∧
        ∀ l, t'.get? l = blocked.get? l ∨ NewParent blocked t' p l ∨ StagedGone blocked t' p l := by
  intro p
  have hplace : (makeParents blocked p).2.slot p.staging =
      .ok ⟨["tmp", "scratch", "work"], "out.tmp", false⟩ := by decide +kernel
  have hfile : (makeParents blocked p).2.get? ["tmp", "scratch", "work", "out.tmp"] =
      some (.file [91, 93]) := by decide +kernel
  have hclear : Clear (makeParents blocked p).2 p :=
    clear_of_slot hplace fun e he => .inr ⟨_, Option.some.inj (he.symm.trans hfile)⟩
  have hlink := hclear.noStagedLink
  have hfails : (write blocked .empty p).1 = .error (.io p (.system .isDirectory)) := by
    decide +kernel
  have hwrite : write blocked .empty p =
      (.error (.io p (.system .isDirectory)), (write blocked .empty p).2) := by rw [← hfails]
  exact ⟨hlink, _, hwrite, (write_failure hlink hwrite).2.2.1⟩

end RateCard.Artifact
