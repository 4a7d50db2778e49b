import RateCard.Proofs.Artifact.Steady
import RateCard.Proofs.Refresh.Outcome

/-!
# Runs around one artifact

Calls that write, refresh and check one artifact in any order, with other changes of the tree in
between that leave the artifact alone. After every step the artifact is what the last successful
call has written, or what it was at the start.
-/
namespace RateCard
open RateCard.FileTree RateCard.Artifact

inductive Call where
  | write (prices : PriceList)
  | refresh (network : Network) (endpoint : String) (timeoutMs : Nat)
  | inspect

/-- A tree, and the list of the last call that has written one. -/
structure Scene where
  tree : FileTree
  last : Option PriceList

namespace Scene

/-- What a call on the artifact at `p` makes of a scene. A check changes nothing. -/
def after (p : Path) (s : Scene) : Call → Scene
  | .write prices =>
    let (result, t) := Artifact.write s.tree prices p
    ⟨t, if result.isOk then some prices else s.last⟩
  | .refresh network endpoint timeoutMs =>
    let (result, t) := (RateCard.refresh network s.tree ⟨endpoint, p, timeoutMs⟩).result
    match result, (Listing.fetch network endpoint timeoutMs).result with
    | .ok (.written _), .ok document => ⟨t, some (PriceList.ofListing document).1⟩
    | _, _ => ⟨t, s.last⟩
  | .inspect => s

/-- Other changes: files, directories and links come and go, but what stands at `p` stays, and
nothing but a file or a directory is put at the staging place. -/
structure Undisturbed (p : Path) (t t' : FileTree) : Prop where
  sound : t'.Sound
  destination : t'.standing p = t.standing p
  clear : Clear t' p

inductive Step (p : Path) (s : Scene) : Scene → Prop where
  | call (c : Call) : Step p s (s.after p c)
  | outside {t : FileTree} : Undisturbed p s.tree t → Step p s ⟨t, s.last⟩

/-- What is to stand at the artifact: what was written last, or what stood there at the start. -/
def Holds (p : Path) (t₀ : FileTree) (s : Scene) : Prop :=
  match s.last with
  | some prices => s.tree.standing p = some (.file (contents prices)) ∧ Fits p
  | none => s.tree.standing p = t₀.standing p

variable {p : Path} {t₀ t : FileTree} {s s' : Scene}

theorem holds_of_standing {last : Option PriceList} (h : Holds p t₀ s) (hlast : last = s.last)
    (ht : t.standing p = s.tree.standing p) : Holds p t₀ ⟨t, last⟩ := by
  subst hlast
  unfold Holds at h ⊢
  rw [ht]
  exact h

/-- A write puts its list in place or leaves what is there. -/
theorem after_write (hp : p.Plain) (hs : Steady s.tree p) (h : Holds p t₀ s) (prices : PriceList) :
    Steady (Artifact.write s.tree prices p).2 p ∧
      Holds p t₀ ⟨(Artifact.write s.tree prices p).2,
        if (Artifact.write s.tree prices p).1.isOk then some prices else s.last⟩ := by
  obtain ⟨hsteady, hresult⟩ := hs.write hp prices
  refine ⟨hsteady, ?_⟩
  cases hwrite : (Artifact.write s.tree prices p).1 with
  | ok summary =>
    rw [hwrite] at hresult
    exact hresult
  | error failure =>
    rw [hwrite] at hresult
    exact holds_of_standing h rfl hresult

theorem after_call (hp : p.Plain) (hs : Steady s.tree p) (h : Holds p t₀ s) (c : Call) :
    Steady (s.after p c).tree p ∧ Holds p t₀ (s.after p c) := by
  cases c with
  | write prices => exact after_write hp hs h prices
  | inspect => exact ⟨hs, h⟩
  | refresh network endpoint timeoutMs =>
    rcases refresh_cases network s.tree ⟨endpoint, p, timeoutMs⟩ with ⟨failure, -, hresult⟩ |
      ⟨document, hfetch, ⟨-, hresult⟩ | ⟨-, hresult⟩⟩
    · simp only [after, hresult]
      exact ⟨hs, h⟩
    · simp only [after, hresult]
      exact ⟨hs, h⟩
    · have hwrite := after_write hp hs h (PriceList.ofListing document).1
      simp only [after, hresult, hfetch]
      cases hok : (Artifact.write s.tree (PriceList.ofListing document).1 p).1 with
      | ok summary =>
        rw [hok] at hwrite
        exact hwrite
      | error failure =>
        rw [hok] at hwrite
        exact hwrite

theorem step_holds (hp : p.Plain) (hstep : Step p s s') (hs : Steady s.tree p) (h : Holds p t₀ s) :
    Steady s'.tree p ∧ Holds p t₀ s' := by
  cases hstep with
  | call c => exact after_call hp hs h c
  | outside hother =>
    refine ⟨⟨hother.sound, ?_, hother.clear⟩, holds_of_standing h rfl hother.destination⟩
    rw [hother.destination]
    exact hs.destination

/-- After every run the artifact holds the printed form of the list that was written last; as long
as none was written, it is what it was at the start. -/
theorem artifact_of_run (hp : p.Plain) (h₀ : Steady t₀ p)
    (hrun : Relation.ReflTransGen (Step p) ⟨t₀, none⟩ s) :
    match s.last with
    | some prices =>
      s.tree.standing p = some (.file (contents prices)) ∧ s.tree.read p = .ok (contents prices)
    | none => s.tree.standing p = t₀.standing p := by
  have hinv : Steady s.tree p ∧ Holds p t₀ s := by
    induction hrun with
    | refl => exact ⟨h₀, rfl⟩
    | tail _ hstep ih => exact step_holds hp hstep ih.1 ih.2
  have hholds := hinv.2
  unfold Holds at hholds
  cases hlast : s.last with
  | none =>
    rw [hlast] at hholds
    exact hholds
  | some prices =>
    rw [hlast] at hholds
    exact ⟨hholds.1, hholds.2.read hp hholds.1⟩

/-- A list is written, a directory is put at the staging place, and another list is not. -/
theorem artifact_of_run_blocked :
    let p : Path := ⟨false, ["out.json"]⟩
    p.Plain ∧ Steady FileTree.fresh p ∧
      ∃ s, Relation.ReflTransGen (Step p) ⟨FileTree.fresh, none⟩ s ∧ s.last = some ⟨[[]]⟩ ∧
        s.tree.read p = .ok (contents ⟨[[]]⟩) := by
  intro p
  let t₁ := FileTree.fresh.put ["tmp", "scratch", "work", "out.json"] (.file (contents ⟨[[]]⟩))
  let t₂ := t₁.put ["tmp", "scratch", "work", "out.json.tmp"] .directory
  have hplain : p.Plain := ⟨[], "out.json", [], rfl, by decide, by simp, by simp⟩
  have hplace : FileTree.fresh.slot p.staging =
      .ok ⟨["tmp", "scratch", "work"], "out.json.tmp", false⟩ := by decide +kernel
  have hplace' : t₂.slot p.staging = .ok ⟨["tmp", "scratch", "work"], "out.json.tmp", false⟩ := by
    decide +kernel
  have hnone : FileTree.fresh.get? ["tmp", "scratch", "work", "out.json.tmp"] = none := by decide
  have hdir : t₂.get? ["tmp", "scratch", "work", "out.json.tmp"] = some .directory := by
    decide +kernel
  have hsteady : Steady FileTree.fresh p :=
    ⟨sound_fresh, .inl (by decide +kernel),
      clear_of_slot hplace fun e he => absurd (hnone.symm.trans he) (by simp)⟩
  have hother : Undisturbed p t₁ t₂ :=
    ⟨sound_of_entries (by decide +kernel), by decide +kernel,
      clear_of_slot hplace' fun e he => .inl (Option.some.inj (he.symm.trans hdir))⟩
  have hfirst : Scene.after p ⟨FileTree.fresh, none⟩ (.write ⟨[[]]⟩) = ⟨t₁, some ⟨[[]]⟩⟩ := by
    have hwrite : Artifact.write FileTree.fresh ⟨[[]]⟩ p = (.ok ⟨1, p⟩, t₁) := by decide +kernel
    simp only [after, hwrite]
    rfl
  have hlast : (Scene.after p ⟨t₂, some ⟨[[]]⟩⟩ (.write ⟨[[], []]⟩)).last = some ⟨[[]]⟩ := by
    have hwrite : (Artifact.write t₂ ⟨[[], []]⟩ p).1 =
        .error (.io p.staging (.system .isDirectory)) := by decide +kernel
    simp only [after, hwrite]
    rfl
  have hwritten : Step p ⟨FileTree.fresh, none⟩ ⟨t₁, some ⟨[[]]⟩⟩ := hfirst ▸ .call (.write ⟨[[]]⟩)
  have hblocked : Step p ⟨t₁, some ⟨[[]]⟩⟩ ⟨t₂, some ⟨[[]]⟩⟩ := .outside hother
  have hrun := ((Relation.ReflTransGen.single hwritten).tail hblocked).tail
    (Step.call (.write ⟨[[], []]⟩))
  have hholds := artifact_of_run hplain hsteady hrun
  rw [hlast] at hholds
  exact ⟨hplain, hsteady, _, hrun, hlast, hholds.2⟩

end Scene
end RateCard
