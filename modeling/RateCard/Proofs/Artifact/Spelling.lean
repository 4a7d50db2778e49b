import RateCard.Artifact.Inspect
import RateCard.Artifact.Write
import RateCard.Proofs.FileTree.Spelling

/-!
# Artifacts at paths that are spelt differently

Writing and checking an artifact does the same for all spellings of its path. What is told of it
differs in nothing but how it spells the path.
-/
namespace RateCard
open RateCard.FileTree (ShortPath SameWay sameWay makeDirs_alike)
open RateCard.Path (Alike)
open RateCard.Text (Bytes)

/-! ## Results that tell a path -/

/-- The same failure, at a path with the same components. -/
inductive Failure.Alike : Failure → Failure → Prop where
  | same (f : Failure) : Failure.Alike f f
  | io {p q : Path} (fault : IoFault) : p.same q = true → Failure.Alike (.io p fault) (.io q fault)
  | missingArtifact {p q : Path} : p.same q = true →
      Failure.Alike (.missingArtifact p) (.missingArtifact q)
  | invalidArtifact {p q : Path} (flaw : Flaw) : p.same q = true →
      Failure.Alike (.invalidArtifact p flaw) (.invalidArtifact q flaw)

def Summary.Alike (s s' : Summary) : Prop := s.count = s'.count ∧ s.path.same s'.path = true

def Artifact.Status.Alike (s s' : Status) : Prop :=
  s.entries = s'.entries ∧ s.path.same s'.path = true

/-- Results that are alike, or failures that are. -/
inductive Respelt {α : Type} (Alike : α → α → Prop) : Except Failure α → Except Failure α → Prop
    where
  | ok {a b : α} : Alike a b → Respelt Alike (.ok a) (.ok b)
  | error {f g : Failure} : f.Alike g → Respelt Alike (.error f) (.error g)

theorem Respelt.map {α β : Type} {Alike : α → α → Prop} {Alike' : β → β → Prop} {f : α → β}
    (hf : ∀ a b, Alike a b → Alike' (f a) (f b)) {x y : Except Failure α} (h : Respelt Alike x y) :
    Respelt Alike' (x.map f) (y.map f) := by
  cases h with
  | ok h => exact .ok (hf _ _ h)
  | error h => exact .error h

namespace Artifact
variable {p q : Path} (h : Alike p q) (hp : ShortPath p) (hq : ShortPath q) (t : FileTree)
include h hp hq

/-- Checking gives the same classification and the same count. -/
theorem inspect_alike : Respelt Status.Alike (inspect t p) (inspect t q) := by
  rw [inspect, inspect, (sameWay h hp hq).read]
  split
  · split
    · exact .error (.missingArtifact h.same)
    · exact .error (.io _ h.same)
  · exact .error (.io _ h.same)
  · split
    · exact .error (.io _ h.same)
    split
    · exact .error (.invalidArtifact _ h.same)
    · exact .ok ⟨rfl, h.same⟩

theorem makeParents_alike : Respelt Eq (makeParents t p).1 (makeParents t q).1 ∧
    (makeParents t p).2 = (makeParents t q).2 := by
  rw [makeParents, makeParents]
  rcases h.parent with ⟨hparent, hparent'⟩ | ⟨parent, parent', hparent, hparent', habove⟩
  · rw [hparent, hparent']
    exact ⟨.ok rfl, rfl⟩
  · rw [hparent, hparent']
    simp only [makeDirs_alike habove (hp.parent hparent) (hq.parent hparent')]
    split
    · exact ⟨.ok rfl, rfl⟩
    · exact ⟨.error (.io _ habove.same), rfl⟩

variable (hp' : ShortPath p.staging) (hq' : ShortPath q.staging)
include hp' hq'

theorem place_alike (bytes : Bytes) :
    Respelt Eq (place t p bytes).1 (place t q bytes).1 ∧
      (place t p bytes).2 = (place t q bytes).2 := by
  have hway := sameWay h hp hq
  have hstaging := sameWay h.staging hp' hq'
  have hdiscard (t : FileTree) : discard t p.staging = discard t q.staging := by
    rw [discard, discard, hstaging.remove]
  rw [place, place, hstaging.write]
  split
  · exact ⟨.error (.io _ h.staging.same), hdiscard _⟩
  next t' _ =>
    simp only [hstaging.rename t' hway]
    split
    · exact ⟨.error (.io _ h.same), hdiscard _⟩
    · exact ⟨.ok rfl, rfl⟩

/-- Writing has the same result and leaves the same tree. -/
theorem write_alike (prices : PriceList) :
    Respelt Summary.Alike (write t prices p).1 (write t prices q).1 ∧
      (write t prices p).2 = (write t prices q).2 := by
  have hparents := makeParents_alike h hp hq t
  rw [write, write]
  rcases hmade : makeParents t p with ⟨result, t₁⟩
  rcases hmade' : makeParents t q with ⟨result', t₁'⟩
  rw [hmade, hmade'] at hparents
  obtain ⟨hresult, rfl⟩ := hparents
  cases hresult with
  | error hfailure => exact ⟨.error hfailure, rfl⟩
  | ok =>
    have hplaced := place_alike h hp hq t₁ hp' hq' (contents prices)
    simp only
    rcases hplace : place t₁ p (contents prices) with ⟨result, t₂⟩
    rcases hplace' : place t₁ q (contents prices) with ⟨result', t₂'⟩
    rw [hplace, hplace'] at hplaced
    obtain ⟨hresult, rfl⟩ := hplaced
    cases hresult with
    | error hfailure => exact ⟨.error hfailure, rfl⟩
    | ok => exact ⟨.ok ⟨rfl, h.same⟩, rfl⟩

end Artifact
end RateCard
