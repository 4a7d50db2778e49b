import RateCard.Proofs.Refresh.Outcome

/-!
# The failures of each operation

Every operation has failures of its own: a fetch fails in the exchange or in the decoding, a write
with a system error only, and a check with an error about the artifact or a system error. So a
refresh that fails tells by its failure whether it can have changed the tree.
-/
namespace RateCard
open RateCard.FileTree RateCard.Artifact RateCard.Text

/-- A failure to get a document from the server. -/
inductive Failure.IsFetch : Failure → Prop where
  | http (trouble : Trouble) : IsFetch (.http trouble)
  | api (status : Nat) (body : String) : IsFetch (.api status body)
  | json (fault : Json.Fault) : IsFetch (.json fault)

theorem Failure.isFetch_iff {failure : Failure} : failure.IsFetch ↔ failure.kind = .fetch := by
  constructor
  · rintro ⟨⟩ <;> rfl
  · intro h
    cases failure with
    | http trouble => exact .http trouble
    | api status body => exact .api status body
    | json fault => exact .json fault
    | _ => cases h

theorem Listing.isFetch_of_response {r : Response} {failure : Failure}
    (h : Listing.ofResponse r = .error failure) : failure.IsFetch := by
  rw [Listing.ofResponse] at h
  split at h
  · split at h
    · cases h
      exact .http _
    · next body _ =>
      cases hdecode : Json.decode body with
      | ok document =>
        rw [hdecode] at h
        cases h
      | error fault =>
        rw [hdecode] at h
        cases h
        exact .json fault
  · cases h
    exact .api _ _

theorem Listing.isFetch_of_fetch {network : Network} {endpoint : String} {timeoutMs : Nat}
    {failure : Failure} (h : (Listing.fetch network endpoint timeoutMs).result = .error failure) :
    failure.IsFetch := by
  rw [Listing.fetch] at h
  split at h
  · cases h
    exact .http _
  · exact Listing.isFetch_of_response h

namespace Artifact
variable {t t' : FileTree} {p : Path} {prices : PriceList}

theorem io_of_place {bytes : Bytes} {failure : Failure}
    (h : place t p bytes = (.error failure, t')) : ∃ q fault, failure = .io q fault := by
  rw [place] at h
  split at h
  · cases h
    exact ⟨_, _, rfl⟩
  · split at h
    · cases h
      exact ⟨_, _, rfl⟩
    · cases h

/-- Whatever stands in the tree, a write fails with a system error only. -/
theorem io_of_write {failure : Failure} (h : write t prices p = (.error failure, t')) :
    ∃ q fault, failure = .io q fault := by
  rw [write] at h
  split at h
  · next hparents =>
    cases h
    exact makeParents_error hparents
  · split at h
    · next hplace =>
      cases h
      exact io_of_place hplace
    · cases h

/-- A check fails on what it was asked for. -/
theorem inspect_ways (t : FileTree) (p : Path) :
    (∃ n, inspect t p = .ok ⟨n, p⟩) ∨ inspect t p = .error (.missingArtifact p) ∨
      (∃ flaw, inspect t p = .error (.invalidArtifact p flaw)) ∨
      ∃ fault, inspect t p = .error (.io p fault) := by
  rw [inspect]
  split
  · split
    · exact .inr (.inl rfl)
    · exact .inr (.inr (.inr ⟨_, rfl⟩))
  · exact .inr (.inr (.inr ⟨_, rfl⟩))
  · split
    · exact .inr (.inr (.inr ⟨_, rfl⟩))
    · split
      · exact .inr (.inr (.inl ⟨_, rfl⟩))
      · exact .inl ⟨_, rfl⟩

end Artifact

/-- Only a write changes the tree, and its failures are of a kind of their own. -/
theorem refresh_ways (network : Network) (t : FileTree) (settings : Settings) :
    (∃ n t', (refresh network t settings).result = (.ok (.written ⟨n, settings.output⟩), t')) ∨
      (refresh network t settings).result = (.ok .empty, t) ∨
      (∃ failure, failure.IsFetch ∧ (refresh network t settings).result = (.error failure, t)) ∨
      ∃ q fault t', (refresh network t settings).result = (.error (.io q fault), t') := by
  rcases refresh_cases network t settings with ⟨failure, hfetch, hresult⟩ |
    ⟨document, -, ⟨-, hresult⟩ | ⟨-, hresult⟩⟩
  · exact .inr (.inr (.inl ⟨failure, Listing.isFetch_of_fetch hfetch, hresult⟩))
  · exact .inr (.inl hresult)
  · rcases hwrite : Artifact.write t (PriceList.ofListing document).1 settings.output with
      ⟨failure | summary, t'⟩
    · obtain ⟨q, fault, rfl⟩ := io_of_write hwrite
      rw [hwrite] at hresult
      exact .inr (.inr (.inr ⟨q, fault, t', hresult⟩))
    · rw [hwrite, (place_of_write hwrite).1] at hresult
      exact .inl ⟨_, t', hresult⟩

end RateCard
