import RateCard.Proofs.Artifact.Inspect
import RateCard.Proofs.Refresh.Fetch

/-!
# Outcomes of a refresh

A refresh fetches a document, takes the prices from it and writes them. Which of its three ends it
comes to is decided by the last answer and the document alone, and only a write changes the tree.
-/
namespace RateCard
open RateCard.FileTree
open RateCard.Json (Members)

namespace Listing

/-- A document is an object whose `data` is an array of these entries. -/
def HasEntries (document : Json) (entries : List Json) : Prop :=
  ∃ members, document = .object members ∧ Members.get? "data" members = some (.array entries)

theorem length_ofEntries (index : Nat) (entries : List Json) :
    (PriceList.ofEntries index entries).1.length = entries.length := by
  induction entries generalizing index with
  | nil => rfl
  | cons entry entries ih => rw [PriceList.ofEntries, List.length_cons, List.length_cons, ih]

theorem size_ofListing {document : Json} {entries : List Json} (h : HasEntries document entries) :
    (PriceList.ofListing document).1.size = entries.length := by
  obtain ⟨members, rfl, hdata⟩ := h
  simp only [PriceList.ofListing, hdata]
  exact length_ofEntries 0 entries

theorem HasEntries.unique {document : Json} {entries entries' : List Json}
    (h : HasEntries document entries) (h' : HasEntries document entries') : entries' = entries := by
  obtain ⟨members, rfl, hdata⟩ := h
  obtain ⟨members', hmembers, hdata'⟩ := h'
  obtain rfl := Json.object.inj hmembers
  rw [hdata, Option.some.injEq, Json.array.injEq] at hdata'
  exact hdata'.symm

/-- No prices are found exactly if there are no entries. -/
theorem isEmpty_ofListing (document : Json) : (PriceList.ofListing document).1.isEmpty = true ↔
    ∀ entries, HasEntries document entries → entries = [] := by
  by_cases h : ∃ entries, HasEntries document entries
  · obtain ⟨entries, hentries⟩ := h
    have hsize := size_ofListing hentries
    rw [PriceList.size] at hsize
    rw [PriceList.isEmpty, List.isEmpty_iff, ← List.length_eq_zero_iff, hsize,
      List.length_eq_zero_iff]
    constructor
    · rintro rfl entries' hentries'
      exact hentries.unique hentries'
    · intro hall
      exact hall entries hentries
  · have hempty : (PriceList.ofListing document).1 = .empty := by
      unfold PriceList.ofListing
      split
      · rename_i members
        split
        · rfl
        · rename_i entries hdata
          exact absurd ⟨entries, members, rfl, hdata⟩ h
        · rfl
      · rfl
    rw [hempty]
    exact ⟨fun _ entries hentries => absurd ⟨entries, hentries⟩ h, fun _ => rfl⟩

end Listing

variable {network : Network} {t t' : FileTree} {settings : Settings}

/-- A refresh waits for its fetch only. -/
theorem waitedMs_refresh (network : Network) (t : FileTree) (settings : Settings) :
    (refresh network t settings).waitedMs =
      (network.get settings.endpoint).waitedMs settings.timeoutMs := by
  rw [refresh, ← Listing.waitedMs_fetch]
  split <;> rfl

/-- The three ways of a refresh. -/
theorem refresh_cases (network : Network) (t : FileTree) (settings : Settings) :
    (∃ failure,
        (Listing.fetch network settings.endpoint settings.timeoutMs).result = .error failure ∧
        (refresh network t settings).result = (.error failure, t)) ∨
      ∃ document,
        (Listing.fetch network settings.endpoint settings.timeoutMs).result = .ok document ∧
        ((PriceList.ofListing document).1.isEmpty = true ∧
            (refresh network t settings).result = (.ok .empty, t) ∨
          (PriceList.ofListing document).1.isEmpty = false ∧
            (refresh network t settings).result =
              ((Artifact.write t (PriceList.ofListing document).1 settings.output).1.map .written,
                (Artifact.write t (PriceList.ofListing document).1 settings.output).2)) := by
  rw [refresh]
  cases hfetch : (Listing.fetch network settings.endpoint settings.timeoutMs).result with
  | error failure => exact .inl ⟨failure, rfl, rfl⟩
  | ok document =>
    refine .inr ⟨document, rfl, ?_⟩
    cases hempty : (PriceList.ofListing document).1.isEmpty with
    | true => exact .inl ⟨rfl, by simp only [refreshFrom, hempty, if_true]⟩
    | false => exact .inr ⟨rfl, by simp only [refreshFrom, hempty, Bool.false_eq_true, if_false]⟩

/-- A refresh that has written has fetched a document with entries and written their prices. -/
theorem refresh_written {summary : Summary}
    (h : (refresh network t settings).result = (.ok (.written summary), t')) :
    ∃ document entries,
      (Listing.fetch network settings.endpoint settings.timeoutMs).result = .ok document ∧
      Listing.HasEntries document entries ∧ entries ≠ [] ∧
      Artifact.write t (PriceList.ofListing document).1 settings.output = (.ok summary, t') := by
  rcases refresh_cases network t settings with ⟨failure, -, hresult⟩ |
    ⟨document, hfetch, ⟨-, hresult⟩ | ⟨hempty, hresult⟩⟩
  · cases hresult.symm.trans h
  · cases hresult.symm.trans h
  · rw [hresult, Prod.mk.injEq, map_eq_ok] at h
    obtain ⟨⟨summary', hwrite, hsummary⟩, rfl⟩ := h
    obtain rfl := Outcome.written.inj hsummary
    have hentries := mt (Listing.isEmpty_ofListing document).2 (by rw [hempty]; decide)
    push Not at hentries
    obtain ⟨entries, hentries, hne⟩ := hentries
    exact ⟨document, entries, hfetch, hentries, hne, by rw [← hwrite]⟩

theorem refresh_empty_iff : (refresh network t settings).result.1 = .ok .empty ↔
    ∃ document,
      (Listing.fetch network settings.endpoint settings.timeoutMs).result = .ok document ∧
      ∀ entries, Listing.HasEntries document entries → entries = [] := by
  rcases refresh_cases network t settings with ⟨failure, hfetch, hresult⟩ |
    ⟨document, hfetch, ⟨hempty, hresult⟩ | ⟨hempty, hresult⟩⟩
  · rw [hresult, hfetch]
    simp
  · rw [hresult, hfetch]
    exact ⟨fun _ => ⟨document, rfl, (Listing.isEmpty_ofListing document).1 hempty⟩, fun _ => rfl⟩
  · rw [hresult, hfetch]
    constructor
    · intro h
      obtain ⟨summary, -, hsummary⟩ := map_eq_ok.1 h
      cases hsummary
    · rintro ⟨document', hdocument, hall⟩
      obtain rfl := Except.ok.inj hdocument
      rw [(Listing.isEmpty_ofListing document).2 hall] at hempty
      cases hempty

end RateCard
