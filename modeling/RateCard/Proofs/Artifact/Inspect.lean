import RateCard.Artifact.Inspect
import RateCard.Proofs.Artifact.Write
import RateCard.Proofs.PriceList.ReadBack

/-!
# Checking what was written

The printed form of prices that come from a listing is read back by the reader of documents, as an
array of the objects that were printed. So the check accepts what was written wherever the path
still leads to it.
-/
namespace RateCard.Artifact
open RateCard.FileTree
open RateCard.Text

theorem firstNonObject_map (records : List PriceRecord) :
    firstNonObject? (records.map .object) = none := by
  induction records with
  | nil => rfl
  | cons r records ih => rw [List.map_cons, firstNonObject?, ih, Option.map_none]

variable {prices : PriceList}

theorem decode_contents
    (h : ∀ r ∈ prices.records, Json.Readable (Json.Scan.maxDepth - 1) (.object r)) :
    Json.decode (contents prices) = .ok prices.toJson := by
  have hlist : Json.Readable Json.Scan.maxDepth prices.toJson := by
    intro x hx
    obtain ⟨r, hr, rfl⟩ := List.mem_map.1 hx
    exact h r hr
  apply Json.decode_document
  apply PriceList.wholeText_of_text
  rw [contents, PriceList.pretty, Json.pretty, Utf8.ofString, String.toList_ofList]
  exact Json.valueText_pretty hlist 0

theorem items_contents
    (h : ∀ r ∈ prices.records, Json.Readable (Json.Scan.maxDepth - 1) (.object r))
    (hne : prices.records ≠ []) :
    itemsOf (contents prices) = .ok (prices.records.map .object) := by
  rw [itemsOf, decode_contents h]
  simp only [PriceList.toJson]
  cases hrecords : prices.records with
  | nil => exact absurd hrecords hne
  | cons r records =>
    rw [List.map_cons, items, ← List.map_cons, firstNonObject_map]
    exact List.cons_ne_nil _ _

theorem inspect_of_read {t : FileTree} {p : Path} (hread : t.read p = .ok (contents prices))
    (h : ∀ r ∈ prices.records, Json.Readable (Json.Scan.maxDepth - 1) (.object r))
    (hne : prices.records ≠ []) : inspect t p = .ok ⟨prices.size, p⟩ := by
  have htext : (Utf8.decode (contents prices)).isNone = false := by
    rw [contents, Utf8.decode_ofString]
    rfl
  rw [inspect, hread]
  simp only [htext, items_contents h hne, List.length_map]
  rfl

theorem read_of_inspect {t : FileTree} {p : Path} {status : Status}
    (h : inspect t p = .ok status) : ∃ bytes, t.read p = .ok bytes := by
  rw [inspect] at h
  cases hread : t.read p with
  | ok bytes => exact ⟨bytes, rfl⟩
  | error fault =>
    rw [hread] at h
    cases fault with
    | system errno =>
      simp only at h
      split at h <;> cases h
    | _ => cases h

/-- What was written is accepted exactly if the way to the destination does not lead over what was
replaced there. -/
theorem inspect_iff {t t' : FileTree} {p : Path} {s d : Slot}
    (hplaced : Placed t t' p (contents prices) s d)
    (h : ∀ r ∈ prices.records, Json.Readable (Json.Scan.maxDepth - 1) (.object r))
    (hne : prices.records ≠ []) :
    inspect t' p = .ok ⟨prices.size, p⟩ ↔ (t.erase d.location).slot p = .ok d := by
  rw [← hplaced.slot_iff]
  constructor
  · intro hinspect
    obtain ⟨bytes, hread⟩ := read_of_inspect hinspect
    exact hplaced.slot_of_read hread
  · intro hslot
    exact inspect_of_read (hplaced.read_ok hslot) h hne

end RateCard.Artifact
