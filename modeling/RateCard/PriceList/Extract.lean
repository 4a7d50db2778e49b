import RateCard.Log.Event
import RateCard.PriceList.Basic

/-!
# Extracting prices from a model listing

A listing is an object whose `data` holds one entry per model. Extraction keeps positions: an
entry without a `pricing` object gives an empty record. What is not as expected is reported.
-/
namespace RateCard.PriceList
open RateCard.Json (Members)
open RateCard.Log (Event)

/-- The name by which an entry is reported. -/
def entryId (entry : Members) : String :=
  match Members.get? "id" entry with
  | some (.string id) => id
  | _ => "?"

def ofEntry (index : Nat) : Json → PriceRecord × List Event
  | .object entry =>
    match Members.get? "pricing" entry with
    | none => ([], [])
    | some (.object pricing) => (pricing, [])
    | some _ => ([], [.pricingNotObject index (entryId entry)])
  | _ => ([], [.entryNotObject index])

/-- The records of entries of which the first has this index. -/
def ofEntries (index : Nat) : List Json → List PriceRecord × List Event
  | [] => ([], [])
  | entry :: rest =>
    let (record, events) := ofEntry index entry
    let (records, later) := ofEntries (index + 1) rest
    (record :: records, events ++ later)

/-- The prices of a listing, and what was found amiss in it. -/
def ofListing : Json → PriceList × List Event
  | .object members =>
    match Members.get? "data" members with
    | none => (empty, [])
    | some (.array entries) =>
      let (records, events) := ofEntries 0 entries
      (⟨records⟩, events)
    | some _ => (empty, [.dataNotArray])
  | _ => (empty, [.listingNotObject])

end RateCard.PriceList
