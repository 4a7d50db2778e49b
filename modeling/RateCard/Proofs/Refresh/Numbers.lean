import RateCard.Proofs.Json.Literal
import RateCard.Proofs.Json.Part
import RateCard.Proofs.Refresh.Body
import RateCard.Proofs.Refresh.EndToEnd
import RateCard.Proofs.Refresh.Positions

/-!
# Numbers pass through

A number in the prices of a delivered body stands in the artifact as it stood in the body, but for
the spelling of its exponent. The way of a literal is followed from text to text: from the body to
the document, to the record that is taken from it and to the text that is printed of the record.
-/
namespace RateCard.Listing
open RateCard.Json (Place)
open RateCard.Json.Grammar
open RateCard.PriceList (ofListing)
open RateCard.Text

/-- The place of a price in a listing. -/
def listedPlace (index : Nat) (key : String) (place : Place) : Place :=
  .key "data" :: .item index :: .key "pricing" :: .key key :: place

/-- The place of a price in a price list. -/
def pricedPlace (index : Nat) (key : String) (place : Place) : Place :=
  .item index :: .key key :: place

variable {index : Nat} {key : String} {place : Place}

/-- What stands in the prices of an entry stands in its record. -/
theorem at?_ofListing {document y : Json}
    (h : Json.at? (listedPlace index key place) document = some y) :
    Json.at? (pricedPlace index key place) (ofListing document).1.toJson = some y := by
  obtain ⟨members, _, rfl, hdata, h⟩ := Json.at?_key.1 h
  obtain ⟨entries, entry, rfl, hentry, h⟩ := Json.at?_item.1 h
  obtain ⟨entryMembers, _, rfl, hpricing, h⟩ := Json.at?_key.1 h
  obtain ⟨record, _, rfl, _, _⟩ := Json.at?_key.1 h
  have hgives := gives_ofListing ⟨members, rfl, hdata⟩
  obtain ⟨record', hrecord, hgives⟩ := Json.related_getElem? hgives hentry
  obtain rfl := hgives.unique (.prices ⟨entryMembers, rfl, hpricing⟩)
  refine Json.at?_item.2 ⟨_, _, rfl, ?_, h⟩
  rw [List.getElem?_map, hrecord, Option.map_some]

theorem readable_toJson {body : Bytes} {document : Json} (h : Document document body) :
    Json.Readable Json.Scan.maxDepth (ofListing document).1.toJson := by
  intro x hx
  obtain ⟨record, hrecord, rfl⟩ := List.mem_map.1 hx
  have hdocument := Json.readable_of_decode (Json.decode_eq_ok_iff.2 h)
  exact PriceList.readable_record_ofListing hdocument record hrecord

/-- A literal in the prices of a listing stands respelled in the printed list, and nothing else
stands there. -/
theorem part_printed {body literal : Bytes} {document : Json} {n : Json.Numeral}
    (h : Document document body) (hliteral : NumeralText n literal)
    (hpart : WholeText (PartText (listedPlace index key place)) literal body) (part : Bytes) :
    PartText (pricedPlace index key place) part (Artifact.contents (ofListing document).1) ↔
      part = Json.Literal.respell literal := by
  have hspelled : ValueText Json.Scan.maxDepth (.number n) literal := .scalar (.number hliteral)
  have hat := at?_ofListing (at?_of_whole h hpart hspelled)
  obtain ⟨inner, hprinted⟩ := Json.part_of_at (le_refl _) 0 (readable_toJson h) hat
  have hcontents : Artifact.contents (ofListing document).1 =
      Utf8.encode (Json.prettyChars 0 (ofListing document).1.toJson) := by
    rw [Artifact.contents, PriceList.pretty, Json.pretty, Utf8.ofString, String.toList_ofList]
  have hnumber : Utf8.encode (Json.prettyChars inner (.number n)) =
      Json.Literal.respell literal := (Json.Literal.respell_text hliteral).symm
  rw [← hcontents, hnumber] at hprinted
  exact ⟨fun hpart' => hpart'.unique hprinted, fun heq => heq ▸ hprinted⟩

/-- Every number literal in the prices of a delivered body stands at its place in the artifact, with
a small mark and a written sign in front of its exponent and no other change, and denotes the same
number. Of repeated keys the member written last has the place. Reading the artifact and printing it
again changes nothing, and the artifact is what a refresh leaves at the destination. -/
theorem numbers_exact {network : Network} {endpoint : String} {timeoutMs : Nat} {body : Bytes}
    {document : Json} (h : Delivered network endpoint body)
    (hfetch : (fetch network endpoint timeoutMs).result = .ok document) :
    let artifact := Artifact.contents (ofListing document).1
    (∀ index key place n literal, NumeralText n literal →
      WholeText (PartText (listedPlace index key place)) literal body →
      (∀ part, PartText (pricedPlace index key place) part artifact ↔
        part = Json.Literal.respell literal) ∧
        Json.Literal.denoted (Json.Literal.respell literal) = Json.Literal.denoted literal) ∧
    (PriceList.decode artifact).map Artifact.contents = .ok artifact ∧
    ∀ t output timeoutMs' summary t', Artifact.Clear (Artifact.makeParents t output).2 output →
      (refresh network t ⟨endpoint, output, timeoutMs'⟩).result = (.ok (.written summary), t') →
      ∃ d, (Artifact.makeParents t output).2.slot output = .ok d ∧
        t'.get? d.location = some (.file artifact) := by
  intro artifact
  have hdocument := (fetch_ok_of_delivered h).1 hfetch
  refine ⟨fun index key place n literal hliteral hpart => ?_, ?_, ?_⟩
  · exact ⟨part_printed hdocument hliteral hpart, Json.Literal.denoted_respell literal⟩
  · have hheld : PriceList.Held (ofListing document).1 :=
      .extracted (Json.decode_eq_ok_iff.2 hdocument)
    have hread : PriceList.decode artifact = .ok (ofListing document).1 :=
      PriceList.decode_pretty hheld.readable
    rw [hread]
    rfl
  · intro t output timeoutMs' summary t' hclear hresult
    obtain ⟨document', entries, hfetch', -, -, hwrite⟩ := refresh_written hresult
    have hagain : (fetch network endpoint timeoutMs').result = .ok document :=
      (fetch_ok_of_delivered h).2 hdocument
    obtain rfl := Except.ok.inj (hagain.symm.trans hfetch')
    obtain ⟨-, s, d, hplaced⟩ := Artifact.write_ok hclear hwrite
    exact ⟨d, hplaced.slot, hplaced.destination⟩

/-- A literal with a fraction and a capital mark, in an object of an array, ended by a brace. -/
theorem numbers_exact_nested :
    let body := Utf8.ofString (
      "\x7b\"data\":[null,\x7b\"pricing\":\x7b\"tiers\":[0, \x7b\"rate\": -12.50E3\x7d]" ++
      "\x7d\x7d]\x7d")
    let network : Network := .serving "[::1]:80" [.answer 200 body none 0]
    let place : Place := [.item 1, .key "rate"]
    let literal := Utf8.ofString "-12.50E3"
    Delivered network "http://[::1]/" body ∧ (∃ n, NumeralText n literal) ∧
      WholeText (PartText (listedPlace 1 "tiers" place)) literal body ∧
      ∃ document, (fetch network "http://[::1]/").result = .ok document ∧
        PartText (pricedPlace 1 "tiers" place) (Utf8.ofString "-12.50e+3")
          (Artifact.contents (ofListing document).1) ∧
        Json.Literal.denoted literal = -12500 := by
  intro body network place literal
  have hdelivered : Delivered network "http://[::1]/" body :=
    ⟨"[::1]:80", _, 0, 200, none, rfl, by decide +kernel, rfl, by decide, by decide, by decide⟩
  have hliteral : NumeralText ⟨true, .leading 0 [2], [5, 0], some ⟨false, 3, []⟩⟩ literal :=
    Json.Scan.numeralText_of_spelledNumeral (by decide +kernel)
  have hpart : PartText (listedPlace 1 "tiers" place) literal body :=
    partAt?_eq_some.1 (by decide +kernel)
  have hwhole := PriceList.wholeText_of_text hpart
  have hok : (fetch network "http://[::1]/").result.isOk = true := by decide +kernel
  refine ⟨hdelivered, ⟨_, hliteral⟩, hwhole, ?_⟩
  cases hfetch : (fetch network "http://[::1]/").result with
  | error failure => simp [hfetch, Except.isOk, Except.toBool] at hok
  | ok document =>
    obtain ⟨hprinted, hsame⟩ := (numbers_exact hdelivered hfetch).1 _ _ _ _ _ hliteral hwhole
    have hrespelled : Json.Literal.respell literal = Utf8.ofString "-12.50e+3" := by decide +kernel
    rw [← hrespelled, ← hsame]
    exact ⟨document, rfl, (hprinted _).2 rfl, by decide +kernel⟩

end RateCard.Listing
