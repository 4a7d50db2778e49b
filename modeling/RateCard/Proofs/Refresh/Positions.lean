import RateCard.Proofs.Json.RepeatedKeys
import RateCard.Proofs.Refresh.Outcome

/-!
# Prices stand where their models stand

Extraction gives one record for each entry, at the place of the entry, and looks at nothing but the
prices of that entry. What an entry gives is said as a relation that determines the record, so that
extraction of parts and of other listings follows without another induction on entries.
-/
namespace RateCard.Listing
open RateCard.Json (Members)
open RateCard.PriceList (ofEntry ofEntries ofListing)

/-- An entry is an object whose `pricing` is the object of this record. -/
def HasPricing (entry : Json) (record : PriceRecord) : Prop :=
  ∃ members, entry = .object members ∧ Members.get? "pricing" members = some (.object record)

/-- What an entry gives: its prices, or an empty record if it has none. -/
inductive Gives (entry : Json) : PriceRecord → Prop where
  | prices {record : PriceRecord} : HasPricing entry record → Gives entry record
  | nothing : (∀ record, ¬ HasPricing entry record) → Gives entry []

/-- Entries that have the same prices, or both none. -/
def SamePricing (entry entry' : Json) : Prop :=
  ∀ record, HasPricing entry record ↔ HasPricing entry' record

theorem HasPricing.unique {entry : Json} {record record' : PriceRecord}
    (h : HasPricing entry record) (h' : HasPricing entry record') : record = record' := by
  obtain ⟨members, rfl, hget⟩ := h
  obtain ⟨members', hmembers, hget'⟩ := h'
  rw [← Json.object.inj hmembers, hget, Option.some.injEq, Json.object.injEq] at hget'
  exact hget'

theorem Gives.unique {entry : Json} {record record' : PriceRecord} (h : Gives entry record)
    (h' : Gives entry record') : record = record' := by
  cases h with
  | prices h =>
    cases h' with
    | prices h' => exact h.unique h'
    | nothing h' => exact absurd h (h' record)
  | nothing h =>
    cases h' with
    | prices h' => exact absurd h' (h record')
    | nothing => rfl

theorem Gives.congr {entry entry' : Json} {record : PriceRecord} (h : Gives entry record)
    (hsame : SamePricing entry entry') : Gives entry' record := by
  cases h with
  | prices h => exact .prices ((hsame record).1 h)
  | nothing h => exact .nothing fun r hr => h r ((hsame r).2 hr)

/-! ## Entries in order -/

theorem gives_ofEntry (index : Nat) (entry : Json) : Gives entry (ofEntry index entry).1 := by
  unfold ofEntry
  split
  · next members =>
    split
    · next hget =>
      refine .nothing fun record ⟨members', hmembers, hget'⟩ => ?_
      rw [← Json.object.inj hmembers, hget] at hget'
      cases hget'
    · next record hget => exact .prices ⟨members, rfl, hget⟩
    · next hother hget =>
      refine .nothing fun record ⟨members', hmembers, hget'⟩ => ?_
      rw [← Json.object.inj hmembers, hget, Option.some.injEq] at hget'
      exact hother record hget'
  · next hobject => exact .nothing fun record ⟨members, hentry, _⟩ => hobject members hentry

theorem gives_ofEntries (index : Nat) (entries : List Json) :
    List.Forall₂ Gives entries (ofEntries index entries).1 := by
  induction entries generalizing index with
  | nil => exact .nil
  | cons entry entries ih => exact .cons (gives_ofEntry index entry) (ih (index + 1))

/-- A listing with entries has one record for each of them, in their order. -/
theorem gives_ofListing {document : Json} {entries : List Json} (h : HasEntries document entries) :
    List.Forall₂ Gives entries (ofListing document).1.records := by
  obtain ⟨members, rfl, hdata⟩ := h
  simp only [ofListing, hdata]
  exact gives_ofEntries 0 entries

/-- What entries give is all there is to say about the records of a listing. -/
theorem records_of_gives {document : Json} {entries : List Json} {records : List PriceRecord}
    (h : HasEntries document entries) (hgives : List.Forall₂ Gives entries records) :
    (ofListing document).1.records = records := by
  have hunique : Relator.RightUnique Gives := fun _ _ _ => Gives.unique
  exact List.right_unique_forall₂' hunique (gives_ofListing h) hgives

theorem gives_congr {entries entries' : List Json} {records : List PriceRecord}
    (hsame : List.Forall₂ SamePricing entries entries')
    (h : List.Forall₂ Gives entries records) : List.Forall₂ Gives entries' records := by
  induction hsame generalizing records with
  | nil => exact h
  | cons hentry _ ih =>
    cases h with
    | cons hrecord hrecords => exact .cons (hrecord.congr hentry) (ih hrecords)

/-! ## The order of members -/

theorem hasEntries_of_perm {members members' : Members} (h : (Members.keys members).Nodup)
    (hperm : members.Perm members') (entries : List Json) :
    HasEntries (.object members) entries ↔ HasEntries (.object members') entries := by
  simp only [HasEntries, Json.object.injEq, exists_eq_left', Members.get?_of_perm h hperm]

theorem samePricing_of_perm {members members' : Members} (h : (Members.keys members).Nodup)
    (hperm : members.Perm members') : SamePricing (.object members) (.object members') := by
  intro record
  simp only [HasPricing, Json.object.injEq, exists_eq_left', Members.get?_of_perm h hperm]

/-- Extraction gives one record for each entry of a listing, which is the `pricing` object of that
entry or else empty, and no records where there are no entries. Hence entries side by side give
their records side by side, and listings whose entries have the same prices give the same list. The
order in which members stand decides neither entries nor prices. -/
theorem records_positional :
    (∀ document entries, HasEntries document entries →
      List.Forall₂ Gives entries (ofListing document).1.records) ∧
    (∀ document, (∀ entries, ¬ HasEntries document entries) →
      (ofListing document).1.records = []) ∧
    (∀ document left right front back, HasEntries document (front ++ back) →
      HasEntries left front → HasEntries right back →
      (ofListing document).1.records =
        (ofListing left).1.records ++ (ofListing right).1.records) ∧
    (∀ document document' entries entries', HasEntries document entries →
      HasEntries document' entries' → List.Forall₂ SamePricing entries entries' →
      (ofListing document).1 = (ofListing document').1) ∧
    ∀ members members' : Members, (Members.keys members).Nodup → members.Perm members' →
      (∀ entries, HasEntries (.object members) entries ↔ HasEntries (.object members') entries) ∧
        SamePricing (.object members) (.object members') := by
  refine ⟨fun document entries h => gives_ofListing h, fun document h => ?_,
    fun document left right front back h hleft hright => ?_,
    fun document document' entries entries' h h' hsame => ?_, fun members members' h hperm =>
      ⟨hasEntries_of_perm h hperm, samePricing_of_perm h hperm⟩⟩
  · have hempty := (isEmpty_ofListing document).2 fun entries hentries =>
      absurd hentries (h entries)
    exact List.isEmpty_iff.1 hempty
  · exact records_of_gives h (List.rel_append (gives_ofListing hleft) (gives_ofListing hright))
  · have hrecords := records_of_gives h' (gives_congr hsame (gives_ofListing h))
    exact congrArg PriceList.mk hrecords.symm

/-- Entries of all kinds in two parts, and the first part in a listing with other ids and more
members in another order. -/
theorem records_positional_mixed :
    let listing (entries : List Json) : Json := .object [("data", .array entries)]
    let prices : Json := .object [("prompt", .string "2"), ("image", .null)]
    let front : List Json := [.string "model", .object [("id", .string "a"), ("pricing", prices)]]
    let back : List Json := [.object [("pricing", .null)], .object []]
    let moved : Members := [("pricing", prices), ("name", .null), ("id", .string "b")]
    let other : Json := .object [("object", .null), ("data", .array [.object [], .object moved])]
    HasEntries (listing (front ++ back)) (front ++ back) ∧
      List.Forall₂ Gives (front ++ back) (ofListing (listing (front ++ back))).1.records ∧
      (ofListing (listing (front ++ back))).1.records =
        (ofListing (listing front)).1.records ++ (ofListing (listing back)).1.records ∧
      (ofListing (listing front)).1 = (ofListing other).1 ∧
      (ofListing prices).1.records = [] ∧
      SamePricing (.object moved) (.object moved.reverse) := by
  intro listing prices front back moved other
  obtain ⟨hgives, hnone, hparts, hsame, hreorder⟩ := records_positional
  have hlisting (entries : List Json) : HasEntries (listing entries) entries := ⟨_, rfl, rfl⟩
  have hstring : SamePricing (.string "model") (.object []) := by
    simp [SamePricing, HasPricing, Members.get?]
  have hmoved : SamePricing (.object [("id", .string "a"), ("pricing", prices)])
      (.object moved) := by
    simp [SamePricing, HasPricing, Members.get?, moved]
  have hprices : ∀ entries, ¬ HasEntries prices entries := by
    simp [HasEntries, Members.get?, prices]
  exact ⟨hlisting _, hgives _ _ (hlisting _),
    hparts _ _ _ _ _ (hlisting _) (hlisting _) (hlisting _),
    hsame _ _ _ _ (hlisting front) ⟨_, rfl, rfl⟩ (.cons hstring (.cons hmoved .nil)),
    hnone _ hprices, (hreorder _ _ (by decide) moved.reverse_perm.symm).2⟩

end RateCard.Listing
