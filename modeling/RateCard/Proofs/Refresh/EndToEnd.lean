import RateCard.Proofs.Refresh.Outcome

/-!
# From the server to the checked artifact

What a refresh reports says what the server answered and what stands in the tree afterwards. The
check that follows a successful one accepts the artifact, unless the way to the destination led over
a link at the destination itself: the file that replaced the link ends that way.
-/
namespace RateCard
open RateCard.FileTree RateCard.Artifact
open RateCard.Text

/-- A refresh that has written was answered with entries, has put their prices in place and leaves
nothing staged. It reports no entries exactly if the last answer is a document without any. It
changes nothing if it does so or if the fetch fails. -/
theorem refresh_spec {network : Network} {t : FileTree} {settings : Settings}
    (hclear : Clear (makeParents t settings.output).2 settings.output) :
    (∀ summary t', (refresh network t settings).result = (.ok (.written summary), t') →
      ∃ document entries d, Listing.Answered network settings.endpoint document ∧
        Listing.HasEntries document entries ∧ entries ≠ [] ∧
        summary = ⟨entries.length, settings.output⟩ ∧
        (makeParents t settings.output).2.slot settings.output = .ok d ∧
        t'.get? d.location = some (.file (contents (PriceList.ofListing document).1)) ∧
        (∀ s, (makeParents t settings.output).2.slot settings.output.staging = .ok s →
          t'.get? s.location = none) ∧
        (((makeParents t settings.output).2.erase d.location).slot settings.output = .ok d →
          t'.standing settings.output =
            some (.file (contents (PriceList.ofListing document).1))) ∧
        (inspect t' settings.output = .ok ⟨entries.length, settings.output⟩ ↔
          ((makeParents t settings.output).2.erase d.location).slot settings.output = .ok d)) ∧
    ((refresh network t settings).result.1 = .ok .empty ↔
      ∃ document, Listing.Answered network settings.endpoint document ∧
        ∀ entries, Listing.HasEntries document entries → entries = []) ∧
    ((refresh network t settings).result.1 = .ok .empty ∨
        (∃ failure, (refresh network t settings).result.1 = .error failure ∧
          failure.kind = .fetch) →
      (refresh network t settings).result.2 = t) := by
  refine ⟨fun summary t' hresult => ?_, ?_, fun hreport => ?_⟩
  · obtain ⟨document, entries, hfetch, hentries, hne, hwrite⟩ := refresh_written hresult
    obtain ⟨rfl, s, d, hplaced⟩ := write_ok hclear hwrite
    have hanswered := Listing.fetch_eq_ok.1 hfetch
    have hsize := Listing.size_ofListing hentries
    have hdecoded : Json.Readable Json.Scan.maxDepth document := by
      obtain ⟨-, -, -, -, body, -, -, -, -, -, -, -, hdecode⟩ := hanswered
      exact Json.readable_of_decode hdecode
    have hrecords := PriceList.readable_record_ofListing hdecoded
    have hsome : (PriceList.ofListing document).1.records ≠ [] := by
      rw [← List.length_pos_iff, ← PriceList.size, hsize]
      exact List.length_pos_iff.2 hne
    have hinspect := inspect_iff hplaced hrecords hsome
    rw [hsize] at hinspect
    exact ⟨document, entries, d, hanswered, hentries, hne, by rw [hsize], hplaced.slot,
      hplaced.destination, fun _ => hplaced.staging_none,
      fun hkept => hplaced.standing_ok (hplaced.slot_iff.2 hkept), hinspect⟩
  · simp only [refresh_empty_iff, Listing.fetch_eq_ok]
  · rcases refresh_cases network t settings with ⟨failure, -, hresult⟩ |
      ⟨document, -, ⟨-, hresult⟩ | ⟨-, hresult⟩⟩
    · rw [hresult]
    · rw [hresult]
    · rw [hresult] at hreport ⊢
      rcases hreport with hempty | ⟨failure, hfailure, hkind⟩
      · obtain ⟨summary, -, hsummary⟩ := map_eq_ok.1 hempty
        cases hsummary
      · obtain ⟨⟨q, fault, rfl⟩, -⟩ :=
          write_error hclear.noStagedLink (Prod.ext (map_eq_error.1 hfailure) rfl)
        cases hkind

/-- A server that lists one model without prices. -/
def oneEntry : Network :=
  .serving "[::1]:80" [.answer 200 (Utf8.ofString "\x7b\"data\":[\x7b\x7d]\x7d") none 0]

theorem refresh_spec_fresh :
    let settings : Settings := ⟨"http://[::1]/", ⟨false, ["data", "prices.json"]⟩, 20000⟩
    Clear (makeParents FileTree.fresh settings.output).2 settings.output ∧
      ∃ t', (refresh oneEntry FileTree.fresh settings).result =
          (.ok (.written ⟨1, settings.output⟩), t') ∧
        inspect t' settings.output = .ok ⟨1, settings.output⟩ := by
  intro settings
  have hplace : (makeParents FileTree.fresh settings.output).2.slot settings.output.staging =
      .ok ⟨["tmp", "scratch", "work", "data"], "prices.json.tmp", false⟩ := by decide +kernel
  have hnone : (makeParents FileTree.fresh settings.output).2.get?
      ["tmp", "scratch", "work", "data", "prices.json.tmp"] = none := by decide +kernel
  have hclear : Clear (makeParents FileTree.fresh settings.output).2 settings.output :=
    clear_of_slot hplace fun e he => absurd (hnone.symm.trans he) (by simp)
  have hwritten : (refresh oneEntry FileTree.fresh settings).result.1 =
      .ok (.written ⟨1, settings.output⟩) := by decide +kernel
  obtain ⟨document, entries, d, -, -, -, hsummary, hslot, -, -, -, hinspect⟩ :=
    (refresh_spec hclear).1 _ _ (Prod.ext hwritten rfl)
  have hd : (makeParents FileTree.fresh settings.output).2.slot settings.output =
      .ok ⟨["tmp", "scratch", "work", "data"], "prices.json", false⟩ := by decide +kernel
  have hkept : ((makeParents FileTree.fresh settings.output).2.erase
      ["tmp", "scratch", "work", "data", "prices.json"]).slot settings.output =
      .ok ⟨["tmp", "scratch", "work", "data"], "prices.json", false⟩ := by decide +kernel
  rw [hd, Except.ok.injEq] at hslot
  subst hslot
  rw [← (Summary.mk.inj hsummary).1] at hinspect
  exact ⟨hclear, _, Prod.ext hwritten rfl, hinspect.2 hkept⟩

/-- The way to the destination leads over a link at the destination. -/
theorem refresh_overItself :
    let t := FileTree.fresh.put ["tmp", "scratch", "work", "l"] (.link ⟨false, ["."]⟩)
    let settings : Settings := ⟨"http://[::1]/", ⟨false, ["l", "l"]⟩, 20000⟩
    Clear (makeParents t settings.output).2 settings.output ∧
      ∃ t', (refresh oneEntry t settings).result = (.ok (.written ⟨1, settings.output⟩), t') ∧
        inspect t' settings.output = .error (.io settings.output (.system .notDirectory)) := by
  intro t settings
  have hplace : (makeParents t settings.output).2.slot settings.output.staging =
      .ok ⟨["tmp", "scratch", "work"], "l.tmp", false⟩ := by decide +kernel
  have hnone : (makeParents t settings.output).2.get?
      ["tmp", "scratch", "work", "l.tmp"] = none := by decide +kernel
  have hwritten : (refresh oneEntry t settings).result.1 = .ok (.written ⟨1, settings.output⟩) := by
    decide +kernel
  have hclear : Clear (makeParents t settings.output).2 settings.output :=
    clear_of_slot hplace fun e he => absurd (hnone.symm.trans he) (by simp)
  exact ⟨hclear, _, Prod.ext hwritten rfl, by decide +kernel⟩

end RateCard
