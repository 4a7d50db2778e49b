import RateCard.Proofs.Artifact.Inspect
import RateCard.Proofs.PriceList.Generic

/-!
# Accepted artifacts

The check of an artifact reads a document and looks at its form afterwards, where the typed reader
wants the form while it reads. Both accept the same texts, records apart that start like a spelled
number, which the check takes for numbers. So the check accepts a list that was read and written,
unless it has such a record or the write has replaced a link on the way to it.
-/
namespace RateCard.Artifact
open RateCard.FileTree
open RateCard.Json.Grammar (StartsNumber)
open RateCard.Text

theorem firstNonObject_eq_none_iff {xs : List Json} :
    firstNonObject? xs = none ↔ ∃ records : List PriceRecord, xs = records.map .object := by
  constructor
  · intro h
    fun_induction firstNonObject? xs with
    | case1 => exact ⟨[], rfl⟩
    | case2 r rest ih =>
      obtain ⟨records, rfl⟩ := ih (Option.map_eq_none_iff.1 h)
      exact ⟨r :: records, rfl⟩
    | case3 => cases h
  · rintro ⟨records, rfl⟩
    exact firstNonObject_map records

/-- The check finds items exactly if the document is an array of objects, at least one. -/
theorem itemsOf_eq_ok_iff {bytes : Bytes} {xs : List Json} : itemsOf bytes = .ok xs ↔
    ∃ l : PriceList, Json.decode bytes = .ok l.toJson ∧ l.records ≠ [] ∧
      xs = l.records.map .object := by
  rw [itemsOf]
  constructor
  · intro h
    split at h
    · cases h
    next document hdecode =>
    unfold items at h
    split at h
    · cases h
    · next items hne =>
      split at h
      · cases h
      · next hobjects =>
        cases h
        obtain ⟨records, rfl⟩ := firstNonObject_eq_none_iff.1 hobjects
        exact ⟨⟨records⟩, hdecode, fun hnil : records = [] => hne (by rw [hnil]; rfl), rfl⟩
    · cases h
  · rintro ⟨⟨records⟩, hdecode, hne, rfl⟩
    rw [hdecode]
    cases records with
    | nil => exact absurd rfl hne
    | cons r records =>
      simp only [PriceList.toJson, items, List.map_cons]
      rw [← List.map_cons, firstNonObject_map]

/-- A file that is a text is accepted exactly if the check finds items in it. -/
theorem inspect_text_iff {t : FileTree} {p : Path} {text : String} {n : Nat}
    (hread : t.read p = .ok (Utf8.ofString text)) :
    inspect t p = .ok ⟨n, p⟩ ↔ ∃ xs, itemsOf (Utf8.ofString text) = .ok xs ∧ xs.length = n := by
  have htext : (Utf8.decode (Utf8.ofString text)).isNone = false := by
    rw [Utf8.decode_ofString]
    rfl
  rw [inspect, hread]
  simp only [htext, Bool.false_eq_true, if_false]
  cases itemsOf (Utf8.ofString text) with
  | error flaw => simp
  | ok xs => simp

/-- The check accepts a text with `n` entries exactly if the typed reader reads `n` records, at
least one, of which none starts like a spelled number. The document that it has looked at is then
the array of those very records. -/
theorem inspect_iff_typed {t : FileTree} {p : Path} {text : String}
    (hread : t.read p = .ok (Utf8.ofString text)) :
    (∀ n, inspect t p = .ok ⟨n, p⟩ ↔ ∃ l, PriceList.decode (Utf8.ofString text) = .ok l ∧
        l.size = n ∧ 1 ≤ n ∧ ∀ r ∈ l.records, ¬ StartsNumber r) ∧
      ∀ n l, inspect t p = .ok ⟨n, p⟩ → PriceList.decode (Utf8.ofString text) = .ok l →
        Json.decode (Utf8.ofString text) = .ok (.array (l.records.map .object)) := by
  have hiff (n : Nat) : inspect t p = .ok ⟨n, p⟩ ↔
      ∃ l : PriceList, (PriceList.decode (Utf8.ofString text) = .ok l ∧
        ∀ r ∈ l.records, ¬ StartsNumber r) ∧ l.records ≠ [] ∧ l.size = n := by
    simp only [inspect_text_iff hread, itemsOf_eq_ok_iff, PriceList.decode_toJson_iff]
    constructor
    · rintro ⟨xs, ⟨l, hl, hne, rfl⟩, rfl⟩
      exact ⟨l, hl, hne, by rw [List.length_map, PriceList.size]⟩
    · rintro ⟨l, hl, hne, rfl⟩
      exact ⟨_, ⟨l, hl, hne, rfl⟩, by rw [List.length_map, PriceList.size]⟩
  refine ⟨fun n => (hiff n).trans ⟨?_, ?_⟩, fun n l hinspect hl => ?_⟩
  · rintro ⟨l, ⟨hl, hfirst⟩, hne, rfl⟩
    exact ⟨l, hl, rfl, List.length_pos_iff.2 hne, hfirst⟩
  · rintro ⟨l, hl, rfl, hpos, hfirst⟩
    exact ⟨l, ⟨hl, hfirst⟩, List.length_pos_iff.1 hpos, rfl⟩
  · obtain ⟨l', ⟨hl', hfirst⟩, -, -⟩ := (hiff n).1 hinspect
    obtain rfl := Except.ok.inj (hl.symm.trans hl')
    exact PriceList.decode_toJson_iff.2 ⟨hl, hfirst⟩

/-- Two records, of which the first repeats a key. -/
theorem inspect_iff_typed_repeated :
    let p : Path := ⟨false, ["out.json"]⟩
    let text := "[\x7b\"b\":1,\"a\":[2],\"b\":\x7b\x7d\x7d, \x7b\x7d]"
    let t := FileTree.fresh.put ["tmp", "scratch", "work", "out.json"] (.file (Utf8.ofString text))
    t.read p = .ok (Utf8.ofString text) ∧ inspect t p = .ok ⟨2, p⟩ ∧
      ∃ l, PriceList.decode (Utf8.ofString text) = .ok l ∧ l.size = 2 ∧
        Json.decode (Utf8.ofString text) = .ok (.array (l.records.map .object)) := by
  intro p text t
  have hread : t.read p = .ok (Utf8.ofString text) := by decide +kernel
  have hinspect : inspect t p = .ok ⟨2, p⟩ := by decide +kernel
  obtain ⟨hiff, hsame⟩ := inspect_iff_typed hread
  obtain ⟨l, hl, hsize, -⟩ := (hiff 2).1 hinspect
  exact ⟨hread, hinspect, l, hl, hsize, hsame 2 l hinspect hl⟩

/-! ## Written lists -/

/-- A list that was read from a text and has been written is accepted exactly if the way to the
destination does not lead over what was replaced there, provided that none of its records starts
like a spelled number. -/
theorem inspect_of_write {t t' : FileTree} {p : Path} {text : Bytes} {prices : PriceList}
    {summary : Summary} (hdecode : PriceList.decode text = .ok prices) (hne : prices.records ≠ [])
    (hfirst : ∀ r ∈ prices.records, ¬ StartsNumber r) (hclear : Clear (makeParents t p).2 p)
    (hwrite : write t prices p = (.ok summary, t')) :
    ∃ d, (makeParents t p).2.slot p = .ok d ∧
      (inspect t' p = .ok ⟨summary.count, p⟩ ↔
        ((makeParents t p).2.erase d.location).slot p = .ok d) := by
  obtain ⟨rfl, s, d, hplaced⟩ := write_ok hclear hwrite
  have hrecords : ∀ r ∈ prices.records,
      Json.Readable (Json.Scan.maxDepth - 1) (.object r) := fun r hr =>
    ⟨PriceList.readable_of_decode hdecode r hr, hfirst r hr⟩
  exact ⟨d, hplaced.slot, inspect_iff hplaced hrecords hne⟩

/-- A list whose key of a spelled number stands second. -/
theorem inspect_of_write_second :
    let p : Path := ⟨false, ["data", "out.json"]⟩
    let text := Utf8.ofString "[\x7b\"a\":1,\"$serde_json::private::Number\":2\x7d]"
    ∃ prices t', PriceList.decode text = .ok prices ∧ prices.records ≠ [] ∧
      (∀ r ∈ prices.records, ¬ StartsNumber r) ∧ Clear (makeParents FileTree.fresh p).2 p ∧
      write FileTree.fresh prices p = (.ok ⟨1, p⟩, t') ∧ inspect t' p = .ok ⟨1, p⟩ := by
  intro p text
  have heval : (PriceList.decode text).toOption.map (fun l => (l.records.isEmpty,
      l.records.all fun r => (r.head?.map Prod.fst) ≠ some Json.Scan.numberKey,
      (write FileTree.fresh l p).1)) = some (false, true, .ok ⟨1, p⟩) := by decide +kernel
  obtain ⟨prices, hdecode, heval⟩ := toOption_map_eq_some.1 heval
  simp only [Prod.mk.injEq, List.all_eq_true, decide_eq_true_eq] at heval
  obtain ⟨hempty, hfirst, hwritten⟩ := heval
  have hne : prices.records ≠ [] := fun hnil => by simp [hnil] at hempty
  have hplace : (makeParents FileTree.fresh p).2.slot p.staging =
      .ok ⟨["tmp", "scratch", "work", "data"], "out.json.tmp", false⟩ := by decide +kernel
  have hclear : Clear (makeParents FileTree.fresh p).2 p := clear_of_none hplace (by decide +kernel)
  have hwrite : write FileTree.fresh prices p = (.ok ⟨1, p⟩, (write FileTree.fresh prices p).2) :=
    Prod.ext hwritten rfl
  obtain ⟨d, hd, hinspect⟩ := inspect_of_write hdecode hne hfirst hclear hwrite
  have hslot : (makeParents FileTree.fresh p).2.slot p =
      .ok ⟨["tmp", "scratch", "work", "data"], "out.json", false⟩ := by decide +kernel
  have hkept : ((makeParents FileTree.fresh p).2.erase
      ["tmp", "scratch", "work", "data", "out.json"]).slot p =
      .ok ⟨["tmp", "scratch", "work", "data"], "out.json", false⟩ := by decide +kernel
  rw [hslot, Except.ok.injEq] at hd
  subst hd
  exact ⟨prices, _, hdecode, hne, hfirst, hclear, hwrite, hinspect.2 hkept⟩

theorem exists_of_written {t : FileTree} {p : Path} {text : Bytes} {n : Nat}
    {result : Except Failure Status} (h : (PriceList.decode text).toOption.map (fun l =>
      (l.records.isEmpty, (write t l p).1, inspect (write t l p).2 p)) =
        some (false, .ok ⟨n, p⟩, result)) :
    ∃ prices t', PriceList.decode text = .ok prices ∧ prices.records ≠ [] ∧
      write t prices p = (.ok ⟨n, p⟩, t') ∧ inspect t' p = result := by
  obtain ⟨prices, hdecode, heval⟩ := toOption_map_eq_some.1 h
  simp only [Prod.mk.injEq] at heval
  obtain ⟨hempty, hwritten, hinspect⟩ := heval
  exact ⟨prices, _, hdecode, fun hnil => by simp [hnil] at hempty, Prod.ext hwritten rfl, hinspect⟩

/-- A record that starts like a spelled number is no object for the check, and a file that has
replaced a link on its own way is not found there. -/
theorem inspect_refuses_written :
    (let p : Path := ⟨false, ["out.json"]⟩
      let text := Utf8.ofString "[\x7b\"$serde_json::private::Number\":\"1\"\x7d]"
      Clear (makeParents FileTree.fresh p).2 p ∧
        ∃ prices t', PriceList.decode text = .ok prices ∧ prices.records ≠ [] ∧
          write FileTree.fresh prices p = (.ok ⟨1, p⟩, t') ∧
          inspect t' p = .error (.invalidArtifact p (.entryNotObject 0))) ∧
      let p : Path := ⟨false, ["l", "l"]⟩
      let t := FileTree.fresh.put ["tmp", "scratch", "work", "l"] (.link ⟨false, ["."]⟩)
      Clear (makeParents t p).2 p ∧
        ∃ prices t', PriceList.decode (Utf8.ofString "[\x7b\x7d]") = .ok prices ∧
          prices.records ≠ [] ∧ write t prices p = (.ok ⟨1, p⟩, t') ∧
          inspect t' p = .error (.io p (.system .notDirectory)) := by
  constructor
  · intro p text
    have hplace : (makeParents FileTree.fresh p).2.slot p.staging =
        .ok ⟨["tmp", "scratch", "work"], "out.json.tmp", false⟩ := by decide +kernel
    exact ⟨clear_of_none hplace (by decide +kernel), exists_of_written (by decide +kernel)⟩
  · intro p t
    have hplace : (makeParents t p).2.slot p.staging =
        .ok ⟨["tmp", "scratch", "work"], "l.tmp", false⟩ := by decide +kernel
    exact ⟨clear_of_none hplace (by decide +kernel), exists_of_written (by decide +kernel)⟩

end RateCard.Artifact
