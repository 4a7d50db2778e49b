import RateCard.Artifact.Write
import RateCard.PriceList.Decode
import RateCard.PriceList.Extract
import RateCard.Proofs.Json.Layout
import RateCard.Proofs.Json.Reading.Value
import RateCard.Proofs.Json.RepeatedKeys

/-!
# Price lists are read back

The typed reader of price lists reads the same grammar as the reader of documents, except that a
record keeps every key. Lists that come from a text or from a listing have the form under which both
of their printed forms are read back unchanged.
-/
namespace RateCard.PriceList
open RateCard.Json (Members)
open RateCard.Json.Grammar
open RateCard.Json.Scan
open RateCard.Text

/-! ## The typed grammar -/

/-- A record is an object of which repeated keys are read. -/
inductive RecordText (R : Json → Bytes → Prop) : PriceRecord → Bytes → Prop where
  | mk {written : List (String × Json)} {bytes : Bytes} :
      ObjectText R written bytes → RecordText R (Members.ofWritten written) bytes

theorem reads_record {item : Reader Json} {R : Json → Bytes → Prop} (hr : Reads item R) :
    Reads (record item) (RecordText R) := by
  refine ⟨fun {r bytes} text => ?_, fun {r bytes ws rest} text hws _ => ?_⟩
  · cases text with
    | mk text => cases text <;> exact ⟨_, _, rfl, by decide, by decide⟩
  · cases text with
    | mk text =>
      obtain ⟨body, rfl, h⟩ := object_members hr text rest
      rw [record, List.cons_append, skipBlanks_token hws (by decide)]
      simp only [if_true, members]
      rcases h with ⟨rfl, hkey⟩ | ⟨key, s, -, hkey, hmembers⟩
      · rw [hkey]
        rfl
      · rw [hkey, ok_bind]
        simp only [hmembers, ok_bind]

theorem reads_list {item : Reader PriceRecord} {R : PriceRecord → Bytes → Prop}
    (hr : Reads item R) : Reads (list item) (ArrayText R) := by
  refine ⟨fun {rs bytes} text => ?_, fun {rs bytes ws rest} text hws _ => ?_⟩
  · cases text <;> exact ⟨_, _, rfl, by decide, by decide⟩
  · obtain ⟨body, rfl, hread⟩ := array_text hr text rest
    rw [list, List.cons_append, skipBlanks_token hws (by decide)]
    simp only [if_true, hread]

/-- The texts of a price list. -/
def ListText (l : PriceList) (bytes : Bytes) : Prop :=
  ArrayText (RecordText (ValueText (maxDepth - 2))) l.records bytes

theorem decode_text {l : PriceList} {text : Bytes} (h : WholeText ListText l text) :
    decode text = .ok l := by
  have hr := reads_list (reads_record (reads_value (maxDepth - 2)))
  have hlist : Reads (fun s => list (record (value (maxDepth - 2))) s >>= fun r =>
      .ok (⟨r.1⟩, r.2)) ListText := by
    refine ⟨fun {l bytes} text => hr.start text, fun {l bytes ws rest} text hws hrest => ?_⟩
    rw [hr.read text hws hrest, ok_bind]
  exact whole_text hlist h

/-! ## Lists that the program holds -/

/-- Records as typed decoding gives them. -/
def Readable (l : PriceList) : Prop :=
  ∀ r ∈ l.records, Members.Readable (Json.Readable (maxDepth - 2)) r

theorem ensures_members {item : Reader Json} {P : Json → Prop} (h : Ensures item P) :
    Ensures (members item) (Members.Readable P) := by
  intro s r rest hs
  obtain ⟨⟨key, s₁⟩, -, hs⟩ := bind_eq_ok.1 hs
  cases key with
  | none =>
    simp only [Except.ok.injEq, Prod.mk.injEq] at hs
    rw [← hs.1]
    exact ⟨List.nodup_nil, by simp⟩
  | some key =>
    obtain ⟨⟨written, s₂⟩, hw, hs⟩ := bind_eq_ok.1 hs
    simp only [Except.ok.injEq, Prod.mk.injEq] at hs
    rw [← hs.1]
    exact Members.readable_ofWritten (ensures_membersFrom h key hw).1

theorem not_mismatch {α : Type} {wanted : Json.Wanted} {s : Bytes} {a : α} :
    mismatch wanted s ≠ .ok a := by
  intro h
  obtain ⟨_, -, h⟩ := bind_eq_ok.1 h
  simp [stopAt] at h

theorem ensures_record {item : Reader Json} {P : Json → Prop} (h : Ensures item P) :
    Ensures (record item) (Members.Readable P) := by
  intro s r rest hs
  simp only [record, stopPast] at hs
  split at hs
  · simp at hs
  · split_ifs at hs
    · exact ensures_members h hs
    · exact absurd hs not_mismatch

theorem ensures_list {item : Reader PriceRecord} {P : PriceRecord → Prop} (h : Ensures item P) :
    Ensures (list item) fun rs => ∀ r ∈ rs, P r := by
  intro s rs rest hs
  simp only [list, stopPast] at hs
  split at hs
  · simp at hs
  · split_ifs at hs
    · exact ensures_array h hs
    · exact absurd hs not_mismatch

theorem readable_of_decode {text : Bytes} {l : PriceList} (h : decode text = .ok l) :
    Readable l := by
  refine ensures_whole (fun s l rest hs => ?_) h
  obtain ⟨⟨records, s₁⟩, hrecords, hs⟩ := bind_eq_ok.1 hs
  simp only [Except.ok.injEq, Prod.mk.injEq] at hs
  rw [← hs.1]
  exact ensures_list (ensures_record (ensures_value _)) hrecords

/-- A record lies at least three levels below its listing. -/
theorem readable_ofEntry {depth index : Nat} {entry : Json}
    (h : Json.Readable (depth + 2) entry) :
    Json.Readable (depth + 1) (.object (ofEntry index entry).1) := by
  have hempty : Json.Readable (depth + 1) (.object []) :=
    ⟨⟨List.nodup_nil, by simp⟩, by simp [StartsNumber]⟩
  unfold ofEntry
  split
  · split
    · exact hempty
    · next pricing hget => exact h.1.2 _ (Members.mem_of_get? hget)
    · exact hempty
  · exact hempty

theorem mem_ofEntries {index : Nat} {entries : List Json} {r : PriceRecord}
    (h : r ∈ (ofEntries index entries).1) :
    ∃ i, ∃ entry ∈ entries, r = (ofEntry i entry).1 := by
  induction entries generalizing index with
  | nil => simp [ofEntries] at h
  | cons entry entries ih =>
    rcases List.mem_cons.1 h with rfl | h
    · exact ⟨index, entry, by simp, rfl⟩
    · obtain ⟨i, e, he, hr⟩ := ih h
      exact ⟨i, e, List.mem_cons_of_mem _ he, hr⟩

/-- The records of a decoded listing are objects that generic decoding could give. -/
theorem readable_record_ofListing {listing : Json} (h : Json.Readable maxDepth listing) :
    ∀ r ∈ (ofListing listing).1.records, Json.Readable (maxDepth - 1) (.object r) := by
  intro r hr
  unfold ofListing at hr
  split at hr
  · split at hr
    · simp [empty] at hr
    · next entries hget =>
      have hentries : ∀ x ∈ entries, Json.Readable 125 x := h.1.2 _ (Members.mem_of_get? hget)
      obtain ⟨i, entry, hentry, rfl⟩ := mem_ofEntries hr
      have hrecord : Json.Readable 124 (.object (ofEntry i entry).1) :=
        readable_ofEntry (hentries entry hentry)
      exact hrecord.mono (by decide)
    · simp [empty] at hr
  · simp [empty] at hr

/-- How the program comes to a price list: it reads one, or takes it from a decoded listing. -/
inductive Held : PriceList → Prop where
  | read {text : Bytes} {l : PriceList} : decode text = .ok l → Held l
  | extracted {body : Bytes} {listing : Json} :
      Json.decode body = .ok listing → Held (ofListing listing).1

theorem Held.readable {l : PriceList} (h : Held l) : Readable l := by
  cases h with
  | read h => exact readable_of_decode h
  | extracted h =>
    exact fun r hr => (readable_record_ofListing (Json.readable_of_decode h) r hr).1

/-! ## Printed lists -/

theorem itemsText_of_map {α β : Type} {R : β → Bytes → Prop} {S : α → Bytes → Prop} {f : α → β}
    (hS : ∀ x bytes, R (f x) bytes → S x bytes) {xs : List α} {bytes : Bytes}
    (h : ItemsText R (xs.map f) bytes) : ItemsText S xs bytes := by
  generalize hys : xs.map f = ys at h
  induction h generalizing xs with
  | close hws =>
    rw [List.map_eq_nil_iff] at hys
    exact hys ▸ .close hws
  | more hws hws' hx _ ih =>
    obtain ⟨x, xs, rfl, rfl, hxs⟩ := List.map_eq_cons_iff.1 hys
    exact .more hws hws' (hS x _ hx) (ih hxs)

theorem arrayText_of_map {α β : Type} {R : β → Bytes → Prop} {S : α → Bytes → Prop} {f : α → β}
    (hS : ∀ x bytes, R (f x) bytes → S x bytes) {xs : List α} {bytes : Bytes}
    (h : ArrayText R (xs.map f) bytes) : ArrayText S xs bytes := by
  generalize hys : xs.map f = ys at h
  cases h with
  | empty hws =>
    rw [List.map_eq_nil_iff] at hys
    exact hys ▸ .empty hws
  | items hws hx hrest =>
    obtain ⟨x, xs, rfl, rfl, hxs⟩ := List.map_eq_cons_iff.1 hys
    exact .items hws (hS x _ hx) (itemsText_of_map hS (hxs ▸ hrest))

/-- A layout prints a list in the grammar if the layout inside it prints the values of records in
the grammar. -/
theorem listText_node {value value' : Json → Bytes} (outer : Json.Inside value)
    (inner : Json.Inside value') {close close' : Bytes} (hclose : Blanks close)
    (hclose' : Blanks close') (hnode : ∀ x, value x = inner.node close' x)
    (hvalue : ∀ x, Json.Readable (maxDepth - 2) x → ValueText (maxDepth - 2) x (value' x))
    {l : PriceList} (h : Readable l) : ListText l (outer.node close l.toJson) := by
  have hrecord : ∀ r ∈ l.records,
      RecordText (ValueText (maxDepth - 2)) r (value (.object r)) := by
    intro r hr
    have htext := inner.objectText hclose' fun m hm => hvalue m.2 ((h r hr).2 m hm)
    have := RecordText.mk htext
    rwa [Members.ofWritten_of_nodup (h r hr).1, ← hnode] at this
  refine arrayText_of_map (f := Json.object)
    (R := fun x bytes => ∀ r, x = .object r → RecordText (ValueText (maxDepth - 2)) r bytes)
    (fun r bytes hr => hr r rfl) (outer.arrayText hclose fun x hx r hxr => ?_)
  obtain ⟨r', hr', rfl⟩ := List.mem_map.1 hx
  rw [Json.object.injEq] at hxr
  exact hxr ▸ hrecord r' hr'

theorem wholeText_of_text {α : Type} {R : α → Bytes → Prop} {x : α} {bytes : Bytes}
    (h : R x bytes) : WholeText R x bytes := by
  have := WholeText.mk blanks_nil h blanks_nil
  simpa using this

theorem decode_compact {l : PriceList} (h : Readable l) :
    decode (Utf8.ofString l.compact) = .ok l := by
  refine decode_text (wholeText_of_text ?_)
  rw [compact, Json.compact, Utf8.ofString, String.toList_ofList, Json.encode_compact]
  exact listText_node _ _ blanks_nil blanks_nil Json.encode_compact
    (fun _ => Json.valueText_compact) h

theorem decode_pretty {l : PriceList} (h : Readable l) :
    decode (Artifact.contents l) = .ok l := by
  refine decode_text (wholeText_of_text ?_)
  rw [Artifact.contents, pretty, Json.pretty, Utf8.ofString, String.toList_ofList,
    Json.encode_pretty]
  exact listText_node _ _ (Json.blanks_lineBreak 0) (Json.blanks_lineBreak 1)
    (Json.encode_pretty 1) (fun _ hx => Json.valueText_pretty hx 2) h

/-- Both printed forms of a list that the program holds are read back as that very list: the same
records, keys in the same order at every depth, the same texts and numbers. -/
theorem decode_printed {l : PriceList} (h : Held l) :
    decode (Utf8.ofString l.compact) = .ok l ∧ decode (Artifact.contents l) = .ok l :=
  ⟨decode_compact h.readable, decode_pretty h.readable⟩

/-- The key of a spelled number in front of a record, and numbers below it. -/
def spelled : String :=
  "[\x7b\"$serde_json::private::Number\":\"\\u0001é\",\"a\":2e-5,\"b\":[7e+1]\x7d,\x7b\x7d]"

/-- It is printed from a text with a repeated key and a spelled number below the record. -/
theorem decode_printed_spelled : ∃ l, Held l ∧ l.compact = spelled ∧
    decode (Utf8.ofString l.compact) = .ok l ∧ decode (Artifact.contents l) = .ok l := by
  let text := Utf8.ofString (
    "[ \x7b\"$serde_json::private::Number\" : \"\\u0001\\u00e9\", \"a\":1, " ++
    "\"b\":[\x7b\"$serde_json::private::Number\":\"7E1\"\x7d], \"a\":2E-5\x7d, \x7b\x7d]")
  have hcompact : (decode text).toOption.map compact = some spelled := by decide +kernel
  cases h : decode text with
  | error fault => simp [h, Except.toOption] at hcompact
  | ok l =>
    rw [h] at hcompact
    exact ⟨l, .read h, by simpa [Except.toOption] using hcompact, decode_printed (.read h)⟩

end RateCard.PriceList
