import RateCard.Proofs.Json.Exact.Value
import RateCard.Proofs.Json.Layout
import RateCard.Proofs.Json.Place
import RateCard.Proofs.Json.Related
import RateCard.Proofs.Json.RepeatedKeys

/-!
# The text at a place

Which bytes of a text spell what stands at a place of its document. The grammar of containers is
used with the texts themselves as what they hold, so that a text is taken apart as it is read, and
the part at a place can be computed.
-/
namespace RateCard.Json
open RateCard.Text Grammar

namespace Grammar
open Scan (maxDepth)

/-- A value as the text that spells it. -/
def Fragment (part bytes : Bytes) : Prop := part = bytes ∧ ∃ x, ValueText maxDepth x bytes

/-- The text at a place of a text. Of the members with one key the one written last counts, as it
does in the document. -/
inductive PartText : Place → Bytes → Bytes → Prop where
  | here {part whole : Bytes} : Fragment part whole → PartText [] part whole
  | item {index : Nat} {parts : List Bytes} {inner part whole : Bytes} {place : Place} :
      ArrayText Fragment parts whole → parts[index]? = some inner → PartText place part inner →
      PartText (.item index :: place) part whole
  | key {name : String} {written : List (String × Bytes)} {inner part whole : Bytes}
      {place : Place} :
      ObjectText Fragment written whole → ¬ StartsNumber written →
      written.reverse.lookup name = some inner → PartText place part inner →
      PartText (.key name :: place) part whole

end Grammar

/-! ## Taking a text apart -/

namespace Scan

/-- Reads a value and keeps its text. -/
def fragment : Reader Bytes := fun s => do
  let (_, rest) ← value maxDepth s
  .ok ((skipBlanks s).take ((skipBlanks s).length - rest.length), rest)

/-- The members of an object after its opening brace, as they are written. -/
def writtenMembers {α : Type} (item : Reader α) : Reader (List (String × α)) := fun s => do
  let (key, s) ← firstKey s
  match key with
  | none => .ok ([], s)
  | some key => membersFrom item key s

/-- What a text holds, if the reader takes all of it. -/
def all? {α : Type} (reader : Reader α) (s : Bytes) : Option α :=
  match reader s with
  | .ok (x, []) => some x
  | _ => none

/-- What a text holds behind this bracket. -/
def behind? {α : Type} (bracket : UInt8) (reader : Reader α) : Bytes → Option α
  | [] => none
  | b :: s => if b = bracket then all? reader s else none

theorem all?_eq_some {α : Type} {reader : Reader α} {s : Bytes} {x : α} :
    all? reader s = some x ↔ reader s = .ok (x, []) := by
  unfold all?
  split
  · next y hread => simp [hread]
  · next hother =>
    simp only [reduceCtorEq, false_iff]
    exact hother x

theorem behind?_eq_some {α : Type} {bracket : UInt8} {reader : Reader α} {whole : Bytes} {x : α} :
    behind? bracket reader whole = some x ↔
      ∃ body, whole = bracket :: body ∧ reader body = .ok (x, []) := by
  cases whole with
  | nil => simp [behind?]
  | cons b s =>
    rw [behind?]
    by_cases hb : b = bracket
    · simp [hb, all?_eq_some]
    · simp [hb]

theorem fragment_text {x : Json} {bytes ws rest : Bytes} (text : ValueText maxDepth x bytes)
    (hws : Blanks ws) (hread : value maxDepth (ws ++ (bytes ++ rest)) = .ok (x, rest)) :
    fragment (ws ++ (bytes ++ rest)) = .ok (bytes, rest) := by
  have hskip : skipBlanks (ws ++ (bytes ++ rest)) = bytes ++ rest := by
    obtain ⟨b, tail, rfl, hblank, -⟩ := (reads_value maxDepth).start text
    exact skipBlanks_token hws hblank _
  rw [fragment, hread, ok_bind]
  simp [hskip]

theorem reads_fragment : Reads fragment Fragment := by
  refine ⟨fun {part bytes} h => ?_, fun {part bytes ws rest} h hws hends => ?_⟩
  · obtain ⟨rfl, x, hx⟩ := h
    exact (reads_value maxDepth).start hx
  · obtain ⟨rfl, x, hx⟩ := h
    exact fragment_text hx hws ((reads_value maxDepth).read hx hws hends)

theorem takesSpelled_fragment : TakesSpelled fragment Fragment := by
  intro s part rest h
  obtain ⟨⟨x, rest'⟩, hvalue, hpart⟩ := bind_eq_ok.1 h
  obtain ⟨rfl⟩ : rest' = rest := by cases hpart; rfl
  obtain ⟨ws, bytes, hws, hx, rfl⟩ := takesSpelled_value maxDepth hvalue
  have hfragment := fragment_text hx hws hvalue
  rw [h, Except.ok.injEq, Prod.mk.injEq] at hfragment
  exact ⟨ws, bytes, hws, ⟨hfragment.1, x, hx⟩, rfl⟩

section Containers
variable {α : Type} {item : Reader α} {R : α → Bytes → Prop} (hreads : Reads item R)
  (htakes : TakesSpelled item R)
include hreads htakes

theorem behind?_array {xs : List α} {whole : Bytes} :
    behind? 91 (array item) whole = some xs ↔ ArrayText R xs whole := by
  rw [behind?_eq_some]
  constructor
  · rintro ⟨body, rfl, hread⟩
    obtain ⟨bytes, htext, rfl⟩ := spelled_array htakes hread
    rwa [List.append_nil]
  · intro htext
    obtain ⟨body, rfl, hread⟩ := array_text hreads htext []
    exact ⟨body, rfl, by rwa [List.append_nil] at hread⟩

theorem behind?_object {ms : List (String × α)} {whole : Bytes} :
    behind? 123 (writtenMembers item) whole = some ms ↔ ObjectText R ms whole := by
  rw [behind?_eq_some]
  constructor
  · rintro ⟨body, rfl, hread⟩
    obtain ⟨⟨key, s⟩, hfirst, hread⟩ := bind_eq_ok.1 hread
    have hmembers := spelled_object_members htakes hfirst
    cases key with
    | none =>
      cases hread
      obtain ⟨bytes, htext, rfl⟩ := hmembers
      rwa [List.append_nil]
    | some key =>
      obtain ⟨-, bytes, htext, rfl⟩ := hmembers.2 hread
      rwa [List.append_nil]
  · intro htext
    obtain ⟨body, rfl, hread⟩ := object_members hreads htext []
    rw [List.append_nil] at hread
    refine ⟨body, rfl, ?_⟩
    rcases hread with ⟨rfl, hfirst⟩ | ⟨key, s, -, hfirst, hmembers⟩
    · rw [writtenMembers, hfirst]
      rfl
    · rw [writtenMembers, hfirst]
      exact hmembers

end Containers
end Scan

namespace Grammar
open Scan (all? behind? fragment writtenMembers maxDepth)

instance {α : Type} (written : List (String × α)) : Decidable (StartsNumber written) :=
  inferInstanceAs (Decidable (_ = _))

/-- The text at a place, found by reading. -/
def partAt? : Place → Bytes → Option Bytes
  | [], whole => (all? fragment whole).filter (· = whole)
  | .item index :: place, whole =>
    (behind? 91 (Scan.array fragment) whole).bind fun parts =>
      parts[index]?.bind (partAt? place)
  | .key name :: place, whole =>
    (behind? 123 (writtenMembers fragment) whole).bind fun written =>
      if StartsNumber written then none
      else (written.reverse.lookup name).bind (partAt? place)

theorem fragment_iff {part whole : Bytes} :
    Fragment part whole ↔ all? fragment whole = some part ∧ part = whole := by
  rw [Scan.all?_eq_some]
  constructor
  · intro h
    have hread := Scan.reads_fragment.read h blanks_nil Scan.endsNumeral_nil
    rw [List.nil_append, List.append_nil] at hread
    exact ⟨hread, h.1⟩
  · rintro ⟨hread, rfl⟩
    obtain ⟨ws, bytes, -, ⟨rfl, x, hx⟩, -⟩ := Scan.takesSpelled_fragment hread
    exact ⟨rfl, x, hx⟩

/-- The grammar and the reader agree on which text stands where. -/
theorem partAt?_eq_some {place : Place} {part whole : Bytes} :
    partAt? place whole = some part ↔ PartText place part whole := by
  induction place generalizing whole with
  | nil =>
    have hfilter : partAt? [] whole = some part ↔ Fragment part whole := by
      rw [partAt?, Option.filter_eq_some_iff, fragment_iff, decide_eq_true_eq]
    rw [hfilter]
    refine ⟨.here, fun h => ?_⟩
    cases h with
    | here h => exact h
  | cons step place ih =>
    cases step with
    | item index =>
      simp only [partAt?, Option.bind_eq_some_iff, ih,
        Scan.behind?_array Scan.reads_fragment Scan.takesSpelled_fragment]
      constructor
      · rintro ⟨parts, hparts, inner, hinner, hpart⟩
        exact .item hparts hinner hpart
      · intro h
        cases h with
        | item hparts hinner hpart => exact ⟨_, hparts, _, hinner, hpart⟩
    | key name =>
      simp only [partAt?, Option.bind_eq_some_iff, Option.ite_none_left_eq_some, ih,
        Scan.behind?_object Scan.reads_fragment Scan.takesSpelled_fragment]
      constructor
      · rintro ⟨written, hwritten, hfirst, inner, hinner, hpart⟩
        exact .key hwritten hfirst hinner hpart
      · intro h
        cases h with
        | key hwritten hfirst hinner hpart => exact ⟨_, hwritten, hfirst, _, hinner, hpart⟩

/-- One text stands at a place. -/
theorem PartText.unique {place : Place} {part part' whole : Bytes} (h : PartText place part whole)
    (h' : PartText place part' whole) : part = part' := by
  rw [← partAt?_eq_some] at h h'
  exact Option.some.inj (h.symm.trans h')

/-! ## Texts and documents -/

/-- A text that has a part spells a document, and the part spells what stands there. -/
theorem at?_of_part {place : Place} {part whole : Bytes} (h : PartText place part whole) :
    ∃ x y, ValueText (maxDepth + 1) x whole ∧ at? place x = some y ∧
      ValueText maxDepth y part := by
  have hspelled (part bytes : Bytes) (hpart : Fragment part bytes) :
      ∃ x, ValueText maxDepth x bytes ∧ ValueText maxDepth x part := by
    obtain ⟨rfl, x, hx⟩ := hpart
    exact ⟨x, hx, hx⟩
  induction h with
  | here h =>
    obtain ⟨x, hwhole, hpart⟩ := hspelled _ _ h
    exact ⟨x, x, valueText_succ hwhole, rfl, hpart⟩
  | item hparts hinner _ ih =>
    obtain ⟨xs, hxs, hrelated⟩ := related_array hspelled hparts
    obtain ⟨z, hz, hinner⟩ := related_getElem? hrelated hinner
    -- The item that the array gives is the document of the inner text, as no text spells two.
    obtain ⟨x, y, hx, hy, hpart⟩ := ih
    obtain rfl := valueText_unique hx hinner
    exact ⟨.array xs, y, .array hxs, at?_item.2 ⟨xs, x, rfl, hz, hy⟩, hpart⟩
  | key hwritten hfirst hinner _ ih =>
    obtain ⟨ms, hms, hrelated⟩ := related_object hspelled hwritten
    obtain ⟨z, hz, hinner⟩ := related_lookup (List.forall₂_reverse_iff.2 hrelated) hinner
    obtain ⟨x, y, hx, hy, hpart⟩ := ih
    obtain rfl := valueText_unique hx hinner
    rw [← Members.get?_ofWritten] at hz
    exact ⟨.object (Members.ofWritten ms), y,
      .object hms (mt (related_startsNumber hrelated).2 hfirst),
      at?_key.2 ⟨_, x, rfl, hz, hy⟩, hpart⟩

/-- What a part of a whole text spells stands at that place of the document of the text. -/
theorem at?_of_whole {place : Place} {part text : Bytes} {x y : Json} (hx : Document x text)
    (hpart : WholeText (PartText place) part text) (hy : ValueText maxDepth y part) :
    at? place x = some y := by
  have hx' : WholeText (ValueText (maxDepth + 1)) x text := by
    cases hx with
    | mk hws hvalue hws' => exact .mk hws (valueText_succ hvalue) hws'
  cases hpart with
  | mk hws hinner hws' =>
    obtain ⟨z, y', hz, hat, hy'⟩ := at?_of_part hinner
    have hreads := Scan.reads_value (maxDepth + 1)
    have hsame := (Scan.whole_text hreads (.mk hws hz hws')).symm.trans (Scan.whole_text hreads hx')
    obtain rfl := Except.ok.inj hsame
    obtain rfl := valueText_unique hy hy'
    exact hat

end Grammar

/-! ## Printed texts -/

/-- A text is what is printed of this document one level deeper. -/
def IsPrinted (indent : Nat) (x : Json) (part : Bytes) : Prop :=
  part = Utf8.encode (prettyChars (indent + 1) x)

theorem exists_isPrinted (indent : Nat) (x : Json) (bytes : Bytes)
    (h : Fragment (Utf8.encode (prettyChars (indent + 1) x)) bytes) :
    ∃ part, Fragment part bytes ∧ IsPrinted indent x part :=
  ⟨_, h, rfl⟩

section Printed
variable {depth : Nat} (hdepth : depth ≤ Scan.maxDepth) (indent : Nat)
include hdepth

theorem fragment_printed {x : Json} (hx : Readable depth x) :
    Fragment (Utf8.encode (prettyChars indent x)) (Utf8.encode (prettyChars indent x)) :=
  ⟨rfl, x, valueText_mono hdepth (valueText_pretty hx indent)⟩

theorem array_printed {items : List Json} (h : ∀ x ∈ items, Readable depth x) :
    ∃ parts, ArrayText Fragment parts (Utf8.encode (prettyChars indent (.array items))) ∧
      List.Forall₂ (IsPrinted indent) items parts := by
  have htext := (prettyInside (indent + 1)).arrayText
    (R := fun x => Fragment (Utf8.encode (prettyChars (indent + 1) x))) (blanks_lineBreak indent)
    fun x hx => fragment_printed hdepth (indent + 1) (h x hx)
  rw [← encode_pretty] at htext
  exact related_array (exists_isPrinted indent) htext

theorem object_printed {members : Members} (h : ∀ m ∈ members, Readable depth m.2) :
    ∃ parts, ObjectText Fragment parts (Utf8.encode (prettyChars indent (.object members))) ∧
      List.Forall₂ (MemberRelated (IsPrinted indent)) members parts := by
  have htext := (prettyInside (indent + 1)).objectText
    (R := fun x => Fragment (Utf8.encode (prettyChars (indent + 1) x))) (blanks_lineBreak indent)
    fun m hm => fragment_printed hdepth (indent + 1) (h m hm)
  rw [← encode_pretty] at htext
  exact related_object (exists_isPrinted indent) htext

end Printed

/-- What stands at a place of a document is printed at that place of the printed document. -/
theorem part_of_at {depth : Nat} (hdepth : depth ≤ Scan.maxDepth) (indent : Nat) {place : Place}
    {x y : Json} (hx : Readable depth x) (hy : at? place x = some y) :
    ∃ inner, PartText place (Utf8.encode (prettyChars inner y))
      (Utf8.encode (prettyChars indent x)) := by
  induction place generalizing depth indent x with
  | nil =>
    obtain rfl := Option.some.inj hy
    exact ⟨indent, .here (fragment_printed hdepth indent hx)⟩
  | cons step place ih =>
    cases step with
    | item index =>
      obtain ⟨items, z, rfl, hz, hy⟩ := at?_item.1 hy
      cases depth with
      | zero => exact hx.elim
      | succ depth =>
        have hdepth' : depth ≤ Scan.maxDepth := Nat.le_of_succ_le hdepth
        obtain ⟨parts, hparts, hrelated⟩ := array_printed hdepth' indent hx
        obtain ⟨part, hinner, rfl⟩ := related_getElem? hrelated hz
        obtain ⟨inner, hpart⟩ := ih hdepth' (indent + 1) (hx z (List.mem_of_getElem? hz)) hy
        exact ⟨inner, .item hparts hinner hpart⟩
    | key name =>
      obtain ⟨members, z, rfl, hz, hy⟩ := at?_key.1 hy
      cases depth with
      | zero => exact hx.elim
      | succ depth =>
        have hdepth' : depth ≤ Scan.maxDepth := Nat.le_of_succ_le hdepth
        obtain ⟨⟨hkeys, hvalues⟩, hfirst⟩ := hx
        obtain ⟨parts, hparts, hrelated⟩ := object_printed hdepth' indent hvalues
        obtain ⟨inner, hpart⟩ := ih hdepth' (indent + 1) (hvalues _ (Members.mem_of_get? hz)) hy
        rw [← Members.ofWritten_of_nodup hkeys, Members.get?_ofWritten] at hz
        obtain ⟨part, hinner, rfl⟩ := related_lookup (List.forall₂_reverse_iff.2 hrelated) hz
        exact ⟨inner, .key hparts (mt (related_startsNumber hrelated).2 hfirst) hinner hpart⟩

end RateCard.Json
