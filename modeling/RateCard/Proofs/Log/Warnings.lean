import RateCard.Proofs.CommandLine.ExitCode
import RateCard.Proofs.Text.Quoted

/-!
# Warnings about entries

Extraction warns of each entry that is amiss, in the order of the entries. A warning takes one line
of visible characters whatever name the entry gives itself, and the line tells which entry is meant
and what name it gave.
-/
namespace RateCard.Log
open RateCard.CommandLine (lineBreaks lineBreaks_append lineBreaks_toString Environment)
open RateCard.Text

/-! ## Visible lines -/

def AllVisible (text : String) : Prop := ∀ c ∈ text.toList, isInvisible c = false

theorem allVisible_append {a b : String} (ha : AllVisible a) (hb : AllVisible b) :
    AllVisible (a ++ b) := by
  intro c hc
  rw [String.toList_append, List.mem_append] at hc
  exact hc.elim (ha c) (hb c)

theorem allVisible_toString (n : Nat) : AllVisible (toString n) := fun c hc => by
  rw [Nat.toString_eq_repr, Nat.toList_repr] at hc
  exact Quoted.visible_digits (by decide) (by decide) hc

theorem allVisible_quoteString (text : String) : AllVisible (Quoted.quoteString text) := by
  intro c hc
  rw [Quoted.quoteString, String.toList_ofList] at hc
  exact Quoted.visible_quote hc

theorem AllVisible.not_isControl {text : String} (h : AllVisible text) :
    ∀ c ∈ text.toList, ¬ Quoted.IsControl c := by
  intro c hc hcontrol
  cases hcontrol.invisible.symm.trans (h c hc)

theorem AllVisible.lineBreaks {text : String} (h : AllVisible text) : lineBreaks text = 0 := by
  refine List.count_eq_zero.2 fun hbreak => ?_
  exact h.not_isControl _ hbreak (.inl (by decide))

/-- The pieces of a text without colours are visible if it is. -/
theorem allVisible_piece {pieces : Styled} (h : AllVisible (pieces.show false)) {style : Style}
    {text : String} (hpiece : (style, text) ∈ pieces) : AllVisible text := by
  intro c hc
  induction pieces with
  | nil => cases hpiece
  | cons piece pieces ih =>
    simp only [Styled.show, List.map_cons, String.join_cons] at h
    rw [AllVisible, String.toList_append] at h
    rcases List.mem_cons.1 hpiece with rfl | hrest
    · exact h c (List.mem_append_left _ hc)
    · exact ih (fun x hx => h x (List.mem_append_right _ hx)) hrest

/-! ## Line breaks of the log -/

theorem lineBreaks_paint (style : Style) (text : String) :
    lineBreaks (style.paint text) = lineBreaks text := by
  have hcode : ∀ code ∈ style.codes, lineBreaks code = 0 := by
    intro code hcode
    cases style with
    | palette number =>
      rw [List.mem_singleton.1 hcode, lineBreaks_append, lineBreaks_toString]
      rfl
    | _ => revert code; decide
  have hcodes : ∀ codes : List String, (∀ code ∈ codes, lineBreaks code = 0) →
      lineBreaks (String.join (codes.map fun c => "\x1b[" ++ c ++ "m")) = 0 := by
    intro codes hall
    induction codes with
    | nil => rfl
    | cons code codes ih =>
      obtain ⟨hhead, htail⟩ := List.forall_mem_cons.1 hall
      have h₁ : lineBreaks "\x1b[" = 0 := by decide
      have h₂ : lineBreaks "m" = 0 := by decide
      simp only [List.map_cons, String.join_cons, lineBreaks_append, hhead, ih htail, h₁, h₂]
  rw [Style.paint]
  split
  · rfl
  · have h₃ : lineBreaks "\x1b[0m" = 0 := by decide
    rw [lineBreaks_append, lineBreaks_append, hcodes _ hcode, h₃, Nat.zero_add, Nat.add_zero]

/-- Colours break no line. -/
theorem lineBreaks_show (colour : Bool) (pieces : Styled) :
    lineBreaks (pieces.show colour) = lineBreaks (pieces.show false) := by
  induction pieces with
  | nil => cases colour <;> rfl
  | cons piece pieces ih =>
    simp only [Styled.show, List.map_cons, String.join_cons, lineBreaks_append] at ih ⊢
    rw [ih]
    cases colour with
    | false => rfl
    | true => rw [if_pos rfl, lineBreaks_paint]; rfl

/-- Events with visible lines take a line each. -/
theorem lineBreaks_lines {events : List Event} (h : ∀ e ∈ events, AllVisible e.line)
    (colour : Bool) (f : Filter) :
    lineBreaks (lines colour f events) = (events.filter (shows f)).length := by
  have hline (e : Event) (he : e ∈ events) : lineBreaks (e.styled.show colour ++ "\n") = 1 := by
    rw [lineBreaks_append, lineBreaks_show, Event.show_styled, (h e he).lineBreaks]
    rfl
  have hjoin (shown : List Event) (hshown : shown ⊆ events) :
      lineBreaks (String.join (shown.map fun e => e.styled.show colour ++ "\n")) =
        shown.length := by
    induction shown with
    | nil => rfl
    | cons e shown ih =>
      obtain ⟨he, hshown⟩ := List.cons_subset.1 hshown
      rw [List.map_cons, String.join_cons, lineBreaks_append, hline e he, ih hshown,
        List.length_cons, Nat.add_comm]
  exact hjoin _ (List.filter_subset_self _)

theorem shows_upTo (level : Level) (e : Event) :
    shows (upTo level) e = decide (e.level.rank ≤ level.rank) := by
  simp [shows, decisive?, upTo, Directive.concerns]

/-! ## The lines of warnings -/

/-- What stands in the line of a warning in front of the index of the entry. -/
def head (message : String) : String := " WARN " ++ message ++ " index="

theorem line_entryNotObject (index : Nat) : (Event.entryNotObject index).line =
    head (Event.entryNotObject index).message ++ toString index := by
  have hindex : " index=" = " " ++ ("index" ++ "=") := by decide
  simp only [Event.line, Event.fields, Event.level, Level.text, head, hindex, List.map_cons,
    List.map_nil, String.join_cons, String.join_nil, String.append_empty, String.append_assoc]
  rfl

theorem line_pricingNotObject (index : Nat) (id : String) :
    (Event.pricingNotObject index id).line =
      head (Event.pricingNotObject index id).message ++ toString index ++ " id=" ++
        Quoted.quoteString id := by
  have hindex : " index=" = " " ++ ("index" ++ "=") := by decide
  have hid : " id=" = " " ++ ("id" ++ "=") := by decide
  simp only [Event.line, Event.fields, Event.level, Level.text, head, hindex, hid, List.map_cons,
    List.map_nil, String.join_cons, String.join_nil, String.append_empty, String.append_assoc]
  rfl

theorem allVisible_of_printable {text : String}
    (h : (text.toList.all fun c => decide (Quoted.IsPrintable c)) = true) : AllVisible text :=
  fun c hc => (of_decide_eq_true (List.all_eq_true.1 h c hc)).visible

/-- The words of a warning are visible, and there is no quote in them. -/
theorem plain_head (message : String) (h : message ∈ [(Event.entryNotObject 0).message,
    (Event.pricingNotObject 0 "").message]) :
    AllVisible (head message) ∧ '"' ∉ (head message).toList := by
  rcases List.mem_pair.1 h with rfl | rfl
  · exact ⟨allVisible_of_printable (by decide +kernel), by decide +kernel⟩
  · exact ⟨allVisible_of_printable (by decide +kernel), by decide +kernel⟩

theorem allVisible_entryNotObject (index : Nat) : AllVisible (Event.entryNotObject index).line := by
  rw [line_entryNotObject]
  exact allVisible_append (plain_head _ (by simp [Event.message])).1 (allVisible_toString index)

theorem allVisible_pricingNotObject (index : Nat) (id : String) :
    AllVisible (Event.pricingNotObject index id).line := by
  rw [line_pricingNotObject]
  have hhead := (plain_head (Event.pricingNotObject index id).message (by simp [Event.message])).1
  have hid : AllVisible " id=" := allVisible_of_printable (by decide)
  have hindex := allVisible_append hhead (allVisible_toString index)
  exact allVisible_append (allVisible_append hindex hid) (allVisible_quoteString id)

/-- The first quoted text of a line, with what stands behind it. -/
def quoted? (line : String) : Option (List Char × List Char) :=
  Quoted.unquote? (line.toList.dropWhile (· ≠ '"'))

theorem quoted_append {front : String} (h : '"' ∉ front.toList) (text : String) :
    quoted? (front ++ Quoted.quoteString text) = some (text.toList, []) := by
  have hfront : ∀ c ∈ front.toList, decide (c ≠ '"') = true := by
    intro c hc
    exact decide_eq_true fun heq => h (heq ▸ hc)
  have hread := Quoted.unquote_quote text.toList []
  rw [List.append_nil, Quoted.quote, List.cons_append] at hread
  rw [quoted?, String.toList_append, List.dropWhile_append_of_pos hfront, Quoted.quoteString,
    String.toList_ofList, Quoted.quote, List.cons_append, List.dropWhile_cons_of_neg (by simp)]
  exact hread

theorem quote_not_mem_toString (n : Nat) : '"' ∉ (toString n).toList := by
  intro h
  rw [Nat.toString_eq_repr, Nat.toList_repr] at h
  exact absurd (Nat.isDigit_of_mem_toDigits (by decide) (by decide) h) (by decide)

/-- The name that an entry gave itself stands in the line of its warning. -/
theorem quoted_pricingNotObject (index : Nat) (id : String) :
    quoted? (Event.pricingNotObject index id).line = some (id.toList, []) := by
  rw [line_pricingNotObject]
  refine quoted_append ?_ id
  have hhead := (plain_head (Event.pricingNotObject index id).message (by simp [Event.message])).2
  have hid : '"' ∉ " id=".toList := by decide
  simp only [String.toList_append, List.mem_append, not_or]
  exact ⟨⟨hhead, quote_not_mem_toString index⟩, hid⟩

theorem quoted_entryNotObject (index : Nat) : quoted? (Event.entryNotObject index).line = none := by
  have hhead := (plain_head (Event.entryNotObject index).message (by simp [Event.message])).2
  have hnone : (Event.entryNotObject index).line.toList.dropWhile (· ≠ '"') = [] := by
    rw [List.dropWhile_eq_nil_iff, line_entryNotObject, String.toList_append]
    intro c hc
    refine decide_eq_true fun heq => ?_
    rcases List.mem_append.1 (heq ▸ hc) with h | h
    · exact hhead h
    · exact quote_not_mem_toString index h
  rw [quoted?, hnone]
  rfl

theorem toString_inj {n m : Nat} (h : toString n = toString m) : n = m := by
  have hdigits := congrArg (fun s => Nat.ofDigitChars 10 s.toList 0) h
  simpa [Nat.ofDigitChars_ten_toDigits] using hdigits

theorem entryNotObject_of_line {index index' : Nat}
    (h : (Event.entryNotObject index).line = (Event.entryNotObject index').line) :
    index = index' := by
  rw [line_entryNotObject, line_entryNotObject] at h
  exact toString_inj (String.append_right_inj _ |>.1 h)

theorem pricingNotObject_of_line {index index' : Nat} {id id' : String}
    (h : (Event.pricingNotObject index id).line = (Event.pricingNotObject index' id').line) :
    index = index' ∧ id = id' := by
  have hid : id = id' := by
    have hquoted := congrArg quoted? h
    rw [quoted_pricingNotObject, quoted_pricingNotObject] at hquoted
    simpa [String.toList_inj] using hquoted
  subst hid
  rw [line_pricingNotObject, line_pricingNotObject, String.append_left_inj,
    String.append_left_inj] at h
  exact ⟨toString_inj (String.append_right_inj _ |>.1 h), rfl⟩

end RateCard.Log

namespace RateCard.Listing
open RateCard.CommandLine (lineBreaks Environment)
open RateCard.Json (Members)
open RateCard.Log
open RateCard.PriceList (entryId ofEntry ofEntries ofListing)
open RateCard.Text

/-! ## Entries that are amiss -/

/-- An entry that is no object, or whose `pricing` is there and is no object. -/
def IsAmiss (entry : Json) : Prop :=
  (∀ members, entry ≠ .object members) ∨
    ∃ members pricing, entry = .object members ∧ Members.get? "pricing" members = some pricing ∧
      ∀ record, pricing ≠ .object record

/-- The warning about an entry with this index. -/
inductive Warns (index : Nat) (entry : Json) : Event → Prop where
  | entryNotObject : (∀ members, entry ≠ .object members) →
      Warns index entry (.entryNotObject index)
  | pricingNotObject {members : Members} {pricing : Json} : entry = .object members →
      Members.get? "pricing" members = some pricing → (∀ record, pricing ≠ .object record) →
      Warns index entry (.pricingNotObject index (entryId members))

theorem Warns.isAmiss {index : Nat} {entry : Json} {e : Event} (h : Warns index entry e) :
    IsAmiss entry := by
  cases h with
  | entryNotObject hobject => exact .inl hobject
  | pricingNotObject hentry hget hpricing => exact .inr ⟨_, _, hentry, hget, hpricing⟩

/-- An entry is warned of once if it is amiss, and else not at all. -/
theorem warns_ofEntry (index : Nat) (entry : Json) :
    ¬ IsAmiss entry ∧ (ofEntry index entry).2 = [] ∨
      ∃ e, Warns index entry e ∧ (ofEntry index entry).2 = [e] := by
  unfold ofEntry
  split
  next members =>
    have hamiss : IsAmiss (.object members) → ∃ pricing,
        Members.get? "pricing" members = some pricing ∧ ∀ record, pricing ≠ .object record := by
      rintro (hobject | ⟨members', pricing, hentry, hget, hpricing⟩)
      · exact absurd rfl (hobject members)
      · exact ⟨pricing, Json.object.inj hentry ▸ hget, hpricing⟩
    split
    next hget =>
      refine .inl ⟨fun h => ?_, rfl⟩
      obtain ⟨pricing, hget', -⟩ := hamiss h
      cases hget.symm.trans hget'
    next record hget =>
      refine .inl ⟨fun h => ?_, rfl⟩
      obtain ⟨pricing, hget', hpricing⟩ := hamiss h
      rw [hget, Option.some.injEq] at hget'
      exact hpricing record hget'.symm
    next pricing hpricing hget =>
      exact .inr ⟨_, .pricingNotObject rfl hget hpricing, rfl⟩
  next hobject => exact .inr ⟨_, .entryNotObject fun members heq => hobject members heq, rfl⟩

/-- The events are the warnings about those of the entries that are amiss, where the first entry has
this index. -/
structure Reports (index : Nat) (entries : List Json) (indices : List Nat) (events : List Event) :
    Prop where
  increasing : indices.Pairwise (· < ·)
  mem : ∀ i, i ∈ indices ↔ ∃ k entry, i = index + k ∧ entries[k]? = some entry ∧ IsAmiss entry
  warnings : List.Forall₂ (fun i e => ∃ k entry, i = index + k ∧ entries[k]? = some entry ∧
    Warns i entry e) indices events

section Reports
variable {index : Nat} {entry : Json} {entries : List Json} {indices : List Nat}
  {events : List Event} (h : Reports (index + 1) entries indices events)
include h

theorem Reports.later : List.Forall₂ (fun i e => ∃ k entry', i = index + k ∧
    (entry :: entries)[k]? = some entry' ∧ Warns i entry' e) indices events := by
  refine h.warnings.imp ?_
  rintro i e ⟨k, entry', rfl, hentry, hwarns⟩
  exact ⟨k + 1, entry', by omega, hentry, hwarns⟩

theorem Reports.mem_later (entry : Json) (i : Nat) : i ∈ indices ↔
    ∃ k entry', i = index + (k + 1) ∧ (entry :: entries)[k + 1]? = some entry' ∧
      IsAmiss entry' := by
  simp only [h.mem i, List.getElem?_cons_succ, Nat.add_assoc, Nat.add_comm 1]

theorem Reports.cons_fine (hentry : ¬ IsAmiss entry) :
    Reports index (entry :: entries) indices events := by
  refine ⟨h.increasing, fun i => ?_, h.later⟩
  rw [h.mem_later entry]
  constructor
  · rintro ⟨k, rest⟩
    exact ⟨k + 1, rest⟩
  · rintro ⟨k, entry', hi, hget, hamiss⟩
    cases k with
    | zero => exact absurd (Option.some.inj hget ▸ hamiss) hentry
    | succ k => exact ⟨k, entry', hi, hget, hamiss⟩

theorem Reports.cons_amiss {e : Event} (hentry : Warns index entry e) :
    Reports index (entry :: entries) (index :: indices) (e :: events) := by
  refine ⟨List.pairwise_cons.2 ⟨fun i hi => ?_, h.increasing⟩, fun i => ?_,
    .cons ⟨0, entry, rfl, rfl, hentry⟩ h.later⟩
  · obtain ⟨k, -, rfl, -⟩ := (h.mem i).1 hi
    omega
  · rw [List.mem_cons, h.mem_later entry]
    constructor
    · rintro (rfl | ⟨k, rest⟩)
      · exact ⟨0, entry, rfl, rfl, hentry.isAmiss⟩
      · exact ⟨k + 1, rest⟩
    · rintro ⟨k, entry', hi, hget, hamiss⟩
      cases k with
      | zero => exact .inl hi
      | succ k => exact .inr ⟨k, entry', hi, hget, hamiss⟩

end Reports

theorem reports_ofEntries (index : Nat) (entries : List Json) :
    ∃ indices, Reports index entries indices (ofEntries index entries).2 := by
  induction entries generalizing index with
  | nil => exact ⟨[], .nil, by simp, .nil⟩
  | cons entry entries ih =>
    obtain ⟨indices, hlater⟩ := ih (index + 1)
    rw [ofEntries]
    rcases warns_ofEntry index entry with ⟨hfine, hevents⟩ | ⟨e, hwarns, hevents⟩
    · exact ⟨indices, by simpa [hevents] using hlater.cons_fine hfine⟩
    · exact ⟨index :: indices, by simpa [hevents] using hlater.cons_amiss hwarns⟩

theorem warns_of_mem {index : Nat} {entries : List Json} {e : Event}
    (h : e ∈ (ofEntries index entries).2) : ∃ i entry, Warns i entry e := by
  induction entries generalizing index with
  | nil => cases h
  | cons entry entries ih =>
    rw [ofEntries] at h
    rcases List.mem_append.1 h with h | h
    · rcases warns_ofEntry index entry with ⟨-, hevents⟩ | ⟨e', hwarns, hevents⟩
      · rw [hevents] at h
        cases h
      · rw [hevents, List.mem_singleton] at h
        exact ⟨index, entry, h ▸ hwarns⟩
    · exact ih h

theorem Warns.visible {index : Nat} {entry : Json} {e : Event} (h : Warns index entry e) :
    e.level = .warn ∧ AllVisible e.line := by
  cases h with
  | entryNotObject => exact ⟨rfl, allVisible_entryNotObject index⟩
  | pricingNotObject => exact ⟨rfl, allVisible_pricingNotObject index _⟩

/-- A line tells the warning: what is amiss, with which entry, and the name that it gave. -/
theorem Warns.eq_of_line {index index' : Nat} {entry entry' : Json} {e e' : Event}
    (h : Warns index entry e) (h' : Warns index' entry' e') (hline : e.line = e'.line) :
    e = e' := by
  have hquoted := congrArg quoted? hline
  cases h with
  | entryNotObject =>
    cases h' with
    | entryNotObject => rw [entryNotObject_of_line hline]
    | pricingNotObject =>
      rw [quoted_entryNotObject, quoted_pricingNotObject] at hquoted
      cases hquoted
  | pricingNotObject =>
    cases h' with
    | entryNotObject =>
      rw [quoted_entryNotObject, quoted_pricingNotObject] at hquoted
      cases hquoted
    | pricingNotObject =>
      obtain ⟨hindex, hid⟩ := pricingNotObject_of_line hline
      rw [hindex, hid]

/-- Extraction warns of each entry that is amiss and of no other one, once and in their order. Each
warning is one line without any control character, whatever name the entry gave itself. The name can
be read back from its quotes, and no two warnings have the same line. -/
theorem warnings_told {document : Json} {entries : List Json} (h : HasEntries document entries) :
    (∃ indices : List Nat, indices.Pairwise (· < ·) ∧
      (∀ i, i ∈ indices ↔ ∃ entry, entries[i]? = some entry ∧ IsAmiss entry) ∧
      List.Forall₂ (fun i e => ∃ entry, entries[i]? = some entry ∧ Warns i entry e) indices
        (ofListing document).2 ∧
      ∀ noColour force colour verbose,
        lineBreaks (lines colour (Environment.filter ⟨noColour, force, none⟩ verbose)
          (ofListing document).2) = indices.length) ∧
    (∀ e ∈ (ofListing document).2, e.level = .warn ∧ (∀ c ∈ e.line.toList, ¬ Quoted.IsControl c) ∧
      AllVisible e.line ∧ ∀ piece ∈ e.styled, AllVisible piece.2) ∧
    (∀ i id, quoted? (Event.pricingNotObject i id).line = some (id.toList, [])) ∧
    ∀ i i' entry entry' e e', Warns i entry e → Warns i' entry' e' → e.line = e'.line →
      e = e' := by
  obtain ⟨indices, hreports⟩ := reports_ofEntries 0 entries
  have hevents : (ofListing document).2 = (ofEntries 0 entries).2 := by
    obtain ⟨members, rfl, hdata⟩ := h
    simp only [ofListing, hdata]
  have hwarns : ∀ e ∈ (ofListing document).2, e.level = .warn ∧ AllVisible e.line := by
    intro e he
    obtain ⟨i, entry, hwarns⟩ := warns_of_mem (hevents ▸ he)
    exact hwarns.visible
  rw [← hevents] at hreports
  refine ⟨⟨indices, hreports.increasing, by simpa using hreports.mem, ?_, ?_⟩, fun e he => ?_,
    quoted_pricingNotObject, fun _ _ _ _ _ _ => Warns.eq_of_line⟩
  · simpa using hreports.warnings
  · intro noColour force colour verbose
    have hshown : (ofListing document).2.filter
        (shows (Environment.filter ⟨noColour, force, none⟩ verbose)) = (ofListing document).2 := by
      refine List.filter_eq_self.2 fun e he => ?_
      rw [Environment.filter, Option.bind_none, Option.getD_none, shows_upTo, (hwarns e he).1]
      cases verbose <;> rfl
    rw [lineBreaks_lines fun e he => (hwarns e he).2, hshown, hreports.warnings.length_eq]
  · obtain ⟨hlevel, hvisible⟩ := hwarns e he
    exact ⟨hlevel, hvisible.not_isControl, hvisible, fun piece hpiece =>
      allVisible_piece (by rwa [Event.show_styled]) hpiece⟩

/-- Entries of all kinds; one of them gives itself a name that would forge lines. -/
theorem warnings_told_forged :
    let name := "a\n WARN \x1b[2K\" id=\\\u202e"
    let forged : Json := .object [("id", .string name), ("pricing", .null)]
    let entries : List Json := [forged, .object [], .object [("pricing", .object [])], .null, forged]
    let document : Json := .object [("data", .array entries)]
    HasEntries document entries ∧
      (ofListing document).2 = [.pricingNotObject 0 name, .entryNotObject 3,
        .pricingNotObject 4 name] ∧
      (∀ colour, lineBreaks (lines colour (Environment.filter ⟨none, none, none⟩ false)
        (ofListing document).2) = 3) ∧
      quoted? (Event.pricingNotObject 0 name).line = some (name.toList, []) := by
  intro name forged entries document
  have hentries : HasEntries document entries := ⟨_, rfl, rfl⟩
  have hevents : (ofListing document).2 = [.pricingNotObject 0 name, .entryNotObject 3,
      .pricingNotObject 4 name] := rfl
  obtain ⟨⟨indices, -, -, hwarnings, hlines⟩, -, hquoted, -⟩ := warnings_told hentries
  have hlength : indices.length = 3 := by rw [hwarnings.length_eq, hevents]; rfl
  exact ⟨hentries, hevents, fun colour => by rw [hlines, hlength], hquoted 0 name⟩

end RateCard.Listing
