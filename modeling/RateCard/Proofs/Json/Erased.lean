import RateCard.Proofs.Json.Induction
import RateCard.Proofs.Json.Token

/-!
# Layout erased

The two layouts print the same tokens. Erasing the layout of the pretty form takes nothing from a
token, whatever blanks and colons stand in its strings, so that the compact form remains.
-/
namespace RateCard.Json

/-- What a blank outside of strings is part of, from what stands in front of it: the indentation of
a line, the gap behind a key's colon, or no layout. -/
inductive Gap where
  | none
  | line
  | colon
  deriving DecidableEq, Repr

/-- A text without its layout: outside of strings every new line is erased with the blanks behind
it, and one blank behind every colon. -/
def erase : Spot → Gap → List Char → List Char
  | _, _, [] => []
  | .outside, gap, c :: text =>
    if c = '\n' then erase .outside .line text
    else if c = ' ' ∧ gap = .line then erase .outside .line text
    else if c = ' ' ∧ gap = .colon then erase .outside .none text
    else c :: erase (Spot.outside.next c) (if c = ':' then .colon else .none) text
  | .inside, _, c :: text => c :: erase (Spot.inside.next c) .none text
  | .escaped, _, c :: text => c :: erase (Spot.escaped.next c) .none text

theorem erase_keep {spot : Spot} {gap : Gap} {c : Char} (hlow : 32 ≤ c.toNat)
    (h : spot = .outside → c ≠ ' ' ∧ c ≠ ':') (text : List Char) :
    erase spot gap (c :: text) = c :: erase (spot.next c) .none text := by
  cases spot with
  | outside =>
    obtain ⟨hblank, hcolon⟩ := h rfl
    have hline : c ≠ '\n' := by
      rintro rfl
      exact absurd hlow (by decide)
    simp [erase, hblank, hcolon, hline]
  | inside => rfl
  | escaped => rfl

theorem erase_solid {spot : Spot} {text : List Char} (h : Solid spot text) (rest : List Char) :
    erase spot .none (text ++ rest) = text ++ erase (spot.after text) .none rest := by
  induction text generalizing spot with
  | nil => rfl
  | cons c text ih =>
    obtain ⟨hlow, hstructural, hsolid⟩ := h
    have hkeep : spot = .outside → c ≠ ' ' ∧ c ≠ ':' := fun hspot => by
      have := hstructural hspot
      simp_all [structural]
    rw [List.cons_append, erase_keep hlow hkeep, ih hsolid, Spot.after_cons, List.cons_append]

theorem erase_token {text : List Char} (h : IsToken text) (gap : Gap) (rest : List Char) :
    erase .outside gap (text ++ rest) = text ++ erase .outside .none rest := by
  -- A token starts with no blank, so that it does not matter what a blank would have been.
  obtain ⟨c, tail, rfl, hlow, hstructural⟩ := h.head
  have hkeep : Spot.outside = .outside → c ≠ ' ' ∧ c ≠ ':' := fun _ => by
    simp_all [structural]
  have hsolid := erase_solid h.solid rest
  rw [h.after] at hsolid
  rw [← hsolid, List.cons_append, erase_keep hlow hkeep, erase_keep hlow hkeep]

theorem erase_lineBreak (gap : Gap) (depth : Nat) (rest : List Char) :
    erase .outside gap (lineBreak depth ++ rest) = erase .outside .line rest := by
  have hblanks (n : Nat) : erase .outside .line (List.replicate n ' ' ++ rest) =
      erase .outside .line rest := by
    induction n with
    | zero => rfl
    | succ n ih => simpa [List.replicate_succ, erase] using ih
  simp [lineBreak, erase, hblanks]

/-- Commas and brackets stay. -/
theorem erase_mark {c : Char} (h : c ∈ [',', '[', ']', '\x7b', '\x7d']) (gap : Gap)
    (text : List Char) : erase .outside gap (c :: text) = c :: erase .outside .none text := by
  have hmark : [',', '[', ']', '\x7b', '\x7d'].all (fun c =>
      decide (32 ≤ c.toNat ∧ (c ≠ ' ' ∧ c ≠ ':') ∧ Spot.outside.next c = .outside)) = true := by
    decide
  obtain ⟨hlow, hkeep, hnext⟩ := of_decide_eq_true (List.all_eq_true.1 hmark c h)
  rw [erase_keep hlow fun _ => hkeep, hnext]

theorem erase_colon (gap : Gap) (text : List Char) :
    erase .outside gap (':' :: ' ' :: text) = ':' :: erase .outside .none text := by
  simp [erase, Spot.next]

/-! ## Documents -/

/-- Erasing the layout of the pretty form leaves the compact form. -/
def Erases (x : Json) : Prop :=
  ∀ (depth : Nat) (gap : Gap) (rest : List Char),
    erase .outside gap (prettyChars depth x ++ rest) = compactChars x ++ erase .outside .none rest

theorem erase_items {xs : List Json} (h : ∀ x ∈ xs, Erases x) (depth : Nat) (rest : List Char) :
    erase .outside .none (prettyItems depth xs ++ rest) =
      compactItems xs ++ erase .outside .none rest := by
  induction xs with
  | nil => rfl
  | cons x xs ih =>
    have hx := h x List.mem_cons_self
    have hxs := ih fun y hy => h y (List.mem_cons_of_mem x hy)
    simp only [prettyItems, compactItems, List.cons_append, List.append_assoc]
    rw [erase_mark (by decide), erase_lineBreak, hx, hxs]

theorem erase_member {m : String × Json} (h : Erases m.2) (depth : Nat) (gap : Gap)
    (rest : List Char) :
    erase .outside gap (prettyMember depth m ++ rest) =
      compactMember m ++ erase .outside .none rest := by
  obtain ⟨key, x⟩ := m
  simp only [prettyMember, compactMember, List.cons_append, List.append_assoc]
  rw [erase_token (isToken_string key), erase_colon, h]

theorem erase_members {ms : Members} (h : ∀ m ∈ ms, Erases m.2) (depth : Nat)
    (rest : List Char) :
    erase .outside .none (prettyMembers depth ms ++ rest) =
      compactMembers ms ++ erase .outside .none rest := by
  induction ms with
  | nil => rfl
  | cons m ms ih =>
    have hm := erase_member (h m List.mem_cons_self)
    have hms := ih fun n hn => h n (List.mem_cons_of_mem m hn)
    simp only [prettyMembers, compactMembers, List.cons_append, List.append_assoc]
    rw [erase_mark (by decide), erase_lineBreak, hm, hms]

theorem erases_array {items : List Json} (h : ∀ x ∈ items, Erases x) : Erases (.array items) := by
  intro depth gap rest
  cases items with
  | nil =>
    change erase .outside gap ('[' :: ']' :: rest) = '[' :: ']' :: erase .outside .none rest
    rw [erase_mark (by decide), erase_mark (by decide)]
  | cons x xs =>
    have hx := h x List.mem_cons_self
    have hxs := erase_items fun y hy => h y (List.mem_cons_of_mem x hy)
    simp only [prettyChars, compactChars, List.cons_append, List.append_assoc, List.nil_append]
    rw [erase_mark (by decide), erase_lineBreak, hx, hxs, erase_lineBreak, erase_mark (by decide)]

theorem erases_object {members : Members} (h : ∀ m ∈ members, Erases m.2) :
    Erases (.object members) := by
  intro depth gap rest
  cases members with
  | nil =>
    change erase .outside gap ('\x7b' :: '\x7d' :: rest) =
      '\x7b' :: '\x7d' :: erase .outside .none rest
    rw [erase_mark (by decide), erase_mark (by decide)]
  | cons m ms =>
    have hm := erase_member (h m List.mem_cons_self)
    have hms := erase_members fun n hn => h n (List.mem_cons_of_mem m hn)
    simp only [prettyChars, compactChars, List.cons_append, List.append_assoc, List.nil_append]
    rw [erase_mark (by decide), erase_lineBreak, hm, hms, erase_lineBreak, erase_mark (by decide)]

theorem erases (x : Json) : Erases x := by
  induction x using tree_induction with
  | scalar x h =>
    intro depth gap rest
    cases x with
    | array _ | object _ => exact h.elim
    | _ => exact erase_token (isToken_scalar h) gap rest
  | array items ih => exact erases_array ih
  | object members ih => exact erases_object ih

theorem erase_pretty (x : Json) : erase .outside .none x.pretty.toList = x.compact.toList := by
  have h := erases x 0 .none []
  simpa [pretty, compact, erase] using h

end RateCard.Json
