import RateCard.Proofs.Json.Erased

/-!
# Lines and their indentation

The pretty form starts every line with two blanks for each container that is open there. What holds
behind a piece of the text holds in front of it as well, at the depth at which the piece is printed,
since a piece opens and closes the same containers.
-/
namespace RateCard.Json

/-- The bracket that closes what this one opens. -/
def closer? (c : Char) : Option Char :=
  if c = '[' then some ']' else if c = '\x7b' then some '\x7d' else none

def isClosing (c : Char) : Bool := c = ']' || c = '\x7d'

theorem isClosing_iff {c : Char} : isClosing c = true ↔ c = ']' ∨ c = '\x7d' := by
  simp [isClosing]

/-- Where a reader stands, and how many containers are open there. -/
structure Reading where
  spot : Spot
  depth : Nat
  deriving DecidableEq, Repr

namespace Reading

def next (reading : Reading) (c : Char) : Reading where
  spot := reading.spot.next c
  depth :=
    if reading.spot = .outside then
      if (closer? c).isSome then reading.depth + 1
      else if isClosing c then reading.depth - 1
      else reading.depth
    else reading.depth

def after (reading : Reading) (text : List Char) : Reading := text.foldl next reading

/-- In front of a text. -/
def start : Reading := ⟨.outside, 0⟩

end Reading

/-- Two blanks for each open container, without the one that the first token of the line closes,
and then that token. -/
def LineStart (depth : Nat) (line : List Char) : Prop :=
  ∃ d c rest, line = List.replicate (2 * d) ' ' ++ c :: rest ∧ c ≠ ' ' ∧ c ≠ '\n' ∧
    depth = if isClosing c then d + 1 else d

/-- Behind an opening bracket stands the closing one, or a new line with something inside. -/
def Opened (close : Char) (text : List Char) : Prop :=
  text.head? = some close ∨
    ∃ n c rest, text = '\n' :: List.replicate n ' ' ++ c :: rest ∧ c ≠ ' ' ∧ isClosing c = false

/-- A text that is laid out in lines, read from here on: no control characters but new lines outside
of strings, each of them with its indentation, and no new line in an empty container. -/
def Laid : Reading → List Char → Prop
  | _, [] => True
  | reading, c :: text =>
    (32 ≤ c.toNat ∨ c = '\n' ∧ reading.spot = .outside ∧ LineStart reading.depth text) ∧
      (reading.spot = .outside → ∀ close, closer? c = some close → Opened close text) ∧
      Laid (reading.next c) text

/-- What is laid out is so wherever it is cut. -/
theorem Laid.cut {reading : Reading} {front rest : List Char} {c : Char}
    (h : Laid reading (front ++ c :: rest)) :
    (32 ≤ c.toNat ∨ c = '\n' ∧ (reading.after front).spot = .outside ∧
        LineStart (reading.after front).depth rest) ∧
      ((reading.after front).spot = .outside → ∀ close, closer? c = some close →
        Opened close rest) := by
  induction front generalizing reading with
  | nil => exact ⟨h.1, h.2.1⟩
  | cons d front ih => exact ih h.2.2

/-! ## Pieces -/

theorem laid_solid {spot : Spot} {depth : Nat} {text rest : List Char} (h : Solid spot text)
    (hrest : Laid ⟨spot.after text, depth⟩ rest) : Laid ⟨spot, depth⟩ (text ++ rest) := by
  induction text generalizing spot with
  | nil => exact hrest
  | cons c text ih =>
    obtain ⟨hlow, hstructural, hsolid⟩ := h
    have hbracket : spot = .outside → closer? c = none ∧ isClosing c = false := fun hspot => by
      have := hstructural hspot
      simp_all [structural, closer?, isClosing]
    have hnext : Reading.next ⟨spot, depth⟩ c = ⟨spot.next c, depth⟩ := by
      rw [Reading.next]
      split_ifs with hspot hopen hclose
      · simp [hbracket hspot] at hopen
      · simp [hbracket hspot] at hclose
      · rfl
      · rfl
    refine ⟨.inl hlow, fun hspot close hclose => ?_, ?_⟩
    · rw [(hbracket hspot).1] at hclose
      cases hclose
    · change Laid (Reading.next ⟨spot, depth⟩ c) (text ++ rest)
      rw [hnext]
      exact ih hsolid hrest

theorem laid_token {text : List Char} (h : IsToken text) {depth : Nat} {rest : List Char}
    (hrest : Laid ⟨.outside, depth⟩ rest) : Laid ⟨.outside, depth⟩ (text ++ rest) :=
  laid_solid h.solid (by rwa [h.after])

/-- A character outside of strings that is neither quote nor bracket. -/
theorem laid_mark {c : Char} (h : c ∈ [' ', ':', ',']) {depth : Nat} {rest : List Char}
    (hrest : Laid ⟨.outside, depth⟩ rest) : Laid ⟨.outside, depth⟩ (c :: rest) := by
  have hmark : [' ', ':', ','].all (fun c => decide (32 ≤ c.toNat ∧ closer? c = none ∧
      isClosing c = false ∧ Spot.outside.next c = .outside)) = true := by decide
  obtain ⟨hlow, hopen, hclose, hnext⟩ := of_decide_eq_true (List.all_eq_true.1 hmark c h)
  refine ⟨.inl hlow, fun _ close hc => ?_, ?_⟩
  · rw [hopen] at hc
    cases hc
  · simpa [Reading.next, hopen, hclose, hnext] using hrest

theorem laid_blanks {n depth : Nat} {rest : List Char} (h : Laid ⟨.outside, depth⟩ rest) :
    Laid ⟨.outside, depth⟩ (List.replicate n ' ' ++ rest) := by
  induction n with
  | zero => exact h
  | succ n ih => exact laid_mark (by decide) ih

theorem laid_lineBreak {n depth : Nat} {rest : List Char}
    (hline : LineStart depth (List.replicate (2 * n) ' ' ++ rest))
    (h : Laid ⟨.outside, depth⟩ rest) : Laid ⟨.outside, depth⟩ (lineBreak n ++ rest) := by
  refine ⟨.inr ⟨rfl, rfl, hline⟩, fun _ close hc => ?_, laid_blanks h⟩
  exact absurd hc (by simp [closer?])

theorem laid_open {c close : Char} (hc : closer? c = some close) {depth : Nat} {rest : List Char}
    (hopened : Opened close rest) (h : Laid ⟨.outside, depth + 1⟩ rest) :
    Laid ⟨.outside, depth⟩ (c :: rest) := by
  have hchar : c = '[' ∨ c = '\x7b' := by
    rw [closer?] at hc
    split_ifs at hc with h1 h2
    · exact .inl h1
    · exact .inr h2
  refine ⟨.inl (by rcases hchar with rfl | rfl <;> decide), fun _ close' hc' => ?_, ?_⟩
  · rw [hc, Option.some.injEq] at hc'
    exact hc' ▸ hopened
  · rcases hchar with rfl | rfl <;> exact h

theorem laid_close {c : Char} (hc : isClosing c = true) {depth : Nat} {rest : List Char}
    (h : Laid ⟨.outside, depth⟩ rest) : Laid ⟨.outside, depth + 1⟩ (c :: rest) := by
  have hchar := isClosing_iff.1 hc
  refine ⟨.inl (by rcases hchar with rfl | rfl <;> decide), fun _ close hopen => ?_, ?_⟩
  · rcases hchar with rfl | rfl <;> exact absurd hopen (by simp [closer?])
  · rcases hchar with rfl | rfl <;> exact h

/-! ## Documents -/

/-- A text that starts with something that is no layout and closes no container. -/
def StartsInside (text : List Char) : Prop :=
  ∃ c rest, text = c :: rest ∧ c ≠ ' ' ∧ c ≠ '\n' ∧ isClosing c = false

theorem StartsInside.append {text : List Char} (h : StartsInside text) (rest : List Char) :
    StartsInside (text ++ rest) := by
  obtain ⟨c, tail, rfl, hc⟩ := h
  exact ⟨c, tail ++ rest, rfl, hc⟩

theorem startsInside_of_token {text : List Char} (h : IsToken text) : StartsInside text := by
  obtain ⟨c, rest, rfl, hlow, hstructural⟩ := h.head
  refine ⟨c, rest, rfl, ?_, ?_, ?_⟩
  · simp_all [structural]
  · rintro rfl
    exact absurd hlow (by decide)
  · simp_all [structural, isClosing]

theorem startsInside_pretty (depth : Nat) (x : Json) : StartsInside (prettyChars depth x) := by
  cases x with
  | array items => cases items <;> exact ⟨'[', _, rfl, by decide⟩
  | object members => cases members <;> exact ⟨'\x7b', _, rfl, by decide⟩
  | _ => exact startsInside_of_token (isToken_scalar trivial)

theorem startsInside_member (depth : Nat) (m : String × Json) :
    StartsInside (prettyMember depth m) := by
  obtain ⟨key, x⟩ := m
  exact (startsInside_of_token (isToken_string key)).append (':' :: ' ' :: prettyChars depth x)

theorem StartsInside.lineStart {text : List Char} (h : StartsInside text) (depth : Nat) :
    LineStart depth (List.replicate (2 * depth) ' ' ++ text) := by
  obtain ⟨c, rest, rfl, hblank, hline, hclosing⟩ := h
  exact ⟨depth, c, rest, rfl, hblank, hline, by rw [hclosing]; rfl⟩

theorem StartsInside.opened {text : List Char} (h : StartsInside text) (close : Char)
    (depth : Nat) : Opened close (lineBreak depth ++ text) := by
  obtain ⟨c, rest, rfl, hblank, -, hclosing⟩ := h
  exact .inr ⟨2 * depth, c, rest, rfl, hblank, hclosing⟩

theorem lineStart_close {c : Char} (hc : isClosing c = true) (depth : Nat) (rest : List Char) :
    LineStart (depth + 1) (List.replicate (2 * depth) ' ' ++ c :: rest) := by
  have hchar := isClosing_iff.1 hc
  refine ⟨depth, c, rest, rfl, ?_, ?_, by rw [hc]; rfl⟩ <;>
    rcases hchar with rfl | rfl <;> decide

/-- A line of an open container. -/
theorem laid_line {text rest : List Char} (hinside : StartsInside text) {depth : Nat}
    (h : Laid ⟨.outside, depth⟩ (text ++ rest)) :
    Laid ⟨.outside, depth⟩ (lineBreak depth ++ (text ++ rest)) :=
  laid_lineBreak ((hinside.append rest).lineStart depth) h

/-- The first line of a container, with the bracket that opens it. -/
theorem laid_firstLine {c close : Char} (hc : closer? c = some close) {text rest : List Char}
    (hinside : StartsInside text) {depth : Nat} (h : Laid ⟨.outside, depth + 1⟩ (text ++ rest)) :
    Laid ⟨.outside, depth⟩ (c :: (lineBreak (depth + 1) ++ (text ++ rest))) :=
  laid_open hc ((hinside.append rest).opened close (depth + 1)) (laid_line hinside h)

/-- The last line of a container. -/
theorem laid_lastLine {c : Char} (hc : isClosing c = true) {depth : Nat} {rest : List Char}
    (h : Laid ⟨.outside, depth⟩ rest) :
    Laid ⟨.outside, depth + 1⟩ (lineBreak depth ++ c :: rest) :=
  laid_lineBreak (lineStart_close hc depth rest) (laid_close hc h)

/-- A document keeps what follows it laid out, at its own depth. -/
def Lays (x : Json) : Prop :=
  ∀ (depth : Nat) (rest : List Char), Laid ⟨.outside, depth⟩ rest →
    Laid ⟨.outside, depth⟩ (prettyChars depth x ++ rest)

theorem laid_items {xs : List Json} (h : ∀ x ∈ xs, Lays x) {depth : Nat} {rest : List Char}
    (hrest : Laid ⟨.outside, depth⟩ rest) :
    Laid ⟨.outside, depth⟩ (prettyItems depth xs ++ rest) := by
  induction xs with
  | nil => exact hrest
  | cons x xs ih =>
    have hxs := ih fun y hy => h y (List.mem_cons_of_mem x hy)
    have hx := h x List.mem_cons_self depth _ hxs
    simp only [prettyItems, List.cons_append, List.append_assoc]
    exact laid_mark (by decide) (laid_line (startsInside_pretty depth x) hx)

theorem laid_member {m : String × Json} (h : Lays m.2) {depth : Nat} {rest : List Char}
    (hrest : Laid ⟨.outside, depth⟩ rest) :
    Laid ⟨.outside, depth⟩ (prettyMember depth m ++ rest) := by
  obtain ⟨key, x⟩ := m
  have hx := h depth rest hrest
  simp only [prettyMember, List.cons_append, List.append_assoc]
  exact laid_token (isToken_string key) (laid_mark (by decide) (laid_mark (by decide) hx))

theorem laid_members {ms : Members} (h : ∀ m ∈ ms, Lays m.2) {depth : Nat} {rest : List Char}
    (hrest : Laid ⟨.outside, depth⟩ rest) :
    Laid ⟨.outside, depth⟩ (prettyMembers depth ms ++ rest) := by
  induction ms with
  | nil => exact hrest
  | cons m ms ih =>
    have hms := ih fun n hn => h n (List.mem_cons_of_mem m hn)
    have hm := laid_member (h m List.mem_cons_self) hms
    simp only [prettyMembers, List.cons_append, List.append_assoc]
    exact laid_mark (by decide) (laid_line (startsInside_member depth m) hm)

theorem lays_array {items : List Json} (h : ∀ x ∈ items, Lays x) : Lays (.array items) := by
  intro depth rest hrest
  cases items with
  | nil => exact laid_open (c := '[') rfl (.inl rfl) (laid_close (by decide) hrest)
  | cons x xs =>
    have hlast := laid_lastLine (c := ']') (by decide) hrest
    have hxs := laid_items (fun y hy => h y (List.mem_cons_of_mem x hy)) hlast
    have hx := h x List.mem_cons_self (depth + 1) _ hxs
    have hopen : closer? '[' = some ']' := rfl
    simp only [prettyChars, List.cons_append, List.append_assoc, List.nil_append]
    exact laid_firstLine hopen (startsInside_pretty (depth + 1) x) hx

theorem lays_object {members : Members} (h : ∀ m ∈ members, Lays m.2) :
    Lays (.object members) := by
  intro depth rest hrest
  cases members with
  | nil => exact laid_open (c := '\x7b') rfl (.inl rfl) (laid_close (by decide) hrest)
  | cons m ms =>
    have hlast := laid_lastLine (c := '\x7d') (by decide) hrest
    have hms := laid_members (fun n hn => h n (List.mem_cons_of_mem m hn)) hlast
    have hm := laid_member (h m List.mem_cons_self) hms
    have hopen : closer? '\x7b' = some '\x7d' := rfl
    simp only [prettyChars, List.cons_append, List.append_assoc, List.nil_append]
    exact laid_firstLine hopen (startsInside_member (depth + 1) m) hm

theorem lays (x : Json) : Lays x := by
  induction x using tree_induction with
  | scalar x h =>
    intro depth rest hrest
    cases x with
    | array _ | object _ => exact h.elim
    | _ => exact laid_token (isToken_scalar h) hrest
  | array items ih => exact lays_array ih
  | object members ih => exact lays_object ih

theorem laid_pretty (x : Json) : Laid .start x.pretty.toList := by
  have h := lays x 0 [] trivial
  rw [List.append_nil] at h
  rwa [pretty, String.toList_ofList]

end RateCard.Json
