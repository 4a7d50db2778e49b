import Mathlib.Data.List.TakeWhile
import RateCard.Proofs.Json.Exact.Numeral
import RateCard.Proofs.Json.Exact.Text
import RateCard.Proofs.Json.Reading.Value

/-!
# Documents that are read are spelled

The readers of containers take spelled containers if the reader of an element takes spelled
elements, so that the reader of documents follows by one induction on the depth. With the other
direction this makes the grammar say exactly which texts are read, and as what.
-/
namespace RateCard.Json.Scan
open RateCard.Text Grammar

/-- What the reader takes from a text, blanks in front aside, spells the value that it gives. -/
def TakesSpelled {α : Type} (item : Reader α) (R : α → Bytes → Prop) : Prop :=
  ∀ ⦃s x rest⦄, item s = .ok (x, rest) →
    ∃ ws bytes, Blanks ws ∧ R x bytes ∧ s = ws ++ (bytes ++ rest)

theorem spelled_blanks (s : Bytes) : ∃ ws, Blanks ws ∧ s = ws ++ skipBlanks s := by
  refine ⟨s.takeWhile isBlank, fun b hb => List.mem_takeWhile_imp hb, ?_⟩
  exact (List.takeWhile_append_dropWhile ..).symm

theorem blanks_append {ws ws' : Bytes} (h : Blanks ws) (h' : Blanks ws') : Blanks (ws ++ ws') := by
  intro b hb
  exact (List.mem_append.1 hb).elim (h b) (h' b)

theorem spelled_literal {word s rest : Bytes} (h : literal word s = .ok rest) :
    s = word ++ rest := by
  induction word generalizing s with
  | nil =>
    cases h
    rfl
  | cons w word ih =>
    cases s with
    | nil => cases h
    | cons b s =>
      rw [literal] at h
      split_ifs at h with hb
      · rw [hb, ih h, List.cons_append]
      · cases h

/-! ## Arrays -/

section Containers
variable {α : Type} {item : Reader α} {R : α → Bytes → Prop}

theorem spelled_arrayTail (hr : TakesSpelled item R) {steps : Nat} {s rest : Bytes} {xs : List α}
    (h : arrayTail item steps s = .ok (xs, rest)) :
    ∃ bytes, ItemsText R xs bytes ∧ s = bytes ++ rest := by
  induction steps generalizing s xs with
  | zero => cases h
  | succ steps ih =>
    obtain ⟨ws, hws, hs⟩ := spelled_blanks s
    rw [arrayTail] at h
    split at h
    · cases h
    next b s₁ hskip =>
    rw [hskip] at hs
    split_ifs at h with hclose hcomma
    · cases h
      exact ⟨ws ++ [93], .close hws, by rw [hs, hclose]; simp⟩
    · split at h
      · cases h
      next c s₂ hskip' =>
      obtain ⟨ws', hws', hs₁⟩ := spelled_blanks s₁
      rw [hskip'] at hs₁
      split_ifs at h
      · cases h
      obtain ⟨⟨x, s₃⟩, hx, h⟩ := bind_eq_ok.1 h
      obtain ⟨⟨xs', s₄⟩, hxs, h⟩ := bind_eq_ok.1 h
      cases h
      obtain ⟨ws'', bytes, hws'', hbytes, hs₂⟩ := hr hx
      obtain ⟨tail, htail, hs₃⟩ := ih hxs
      refine ⟨_, .more hws (blanks_append hws' hws'') hbytes htail, ?_⟩
      rw [hs, hcomma, hs₁, hs₂, hs₃]
      simp
    · cases h

theorem spelled_array (hr : TakesSpelled item R) {s rest : Bytes} {xs : List α}
    (h : array item s = .ok (xs, rest)) :
    ∃ bytes, ArrayText R xs (91 :: bytes) ∧ s = bytes ++ rest := by
  obtain ⟨ws, hws, hs⟩ := spelled_blanks s
  rw [array] at h
  split at h
  · cases h
  next b s₁ hskip =>
  rw [hskip] at hs
  split_ifs at h with hclose
  · cases h
    exact ⟨ws ++ [93], by simpa using ArrayText.empty (R := R) hws, by rw [hs, hclose]; simp⟩
  · obtain ⟨⟨x, s₂⟩, hx, h⟩ := bind_eq_ok.1 h
    obtain ⟨⟨xs', s₃⟩, hxs, h⟩ := bind_eq_ok.1 h
    cases h
    obtain ⟨ws', bytes, hws', hbytes, hs₁⟩ := hr hx
    obtain ⟨tail, htail, hs₂⟩ := spelled_arrayTail hr hxs
    refine ⟨ws ++ ws' ++ bytes ++ tail, ?_, ?_⟩
    · simpa using ArrayText.items (blanks_append hws hws') hbytes htail
    · rw [hs, hs₁, hs₂]
      simp

/-! ## Members -/

theorem spelled_colon {s rest : Bytes} (h : colon s = .ok rest) :
    ∃ ws, Blanks ws ∧ s = ws ++ 58 :: rest := by
  obtain ⟨ws, hws, hs⟩ := spelled_blanks s
  rw [colon] at h
  split at h
  · cases h
  next b s₁ hskip =>
  rw [hskip] at hs
  split_ifs at h with hb
  · cases h
    exact ⟨ws, hws, by rw [hs, hb]⟩
  · cases h

/-- A value behind a colon makes a member of the key in front. -/
theorem spelled_member (hr : TakesSpelled item R) {key : String} {keyBytes : Bytes}
    (hkey : StringText key keyBytes) {s s' rest : Bytes} {x : α} (hcolon : colon s = .ok s')
    (hx : item s' = .ok (x, rest)) :
    ∃ bytes, MemberText R (key, x) bytes ∧ keyBytes ++ s = bytes ++ rest := by
  obtain ⟨ws, hws, rfl⟩ := spelled_colon hcolon
  obtain ⟨ws', bytes, hws', hbytes, rfl⟩ := hr hx
  exact ⟨_, .mk hkey hws hws' hbytes, by simp⟩

theorem spelled_objectTail (hr : TakesSpelled item R) {steps : Nat} {s rest : Bytes}
    {ms : List (String × α)} (h : objectTail item steps s = .ok (ms, rest)) :
    ∃ bytes, MembersText R ms bytes ∧ s = bytes ++ rest := by
  induction steps generalizing s ms with
  | zero => cases h
  | succ steps ih =>
    obtain ⟨ws, hws, hs⟩ := spelled_blanks s
    rw [objectTail] at h
    split at h
    · cases h
    next b s₁ hskip =>
    rw [hskip] at hs
    split_ifs at h with hclose hcomma
    · cases h
      exact ⟨ws ++ [125], .close hws, by rw [hs, hclose]; simp⟩
    · split at h
      · cases h
      next c s₂ hskip' =>
      obtain ⟨ws', hws', hs₁⟩ := spelled_blanks s₁
      rw [hskip'] at hs₁
      split_ifs at h with hquote
      · obtain ⟨⟨m, s₃⟩, hm, h⟩ := bind_eq_ok.1 h
        obtain ⟨⟨ms', s₄⟩, hms, h⟩ := bind_eq_ok.1 h
        cases h
        obtain ⟨⟨key, s₅⟩, hkey, hm⟩ := bind_eq_ok.1 hm
        obtain ⟨s₆, hcolon, hm⟩ := bind_eq_ok.1 hm
        obtain ⟨⟨x, s₇⟩, hx, hm⟩ := bind_eq_ok.1 hm
        cases hm
        obtain ⟨body, hbody, hs₂⟩ := spelled_string hkey
        obtain ⟨bytes, hbytes, hs₅⟩ := spelled_member hr hbody hcolon hx
        obtain ⟨tail, htail, hs₃⟩ := ih hms
        refine ⟨_, .more hws hws' hbytes htail, ?_⟩
        rw [hs, hcomma, hs₁, hquote, hs₂, List.append_assoc, ← hs₃, List.append_assoc, ← hs₅]
        simp
      · cases h
      · cases h
    · cases h

/-- An object ends at once or has a first key, from which on its members are read. -/
theorem spelled_object_members (hr : TakesSpelled item R) {s s' : Bytes} {key : Option String}
    (h : firstKey s = .ok (key, s')) :
    match key with
    | none => ∃ bytes, ObjectText R [] (123 :: bytes) ∧ s = bytes ++ s'
    | some key =>
      (∃ ws keyBytes, Blanks ws ∧ StringText key keyBytes ∧ s = ws ++ (keyBytes ++ s')) ∧
        ∀ {ms rest}, membersFrom item key s' = .ok (ms, rest) →
          ms.head?.map Prod.fst = some key ∧
            ∃ bytes, ObjectText R ms (123 :: bytes) ∧ s = bytes ++ rest := by
  obtain ⟨ws, hws, hs⟩ := spelled_blanks s
  rw [firstKey] at h
  split at h
  · cases h
  next b s₁ hskip =>
  rw [hskip] at hs
  split_ifs at h with hclose hquote
  · cases h
    exact ⟨ws ++ [125], by simpa using ObjectText.empty (R := R) hws, by rw [hs, hclose]; simp⟩
  · obtain ⟨⟨key, s₂⟩, hkey, h⟩ := bind_eq_ok.1 h
    cases h
    obtain ⟨body, hbody, hs₁⟩ := spelled_string hkey
    refine ⟨⟨ws, 34 :: body, hws, hbody, by rw [hs, hquote, hs₁]; rfl⟩, fun {ms rest} hms => ?_⟩
    obtain ⟨s₃, hcolon, hms⟩ := bind_eq_ok.1 hms
    obtain ⟨⟨x, s₄⟩, hx, hms⟩ := bind_eq_ok.1 hms
    obtain ⟨⟨ms', s₅⟩, htail, hms⟩ := bind_eq_ok.1 hms
    cases hms
    obtain ⟨bytes, hbytes, hs₂⟩ := spelled_member hr hbody hcolon hx
    obtain ⟨tail, hmembers, hs₄⟩ := spelled_objectTail hr htail
    refine ⟨rfl, ws ++ bytes ++ tail, by simpa using ObjectText.members hws hbytes hmembers, ?_⟩
    rw [hs, hquote, hs₁, ← List.cons_append, hs₂, hs₄]
    simp
  · cases h

end Containers

/-! ## Documents -/

theorem spelled_numeralOf {text rest : Bytes} {n : Numeral} (h : numeralOf text = .ok (n, rest)) :
    ∃ bytes, NumeralText n bytes ∧ text = bytes ++ rest := by
  unfold numeralOf at h
  split at h
  · cases h
  · split_ifs at h
    · exact spelled_numeral h
    · cases h

theorem numeralText_of_spelledNumeral {text : Bytes} {n : Numeral}
    (h : spelledNumeral text = .ok n) : NumeralText n text := by
  unfold spelledNumeral at h
  split at h
  · next hread =>
    cases h
    obtain ⟨bytes, hn, rfl⟩ := spelled_numeralOf hread
    rwa [List.append_nil]
  · cases h
  · split_ifs at h

/-- A number spelled in a member, behind the key that says so. -/
theorem spelled_spelledObject {ws keyBytes s rest : Bytes} {n : Numeral} (hws : Blanks ws)
    (hkey : StringText numberKey keyBytes) (h : spelledObject s = .ok (n, rest)) :
    ∃ bytes, SpelledText n (123 :: bytes) ∧ ws ++ (keyBytes ++ s) = bytes ++ rest := by
  obtain ⟨s₁, hcolon, h⟩ := bind_eq_ok.1 h
  obtain ⟨ws₁, hws₁, hs⟩ := spelled_colon hcolon
  obtain ⟨ws₂, hws₂, hs₁⟩ := spelled_blanks s₁
  split at h
  · cases h
  next b s₂ hskip =>
  rw [hskip] at hs₁
  split_ifs at h with hquote
  · obtain ⟨⟨text, s₃⟩, htext, h⟩ := bind_eq_ok.1 h
    obtain ⟨body, hbody, hs₂⟩ := spelled_string htext
    obtain ⟨ws₃, hws₃, hs₃⟩ := spelled_blanks s₃
    simp only at h
    split at h
    · cases h
    next n' hn =>
    split at h
    · cases h
    next c s₄ hskip' =>
    rw [hskip'] at hs₃
    split_ifs at h with hclose
    · cases h
      refine ⟨ws ++ keyBytes ++ ws₁ ++ 58 :: ws₂ ++ 34 :: body ++ ws₃ ++ [125], ?_, ?_⟩
      · simpa using SpelledText.mk hws hws₁ hws₂ hws₃ hkey hbody
          (numeralText_of_spelledNumeral hn)
      · rw [hs, hs₁, hquote, hs₂, hs₃, hclose]
        simp
    · cases h
    · cases h
  · obtain ⟨met, -, h⟩ := bind_eq_ok.1 h
    cases h

theorem spelled_object {item : Reader Json} {R : Json → Bytes → Prop} (hr : TakesSpelled item R)
    {s rest : Bytes} {x : Json} (h : object item s = .ok (x, rest)) :
    ∃ bytes, NodeText R x (123 :: bytes) ∧ s = bytes ++ rest := by
  obtain ⟨⟨key, s₁⟩, hfirst, h⟩ := bind_eq_ok.1 h
  have hmembers := spelled_object_members hr hfirst
  cases key with
  | none =>
    cases h
    obtain ⟨bytes, hbytes, hs⟩ := hmembers
    exact ⟨bytes, .object hbytes (by simp [StartsNumber]), hs⟩
  | some key =>
    obtain ⟨⟨ws, keyBytes, hws, hkey, hs⟩, hmembers⟩ := hmembers
    simp only at h
    split_ifs at h with hnumber
    · obtain ⟨⟨n, s₂⟩, hn, h⟩ := bind_eq_ok.1 h
      cases h
      subst hnumber
      obtain ⟨bytes, hbytes, hs'⟩ := spelled_spelledObject hws hkey hn
      exact ⟨bytes, .spelled hbytes, hs.trans hs'⟩
    · obtain ⟨⟨written, s₂⟩, hwritten, h⟩ := bind_eq_ok.1 h
      cases h
      obtain ⟨hhead, bytes, hbytes, hs'⟩ := hmembers hwritten
      refine ⟨bytes, .object hbytes fun hstarts => hnumber ?_, hs'⟩
      exact Option.some.inj (hhead.symm.trans hstarts)

/-- What is no container is spelled as a scalar; of containers only the bracket is known here. -/
theorem spelled_valueWith {inArray inObject : Reader Json} {s rest : Bytes} {x : Json}
    (h : valueWith inArray inObject s = .ok (x, rest)) :
    ∃ ws s', Blanks ws ∧ s = ws ++ s' ∧
      ((∃ bytes, ScalarText x bytes ∧ s' = bytes ++ rest) ∨
        (∃ s'', s' = 91 :: s'' ∧ inArray s'' = .ok (x, rest)) ∨
        ∃ s'', s' = 123 :: s'' ∧ inObject s'' = .ok (x, rest)) := by
  obtain ⟨ws, hws, hs⟩ := spelled_blanks s
  refine ⟨ws, skipBlanks s, hws, hs, ?_⟩
  rw [valueWith] at h
  split at h
  · cases h
  next b s₁ hskip =>
  rw [hskip]
  split_ifs at h with hnull htrue hfalse hnumeral hquote harray hobject
  · obtain ⟨s₂, hword, h⟩ := bind_eq_ok.1 h
    cases h
    exact .inl ⟨_, .null, by rw [hnull, spelled_literal hword]; rfl⟩
  · obtain ⟨s₂, hword, h⟩ := bind_eq_ok.1 h
    cases h
    exact .inl ⟨_, .true, by rw [htrue, spelled_literal hword]; rfl⟩
  · obtain ⟨s₂, hword, h⟩ := bind_eq_ok.1 h
    cases h
    exact .inl ⟨_, .false, by rw [hfalse, spelled_literal hword]; rfl⟩
  · obtain ⟨⟨n, s₂⟩, hn, h⟩ := bind_eq_ok.1 h
    cases h
    obtain ⟨bytes, hbytes, hs₁⟩ := spelled_numeral hn
    exact .inl ⟨bytes, .number hbytes, hs₁⟩
  · obtain ⟨⟨text, s₂⟩, htext, h⟩ := bind_eq_ok.1 h
    cases h
    obtain ⟨body, hbody, hs₁⟩ := spelled_string htext
    exact .inl ⟨34 :: body, .string hbody, by rw [hquote, hs₁]; rfl⟩
  · exact .inr (.inl ⟨s₁, by rw [harray], h⟩)
  · exact .inr (.inr ⟨s₁, by rw [hobject], h⟩)
  · cases h

theorem takesSpelled_value (depth : Nat) : TakesSpelled (value depth) (ValueText depth) := by
  induction depth with
  | zero =>
    intro s x rest h
    obtain ⟨ws, s', hws, rfl, ⟨bytes, hbytes, rfl⟩ | ⟨s'', -, hstop⟩ | ⟨s'', -, hstop⟩⟩ :=
      spelled_valueWith h
    · exact ⟨ws, bytes, hws, hbytes, rfl⟩
    · cases hstop
    · cases hstop
  | succ depth ih =>
    intro s x rest h
    obtain ⟨ws, s', hws, rfl, ⟨bytes, hbytes, rfl⟩ | ⟨s'', rfl, harray⟩ | ⟨s'', rfl, hobject⟩⟩ :=
      spelled_valueWith h
    · exact ⟨ws, bytes, hws, .scalar hbytes, rfl⟩
    · obtain ⟨⟨items, s₁⟩, hitems, harray⟩ := bind_eq_ok.1 harray
      cases harray
      obtain ⟨bytes, hbytes, rfl⟩ := spelled_array ih hitems
      exact ⟨ws, 91 :: bytes, hws, .array hbytes, rfl⟩
    · obtain ⟨bytes, hbytes, rfl⟩ := spelled_object ih hobject
      exact ⟨ws, 123 :: bytes, hws, hbytes, rfl⟩

theorem wholeText_of_whole {α : Type} {reader : Reader α} {R : α → Bytes → Prop}
    (hr : TakesSpelled reader R) {x : α} {text : Bytes} (h : whole reader text = .ok x) :
    WholeText R x text := by
  rw [whole, mapError_eq_ok] at h
  obtain ⟨⟨y, rest⟩, hread, h⟩ := bind_eq_ok.1 h
  obtain ⟨ws, bytes, hws, hbytes, htext⟩ := hr hread
  obtain ⟨ws', hws', hrest⟩ := spelled_blanks rest
  simp only at h
  split at h
  · next hend =>
    cases h
    rw [hend, List.append_nil] at hrest
    rw [htext, hrest, ← List.append_assoc]
    exact .mk hws hbytes hws'
  · cases h

/-- A reader that takes spelled values to what they spell, and takes nothing else, reads a whole
text exactly if it is spelled. -/
theorem whole_eq_ok_iff {α : Type} {reader : Reader α} {R : α → Bytes → Prop}
    (hreads : Reads reader R) (htakes : TakesSpelled reader R) {x : α} {text : Bytes} :
    whole reader text = .ok x ↔ WholeText R x text :=
  ⟨wholeText_of_whole htakes, whole_text hreads⟩

end Scan

/-- A text is decoded to a document exactly if it spells it. -/
theorem decode_eq_ok_iff {x : Json} {text : Text.Bytes} :
    decode text = .ok x ↔ Grammar.Document x text :=
  Scan.whole_eq_ok_iff (Scan.reads_value _) (Scan.takesSpelled_value _)

end RateCard.Json
