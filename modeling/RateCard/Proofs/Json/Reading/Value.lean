import RateCard.Proofs.Json.Reading.Numeral
import RateCard.Proofs.Json.Reading.Text

/-!
# Spelled documents are read back

The readers of containers read what they hold if the reader of an element does, so that the reader
of documents follows by one induction on the depth. The last theorem says it of whole texts.
-/
namespace RateCard.Json.Scan
open RateCard.Text Grammar

/-- The reader takes every spelling of a value to that value, blanks in front included, wherever
what follows does not prolong a number. -/
structure Reads {α : Type} (item : Reader α) (R : α → Bytes → Prop) : Prop where
  start {x : α} {bytes : Bytes} : R x bytes → ∃ b tl, bytes = b :: tl ∧ isBlank b = false ∧ b ≠ 93
  read {x : α} {bytes ws rest : Bytes} : R x bytes → Blanks ws → EndsNumeral rest →
    item (ws ++ (bytes ++ rest)) = .ok (x, rest)

/-! ## Blanks -/

theorem skipBlanks_blanks {ws : Bytes} (h : Blanks ws) (s : Bytes) :
    skipBlanks (ws ++ s) = skipBlanks s :=
  List.dropWhile_append_of_pos h

theorem skipBlanks_cons {b : UInt8} (h : isBlank b = false) (s : Bytes) :
    skipBlanks (b :: s) = b :: s := by
  simp [skipBlanks, h]

theorem skipBlanks_token {ws : Bytes} (h : Blanks ws) {b : UInt8} (hb : isBlank b = false)
    (s : Bytes) : skipBlanks (ws ++ b :: s) = b :: s := by
  rw [skipBlanks_blanks h, skipBlanks_cons hb]

theorem endsNumeral_blank {w : UInt8} (h : isBlank w = true) (s : Bytes) :
    EndsNumeral (w :: s) := by
  simp only [isBlank, Bool.or_eq_true, beq_iff_eq] at h
  rw [endsNumeral_cons]
  rcases h with ((rfl | rfl) | rfl) | rfl <;> simp [digit?]

theorem endsNumeral_blanks {ws : Bytes} (h : Blanks ws) {b : UInt8} {s : Bytes}
    (hb : EndsNumeral (b :: s)) : EndsNumeral (ws ++ b :: s) := by
  cases ws with
  | nil => exact hb
  | cons w ws => exact endsNumeral_blank (h w (by simp)) _

/-! ## Arrays -/

section Containers
variable {α : Type} {item : Reader α} {R : α → Bytes → Prop}

theorem itemsText_ends {xs : List α} {bytes : Bytes} (text : ItemsText R xs bytes) (rest : Bytes) :
    EndsNumeral (bytes ++ rest) := by
  cases text with
  | close hws =>
    rw [List.append_assoc]
    exact endsNumeral_blanks hws (by simp [endsNumeral_cons, digit?])
  | more hws =>
    simp only [List.append_assoc, List.cons_append]
    exact endsNumeral_blanks hws (by simp [endsNumeral_cons, digit?])

theorem itemsText_length {xs : List α} {bytes : Bytes} (text : ItemsText R xs bytes) :
    xs.length < bytes.length := by
  induction text with
  | close => simp
  | more => simp only [List.length_append, List.length_cons]; omega

theorem arrayTail_text (hr : Reads item R) {xs : List α} {bytes : Bytes}
    (text : ItemsText R xs bytes) (rest : Bytes) {steps : Nat} (h : xs.length < steps) :
    arrayTail item steps (bytes ++ rest) = .ok (xs, rest) := by
  induction text generalizing steps with
  | @close ws hws =>
    obtain ⟨left, rfl⟩ : ∃ left, steps = left + 1 := ⟨steps - 1, by omega⟩
    rw [List.append_assoc, List.singleton_append, arrayTail,
      skipBlanks_token hws (by decide)]
    rfl
  | @more ws ws' bytes tail x xs hws hws' hx htail ih =>
    rw [List.length_cons] at h
    obtain ⟨left, rfl⟩ : ∃ left, steps = left + 1 := ⟨steps - 1, by omega⟩
    obtain ⟨b, tl, rfl, hblank, hclose⟩ := hr.start hx
    have hread := hr.read hx blanks_nil (itemsText_ends htail rest)
    simp only [List.nil_append, List.cons_append] at hread
    simp only [List.append_assoc, List.cons_append]
    rw [arrayTail, skipBlanks_token hws (by decide)]
    simp only [if_neg (by decide : ¬ (44 : UInt8) = 93), if_true,
      skipBlanks_token hws' hblank, if_neg hclose, hread, ok_bind,
      ih (by omega : xs.length < left)]

theorem array_text (hr : Reads item R) {xs : List α} {bytes : Bytes} (text : ArrayText R xs bytes)
    (rest : Bytes) : ∃ body, bytes = 91 :: body ∧ array item (body ++ rest) = .ok (xs, rest) := by
  cases text with
  | @empty ws hws =>
    refine ⟨ws ++ [93], rfl, ?_⟩
    rw [List.append_assoc, List.singleton_append, array, skipBlanks_token hws (by decide)]
    rfl
  | @items ws bytes tail x xs hws hx htail =>
    refine ⟨ws ++ bytes ++ tail, rfl, ?_⟩
    obtain ⟨b, tl, rfl, hblank, hclose⟩ := hr.start hx
    have hread := hr.read hx blanks_nil (itemsText_ends htail rest)
    have hlen := itemsText_length htail
    have hsteps : xs.length < (tail ++ rest).length + 1 := by
      rw [List.length_append]
      omega
    have hrest := arrayTail_text hr htail rest hsteps
    simp only [List.nil_append, List.cons_append] at hread
    simp only [List.append_assoc, List.cons_append]
    rw [array, skipBlanks_token hws hblank]
    simp only [if_neg hclose, hread, ok_bind, hrest]

/-! ## Members -/

theorem colon_text {ws : Bytes} (h : Blanks ws) (s : Bytes) : colon (ws ++ 58 :: s) = .ok s := by
  rw [colon, skipBlanks_token h (by decide)]
  rfl

theorem member_text (hr : Reads item R) {m : String × α} {bytes : Bytes}
    (text : MemberText R m bytes) {rest : Bytes} (h : EndsNumeral rest) :
    ∃ body, bytes = 34 :: body ∧ member item (body ++ rest) = .ok (m, rest) := by
  cases text with
  | @mk key x keyBytes ws ws' bytes hkey hws hws' hx =>
    obtain ⟨body, rfl, hstring⟩ := string_text hkey (ws ++ 58 :: (ws' ++ (bytes ++ rest)))
    refine ⟨body ++ ws ++ 58 :: ws' ++ bytes, rfl, ?_⟩
    simp only [List.append_assoc, List.cons_append]
    rw [member, hstring, ok_bind]
    simp only [colon_text hws, ok_bind, hr.read hx hws' h]

theorem membersText_ends {ms : List (String × α)} {bytes : Bytes} (text : MembersText R ms bytes)
    (rest : Bytes) : EndsNumeral (bytes ++ rest) := by
  cases text with
  | close hws =>
    rw [List.append_assoc]
    exact endsNumeral_blanks hws (by simp [endsNumeral_cons, digit?])
  | more hws =>
    simp only [List.append_assoc, List.cons_append]
    exact endsNumeral_blanks hws (by simp [endsNumeral_cons, digit?])

theorem membersText_length {ms : List (String × α)} {bytes : Bytes}
    (text : MembersText R ms bytes) : ms.length < bytes.length := by
  induction text with
  | close => simp
  | more => simp only [List.length_append, List.length_cons]; omega

theorem objectTail_text (hr : Reads item R) {ms : List (String × α)} {bytes : Bytes}
    (text : MembersText R ms bytes) (rest : Bytes) {steps : Nat} (h : ms.length < steps) :
    objectTail item steps (bytes ++ rest) = .ok (ms, rest) := by
  induction text generalizing steps with
  | @close ws hws =>
    obtain ⟨left, rfl⟩ : ∃ left, steps = left + 1 := ⟨steps - 1, by omega⟩
    rw [List.append_assoc, List.singleton_append, objectTail,
      skipBlanks_token hws (by decide)]
    rfl
  | @more ws ws' bytes tail m ms hws hws' hm htail ih =>
    rw [List.length_cons] at h
    obtain ⟨left, rfl⟩ : ∃ left, steps = left + 1 := ⟨steps - 1, by omega⟩
    obtain ⟨body, rfl, hmember⟩ := member_text hr hm (membersText_ends htail rest)
    simp only [List.append_assoc, List.cons_append]
    rw [objectTail, skipBlanks_token hws (by decide)]
    simp only [if_neg (by decide : ¬ (44 : UInt8) = 125), if_true,
      skipBlanks_token hws' (by decide : isBlank 34 = false), hmember, ok_bind,
      ih (by omega : ms.length < left)]

theorem firstKey_text {key : String} {ws keyBytes : Bytes} (hws : Blanks ws)
    (hkey : StringText key keyBytes) (rest : Bytes) :
    firstKey (ws ++ (keyBytes ++ rest)) = .ok (some key, rest) := by
  obtain ⟨body, rfl, hstring⟩ := string_text hkey rest
  rw [firstKey, List.cons_append, skipBlanks_token hws (by decide)]
  simp only [if_neg (by decide : ¬ (34 : UInt8) = 125), if_true, hstring, ok_bind]

/-- An object that ends at once has no first key; otherwise the members are read from the first
key on. -/
theorem object_members (hr : Reads item R) {written : List (String × α)} {bytes : Bytes}
    (text : ObjectText R written bytes) (rest : Bytes) :
    ∃ body, bytes = 123 :: body ∧
      (written = [] ∧ firstKey (body ++ rest) = .ok (none, rest) ∨
        ∃ key s, written.head?.map Prod.fst = some key ∧
          firstKey (body ++ rest) = .ok (some key, s) ∧
          membersFrom item key s = .ok (written, rest)) := by
  cases text with
  | @empty ws hws =>
    refine ⟨ws ++ [125], rfl, .inl ⟨rfl, ?_⟩⟩
    rw [List.append_assoc, List.singleton_append, firstKey, skipBlanks_token hws (by decide)]
    rfl
  | @members ws _ tail _ ms hws hm htail =>
    cases hm with
    | @mk key x keyBytes ws₁ ws₂ bytes hkey hws₁ hws₂ hx =>
      refine ⟨ws ++ (keyBytes ++ ws₁ ++ 58 :: ws₂ ++ bytes) ++ tail, by simp, .inr
        ⟨key, ws₁ ++ 58 :: (ws₂ ++ (bytes ++ (tail ++ rest))), rfl, ?_, ?_⟩⟩
      · simp only [List.append_assoc, List.cons_append]
        exact firstKey_text hws hkey _
      · have hlen := membersText_length htail
        have hsteps : ms.length < (tail ++ rest).length + 1 := by
          rw [List.length_append]
          omega
        have hrest := objectTail_text hr htail rest hsteps
        rw [membersFrom, colon_text hws₁, ok_bind, hr.read hx hws₂ (membersText_ends htail rest)]
        simp only [ok_bind, hrest]

end Containers

/-! ## Documents -/

theorem startsNumeral_facts {b : UInt8} (h : startsNumeral b = true) :
    isBlank b = false ∧ b ≠ 93 ∧ b ≠ 110 ∧ b ≠ 116 ∧ b ≠ 102 := by
  simp only [isBlank, Bool.or_eq_false_iff, beq_eq_false_iff_ne, ne_eq]
  refine ⟨⟨⟨⟨?_, ?_⟩, ?_⟩, ?_⟩, ?_, ?_, ?_, ?_⟩ <;> rintro rfl <;> simp [startsNumeral, digit?] at h

theorem scalarText_start {x : Json} {bytes : Bytes} (text : ScalarText x bytes) :
    ∃ b tl, bytes = b :: tl ∧ isBlank b = false ∧ b ≠ 93 := by
  cases text with
  | number hn =>
    obtain ⟨b, tl, rfl, hb⟩ := numeralText_start hn
    have hfacts := startsNumeral_facts hb
    exact ⟨b, tl, rfl, hfacts.1, hfacts.2.1⟩
  | string hs =>
    cases hs
    exact ⟨34, _, rfl, by decide, by decide⟩
  | _ => exact ⟨_, _, rfl, by decide, by decide⟩

theorem valueWith_scalar (inArray inObject : Reader Json) {x : Json} {bytes ws rest : Bytes}
    (text : ScalarText x bytes) (hws : Blanks ws) (h : EndsNumeral rest) :
    valueWith inArray inObject (ws ++ (bytes ++ rest)) = .ok (x, rest) := by
  cases text with
  | number hn =>
    obtain ⟨b, tl, rfl, hb⟩ := numeralText_start hn
    obtain ⟨hblank, -, h110, h116, h102⟩ := startsNumeral_facts hb
    have hread := numeral_text hn h
    rw [List.cons_append] at hread
    rw [valueWith, List.cons_append, skipBlanks_token hws hblank]
    simp only [if_neg h110, if_neg h116, if_neg h102, if_pos hb, hread, ok_bind]
  | string hs =>
    obtain ⟨body, rfl, hstring⟩ := string_text hs rest
    rw [valueWith, List.cons_append, skipBlanks_token hws (by decide)]
    simp [startsNumeral, digit?, hstring]
  | null =>
    rw [valueWith, List.cons_append, skipBlanks_token hws (by decide)]
    rfl
  | true =>
    rw [valueWith, List.cons_append, skipBlanks_token hws (by decide)]
    rfl
  | false =>
    rw [valueWith, List.cons_append, skipBlanks_token hws (by decide)]
    rfl

theorem valueWith_array (inArray inObject : Reader Json) {ws : Bytes} (hws : Blanks ws)
    (s : Bytes) : valueWith inArray inObject (ws ++ 91 :: s) = inArray s := by
  rw [valueWith, skipBlanks_token hws (by decide)]
  simp [startsNumeral, digit?]

theorem valueWith_object (inArray inObject : Reader Json) {ws : Bytes} (hws : Blanks ws)
    (s : Bytes) : valueWith inArray inObject (ws ++ 123 :: s) = inObject s := by
  rw [valueWith, skipBlanks_token hws (by decide)]
  simp [startsNumeral, digit?]

theorem spelledNumeral_text {n : Numeral} {bytes : Bytes} (text : NumeralText n bytes) :
    spelledNumeral bytes = .ok n := by
  obtain ⟨b, tl, rfl, hb⟩ := numeralText_start text
  have hread := numeral_text text endsNumeral_nil
  rw [List.append_nil] at hread
  simp only [spelledNumeral, numeralOf, if_pos hb, hread]

theorem object_spelled (item : Reader Json) {n : Numeral} {bytes : Bytes}
    (text : SpelledText n bytes) (rest : Bytes) :
    ∃ body, bytes = 123 :: body ∧ object item (body ++ rest) = .ok (.number n, rest) := by
  cases text with
  | @mk text ws ws₁ ws₂ ws₃ keyBytes bytes hws hws₁ hws₂ hws₃ hkey htext hn =>
    refine ⟨ws ++ keyBytes ++ ws₁ ++ 58 :: ws₂ ++ bytes ++ ws₃ ++ [125], rfl, ?_⟩
    obtain ⟨body, rfl, hstring⟩ := string_text htext (ws₃ ++ 125 :: rest)
    have hspelled : spelledObject (ws₁ ++ 58 :: (ws₂ ++ 34 :: (body ++ (ws₃ ++ 125 :: rest)))) =
        .ok (n, rest) := by
      rw [spelledObject, colon_text hws₁, ok_bind, skipBlanks_token hws₂ (by decide)]
      simp only [if_true, hstring, ok_bind, spelledNumeral_text hn,
        skipBlanks_token hws₃ (by decide : isBlank 125 = false)]
    simp only [List.append_assoc, List.cons_append, List.nil_append]
    rw [object, firstKey_text hws hkey, ok_bind]
    simp only [if_true, hspelled, ok_bind]

theorem object_text {item : Reader Json} {R : Json → Bytes → Prop} (hr : Reads item R)
    {written : List (String × Json)} {bytes : Bytes} (text : ObjectText R written bytes)
    (hfirst : ¬ StartsNumber written) (rest : Bytes) :
    ∃ body, bytes = 123 :: body ∧
      object item (body ++ rest) = .ok (.object (Members.ofWritten written), rest) := by
  obtain ⟨body, rfl, h⟩ := object_members hr text rest
  refine ⟨body, rfl, ?_⟩
  rcases h with ⟨rfl, hkey⟩ | ⟨key, s, hhead, hkey, hmembers⟩
  · rw [object, hkey, ok_bind]
    rfl
  · have hne : key ≠ numberKey := fun he => hfirst (hhead.trans (congrArg some he))
    rw [object, hkey, ok_bind]
    simp only [if_neg hne, hmembers, ok_bind]

theorem reads_value (depth : Nat) : Reads (value depth) (ValueText depth) := by
  induction depth with
  | zero => exact ⟨scalarText_start, fun text hws h => valueWith_scalar _ _ text hws h⟩
  | succ depth ih =>
    refine ⟨fun {x bytes} text => ?_, fun {x bytes ws rest} text hws h => ?_⟩
    · cases text with
      | scalar hs => exact scalarText_start hs
      | array ha => cases ha <;> exact ⟨_, _, rfl, by decide, by decide⟩
      | object ho => cases ho <;> exact ⟨_, _, rfl, by decide, by decide⟩
      | spelled hs => cases hs; exact ⟨_, _, rfl, by decide, by decide⟩
    · cases text with
      | scalar hs => exact valueWith_scalar _ _ hs hws h
      | array ha =>
        obtain ⟨body, rfl, hread⟩ := array_text ih ha rest
        rw [value, List.cons_append, valueWith_array _ _ hws, hread]
        rfl
      | object ho hfirst =>
        obtain ⟨body, rfl, hread⟩ := object_text ih ho hfirst rest
        rw [value, List.cons_append, valueWith_object _ _ hws, hread]
      | spelled hs =>
        obtain ⟨body, rfl, hread⟩ := object_spelled (value depth) hs rest
        rw [value, List.cons_append, valueWith_object _ _ hws, hread]

theorem whole_text {α : Type} {reader : Reader α} {R : α → Bytes → Prop} (hr : Reads reader R)
    {x : α} {bytes : Bytes} (text : WholeText R x bytes) : whole reader bytes = .ok x := by
  cases text with
  | @mk ws bytes ws' hws hx hws' =>
    have hends : EndsNumeral ws' := by
      cases ws' with
      | nil => exact endsNumeral_nil
      | cons w ws' => exact endsNumeral_blank (hws' w (by simp)) ws'
    have hend : skipBlanks ws' = [] := by
      rw [← List.append_nil ws', skipBlanks_blanks hws']
      rfl
    rw [whole, List.append_assoc, hr.read hx hws hends]
    simp only [ok_bind, hend]
    rfl

end Scan

theorem decode_document {x : Json} {text : Text.Bytes} (h : Grammar.Document x text) :
    decode text = .ok x :=
  Scan.whole_text (Scan.reads_value Scan.maxDepth) h

end RateCard.Json
