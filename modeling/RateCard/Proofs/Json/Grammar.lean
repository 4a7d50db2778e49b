import RateCard.Json.Decode

/-!
# The grammar of documents

Which bytes spell a document, said without a reader. Containers take the relation of what they hold,
so that generic documents and typed records share their rules, and a depth is spent at each bracket.
Blanks stand inside containers only; those around a whole text belong to `Document`.
-/
namespace RateCard.Json.Grammar
open RateCard.Text
open RateCard.Json.Scan (isBlank hexDigit? isLeadUnit isTrailUnit numberKey maxDepth)

def Blanks (bytes : Bytes) : Prop := ∀ b ∈ bytes, isBlank b = true

theorem blanks_nil : Blanks [] := fun _ h => absurd h List.not_mem_nil

/-! ## Numbers -/

def digitByte (d : Digit) : UInt8 := UInt8.ofNat (48 + d.val)

def digitBytes (ds : List Digit) : Bytes := ds.map digitByte

inductive FractionText : List Digit → Bytes → Prop where
  | none : FractionText [] []
  | some {ds : List Digit} : ds ≠ [] → FractionText ds (46 :: digitBytes ds)

/-- The sign of an exponent, which may be left out. -/
inductive SignText : Bool → Bytes → Prop where
  | none : SignText false []
  | plus : SignText false [43]
  | minus : SignText true [45]

inductive ExponentText : Option Exponent → Bytes → Prop where
  | none : ExponentText .none []
  | some {mark : UInt8} {negative : Bool} {sign : Bytes} {first : Digit} {more : List Digit} :
      mark = 101 ∨ mark = 69 → SignText negative sign →
      ExponentText (.some ⟨negative, first, more⟩) (mark :: sign ++ digitBytes (first :: more))

inductive NumeralText : Numeral → Bytes → Prop where
  | mk {negative : Bool} {whole : Whole} {fraction : List Digit} {exponent : Option Exponent}
      {fractionBytes exponentBytes : Bytes} :
      FractionText fraction fractionBytes → ExponentText exponent exponentBytes →
      NumeralText ⟨negative, whole, fraction, exponent⟩
        ((if negative then [45] else []) ++ digitBytes whole.digits ++ fractionBytes ++
          exponentBytes)

/-! ## Strings -/

/-- Four hexadecimal digits with the number they stand for. -/
inductive HexText : Nat → Bytes → Prop where
  | mk {a b c d : UInt8} {x y z w : Nat} :
      hexDigit? a = some x → hexDigit? b = some y → hexDigit? c = some z → hexDigit? d = some w →
      HexText (((x * 16 + y) * 16 + z) * 16 + w) [a, b, c, d]

/-- The letters that stand behind a backslash for one character. -/
def shortEscapes : List (UInt8 × Char) :=
  [(34, '"'), (92, '\\'), (47, '/'), (98, '\x08'), (102, '\x0c'), (110, '\n'), (114, '\r'),
    (116, '\t')]

inductive CharText : Char → Bytes → Prop where
  | plain {c : Char} :
      32 ≤ c.toNat → c ≠ '"' → c ≠ '\\' → CharText c (String.utf8EncodeChar c)
  | short {letter : UInt8} {c : Char} : (letter, c) ∈ shortEscapes → CharText c [92, letter]
  | unit {u : Nat} {bytes : Bytes} :
      HexText u bytes → isLeadUnit u = false → isTrailUnit u = false →
      CharText (Char.ofNat u) (92 :: 117 :: bytes)
  | pair {lead trail : Nat} {bytes bytes' : Bytes} :
      HexText lead bytes → HexText trail bytes' → isLeadUnit lead = true →
      isTrailUnit trail = true →
      CharText (Char.ofNat (0x10000 + (lead - 0xD800) * 0x400 + (trail - 0xDC00)))
        (92 :: 117 :: bytes ++ 92 :: 117 :: bytes')

inductive BodyText : List Char → Bytes → Prop where
  | nil : BodyText [] []
  | cons {c : Char} {cs : List Char} {bytes rest : Bytes} :
      CharText c bytes → BodyText cs rest → BodyText (c :: cs) (bytes ++ rest)

inductive StringText : String → Bytes → Prop where
  | mk {cs : List Char} {bytes : Bytes} :
      BodyText cs bytes → StringText (String.ofList cs) (34 :: bytes ++ [34])

/-! ## Containers -/

section Containers
variable {α : Type} (R : α → Bytes → Prop)

/-- What follows an element, up to the closing bracket. -/
inductive ItemsText : List α → Bytes → Prop where
  | close {ws : Bytes} : Blanks ws → ItemsText [] (ws ++ [93])
  | more {ws ws' bytes rest : Bytes} {x : α} {xs : List α} :
      Blanks ws → Blanks ws' → R x bytes → ItemsText xs rest →
      ItemsText (x :: xs) (ws ++ 44 :: ws' ++ bytes ++ rest)

inductive ArrayText : List α → Bytes → Prop where
  | empty {ws : Bytes} : Blanks ws → ArrayText [] (91 :: ws ++ [93])
  | items {ws bytes rest : Bytes} {x : α} {xs : List α} :
      Blanks ws → R x bytes → ItemsText R xs rest →
      ArrayText (x :: xs) (91 :: ws ++ bytes ++ rest)

inductive MemberText : String × α → Bytes → Prop where
  | mk {key : String} {x : α} {keyBytes ws ws' bytes : Bytes} :
      StringText key keyBytes → Blanks ws → Blanks ws' → R x bytes →
      MemberText (key, x) (keyBytes ++ ws ++ 58 :: ws' ++ bytes)

/-- What follows a member, up to the closing brace. -/
inductive MembersText : List (String × α) → Bytes → Prop where
  | close {ws : Bytes} : Blanks ws → MembersText [] (ws ++ [125])
  | more {ws ws' bytes rest : Bytes} {m : String × α} {ms : List (String × α)} :
      Blanks ws → Blanks ws' → MemberText R m bytes → MembersText ms rest →
      MembersText (m :: ms) (ws ++ 44 :: ws' ++ bytes ++ rest)

inductive ObjectText : List (String × α) → Bytes → Prop where
  | empty {ws : Bytes} : Blanks ws → ObjectText [] (123 :: ws ++ [125])
  | members {ws bytes rest : Bytes} {m : String × α} {ms : List (String × α)} :
      Blanks ws → MemberText R m bytes → MembersText R ms rest →
      ObjectText (m :: ms) (123 :: ws ++ bytes ++ rest)

end Containers

/-! ## Documents -/

inductive ScalarText : Json → Bytes → Prop where
  | null : ScalarText .null [110, 117, 108, 108]
  | true : ScalarText (.bool .true) [116, 114, 117, 101]
  | false : ScalarText (.bool .false) [102, 97, 108, 115, 101]
  | number {n : Numeral} {bytes : Bytes} : NumeralText n bytes → ScalarText (.number n) bytes
  | string {s : String} {bytes : Bytes} : StringText s bytes → ScalarText (.string s) bytes

/-- An object of one member, which spells a number under `numberKey`. -/
inductive SpelledText : Numeral → Bytes → Prop where
  | mk {n : Numeral} {text : String} {ws ws₁ ws₂ ws₃ keyBytes bytes : Bytes} :
      Blanks ws → Blanks ws₁ → Blanks ws₂ → Blanks ws₃ → StringText numberKey keyBytes →
      StringText text bytes → NumeralText n (Utf8.ofString text) →
      SpelledText n (123 :: ws ++ keyBytes ++ ws₁ ++ 58 :: ws₂ ++ bytes ++ ws₃ ++ [125])

/-- Whether the first key written is that of a spelled number. -/
def StartsNumber {α : Type} (written : List (String × α)) : Prop :=
  (written.head?.map Prod.fst) = some numberKey

/-- A document whose elements and member values are spelled as `R` says. -/
inductive NodeText (R : Json → Bytes → Prop) : Json → Bytes → Prop where
  | scalar {x : Json} {bytes : Bytes} : ScalarText x bytes → NodeText R x bytes
  | array {items : List Json} {bytes : Bytes} :
      ArrayText R items bytes → NodeText R (.array items) bytes
  | object {written : List (String × Json)} {bytes : Bytes} :
      ObjectText R written bytes → ¬ StartsNumber written →
      NodeText R (.object (Members.ofWritten written)) bytes
  | spelled {n : Numeral} {bytes : Bytes} : SpelledText n bytes → NodeText R (.number n) bytes

/-- The bytes of a document with at most `depth` containers inside one another. -/
def ValueText : Nat → Json → Bytes → Prop
  | 0 => ScalarText
  | depth + 1 => NodeText (ValueText depth)

/-- A whole text, around which only blanks may stand. -/
inductive WholeText {α : Type} (R : α → Bytes → Prop) : α → Bytes → Prop where
  | mk {x : α} {ws bytes ws' : Bytes} :
      Blanks ws → R x bytes → Blanks ws' → WholeText R x (ws ++ bytes ++ ws')

/-- The texts of a document. -/
def Document : Json → Bytes → Prop := WholeText (ValueText maxDepth)

end RateCard.Json.Grammar
