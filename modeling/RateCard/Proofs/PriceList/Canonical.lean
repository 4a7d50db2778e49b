import RateCard.Artifact.Write
import RateCard.Proofs.Json.Indented
import RateCard.Proofs.Text.Utf8

/-!
# The layout of the artifact

What is written is the compact form of the list with layout between its tokens, and the layout is
decided by the containers that are open: so many blanks in front of each line, and no line inside an
empty container.
-/
namespace RateCard.PriceList
open RateCard.Json (Reading LineStart Opened closer? erase)
open RateCard.Text

theorem getLast_pretty (l : PriceList) : l.pretty.toList.getLast? = some ']' := by
  obtain ⟨records⟩ := l
  cases records with
  | nil => rfl
  | cons r records =>
    rw [pretty, Json.pretty, String.toList_ofList, toJson, List.map_cons, Json.prettyChars]
    exact List.getLast?_concat

theorem lineStart_pretty (l : PriceList) : LineStart 0 l.pretty.toList := by
  have h := (Json.startsInside_pretty 0 l.toJson).lineStart 0
  simpa [pretty, Json.pretty] using h

theorem byte_of_char {c : Char} (hc : 32 ≤ c.toNat ∨ c = '\n') {b : UInt8}
    (hb : b ∈ String.utf8EncodeChar c) : 32 ≤ b ∨ b = 10 := by
  by_cases hascii : c.toNat < 128
  · rw [Utf8.encodeChar_ascii hascii, List.mem_singleton] at hb
    rcases hc with hc | rfl
    · left
      rw [hb, UInt8.le_iff_toNat_le, UInt8.toNat_ofNat']
      simp
      omega
    · exact .inr hb
  · left
    have hhigh := Utf8.le_of_mem_encodeChar (by omega) hb
    rw [UInt8.le_iff_toNat_le]
    simp
    omega

/-- The written text is the compact form once its layout is erased. Its first line is not indented;
every new line stands outside of strings and is indented by two blanks for each container that is
open at its first token, without the one that this token closes. A container is closed at once or
holds something on a line of its own. The text ends with its last bracket, and holds no control
character but those new lines. -/
theorem pretty_canonical (l : PriceList) :
    Artifact.contents l = Utf8.encode l.pretty.toList ∧
    erase .outside .none l.pretty.toList = l.compact.toList ∧
    LineStart 0 l.pretty.toList ∧
    (∀ front line, l.pretty.toList = front ++ '\n' :: line →
      (Reading.start.after front).spot = .outside ∧
        LineStart (Reading.start.after front).depth line) ∧
    (∀ front c close rest, l.pretty.toList = front ++ c :: rest →
      (Reading.start.after front).spot = .outside → closer? c = some close →
      Opened close rest) ∧
    l.pretty.toList.getLast? = some ']' ∧
    ∀ b ∈ Artifact.contents l, 32 ≤ b ∨ b = 10 := by
  have hlaid : Json.Laid .start l.pretty.toList := Json.laid_pretty l.toJson
  refine ⟨rfl, Json.erase_pretty l.toJson, lineStart_pretty l, fun front line htext => ?_,
    fun front c close rest htext hspot hclose => ?_, getLast_pretty l, fun b hb => ?_⟩
  · rw [htext] at hlaid
    rcases hlaid.cut.1 with hlow | ⟨-, hline⟩
    · exact absurd hlow (by decide)
    · exact hline
  · rw [htext] at hlaid
    exact hlaid.cut.2 hspot close hclose
  · obtain ⟨c, hc, hb⟩ := List.mem_flatMap.1 hb
    obtain ⟨front, rest, htext⟩ := List.append_of_mem hc
    rw [htext] at hlaid
    exact byte_of_char (hlaid.cut.1.imp_right And.left) hb

/-- A key that looks like layout, with empty containers below it. -/
theorem pretty_canonical_nested :
    let l : PriceList := ⟨[[("a: [\n", .array [.null, .object []])], []]⟩
    let front := "[\n  \x7b\n    \"a: [\\n\": [\n      null,\n      \x7b\x7d".toList
    let line := "    ]\n  \x7d,\n  \x7b\x7d\n]".toList
    l.pretty.toList = front ++ '\n' :: line ∧
      Reading.start.after front = ⟨.outside, 3⟩ ∧ LineStart 3 line ∧
      erase .outside .none (front ++ '\n' :: line) =
        "[\x7b\"a: [\\n\":[null,\x7b\x7d]\x7d,\x7b\x7d]".toList ∧
      Opened ']' (front.tail ++ '\n' :: line) := by
  intro l front line
  have htext : l.pretty.toList = front ++ '\n' :: line := by decide +kernel
  have hreading : Reading.start.after front = ⟨.outside, 3⟩ := by decide +kernel
  have hcompact : l.compact.toList =
      "[\x7b\"a: [\\n\":[null,\x7b\x7d]\x7d,\x7b\x7d]".toList := by decide +kernel
  obtain ⟨-, herase, -, hline, hopened, -⟩ := pretty_canonical l
  have hdepth := (hline front line htext).2
  rw [hreading] at hdepth
  rw [htext, hcompact] at herase
  exact ⟨htext, hreading, hdepth, herase, hopened [] '[' ']' _ htext rfl rfl⟩

end RateCard.PriceList
