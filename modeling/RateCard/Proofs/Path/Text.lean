import RateCard.Proofs.Path.Spelling

/-!
# Texts of paths

A path that is read from a text has segments without slashes, and is read again from its own text.
One more name behind it keeps this, and stands behind the text too.
-/
namespace RateCard.Path

/-! ## Pieces of a text -/

theorem splitSlashes_ne_nil (text : List Char) : splitSlashes text ≠ [] := by
  rw [splitSlashes_eq_splitOn]
  exact List.splitOn_ne_nil '/' text

theorem splitSlashes_cons {c : Char} (hc : c ≠ '/') (text : List Char) :
    ∃ piece pieces, splitSlashes text = piece :: pieces ∧
      splitSlashes (c :: text) = (c :: piece) :: pieces := by
  obtain ⟨piece, pieces, hpieces⟩ := List.exists_cons_of_ne_nil (splitSlashes_ne_nil text)
  exact ⟨piece, pieces, hpieces, by rw [splitSlashes, if_neg hc, hpieces]⟩

theorem slash_notMem {text piece : List Char} (h : piece ∈ splitSlashes text) : '/' ∉ piece := by
  induction text generalizing piece with
  | nil =>
    rw [List.mem_singleton.1 h]
    exact List.not_mem_nil
  | cons c text ih =>
    by_cases hc : c = '/'
    · rw [splitSlashes, if_pos hc] at h
      rcases List.mem_cons.1 h with rfl | hmem
      · exact List.not_mem_nil
      · exact ih hmem
    · obtain ⟨first, pieces, hpieces, hcons⟩ := splitSlashes_cons hc text
      rw [hpieces] at ih
      rw [hcons] at h
      rcases List.mem_cons.1 h with rfl | hmem
      · exact List.not_mem_cons_of_ne_of_not_mem (Ne.symm hc) (ih List.mem_cons_self)
      · exact ih (List.mem_cons_of_mem first hmem)

/-- The last piece is empty behind a slash, and in the empty text. -/
theorem getLast_splitSlashes (text : List Char) :
    (splitSlashes text).getLast? = some [] ↔ text = [] ∨ ['/'] <:+ text := by
  constructor
  · intro h
    obtain ⟨init, last, hsplit, hlast⟩ := splitSlashes_last text
    rw [hsplit, List.getLast?_concat, Option.some.injEq] at h
    rw [h] at hlast
    exact hlast.imp And.right And.right
  · rintro (rfl | ⟨init, rfl⟩)
    · rfl
    · rw [splitSlashes_eq_splitOn, List.splitOn_append_cons_self, List.splitOn_nil,
        List.getLast?_concat]

/-! ## Paths that are read -/

/-- A path as it is read from a text. Without a root, it starts with an empty segment only if that is
all of it. -/
structure IsRead (p : Path) : Prop where
  ne_nil : p.segments ≠ []
  slash_notMem : ∀ s ∈ p.segments, '/' ∉ s.toList
  start : p.rooted = false → p.segments.head? = some "" → p.segments = [""]

theorem isRead_ofString (text : String) : (ofString text).IsRead := by
  have hslash (chars : List Char) (s : String)
      (hs : s ∈ (splitSlashes chars).map String.ofList) : '/' ∉ s.toList := by
    obtain ⟨piece, hpiece, rfl⟩ := List.mem_map.1 hs
    rw [String.toList_ofList]
    exact Path.slash_notMem hpiece
  unfold ofString
  split
  next rest htext =>
    exact ⟨by simp [splitSlashes_ne_nil], hslash rest, fun hrooted => absurd hrooted (by simp)⟩
  next hstart =>
    refine ⟨by simp [splitSlashes_ne_nil], hslash text.toList, fun _ hhead => ?_⟩
    generalize text.toList = chars at hstart hhead ⊢
    cases chars with
    | nil => rfl
    | cons c chars =>
      have hc : c ≠ '/' := by
        rintro rfl
        exact hstart chars rfl
      obtain ⟨piece, pieces, -, hcons⟩ := splitSlashes_cons hc chars
      simp [hcons] at hhead

theorem splitSlashes_intercalate {segments : List String} (hne : segments ≠ [])
    (h : ∀ s ∈ segments, '/' ∉ s.toList) :
    (splitSlashes ("/".intercalate segments).toList).map String.ofList = segments := by
  have hsplit : splitSlashes ("/".intercalate segments).toList = segments.map String.toList := by
    rw [splitSlashes_eq_splitOn, String.toList_intercalate]
    exact List.splitOn_intercalate '/' (by simpa using h) (by simpa using hne)
  rw [hsplit, List.map_map]
  simp

/-- A path that was read is read again from its own text. -/
theorem IsRead.ofString_text {p : Path} (h : p.IsRead) : ofString p.text = p := by
  obtain ⟨rooted, segments⟩ := p
  have hsplit : (splitSlashes ("/".intercalate segments).toList).map String.ofList = segments :=
    splitSlashes_intercalate h.ne_nil h.slash_notMem
  cases rooted with
  | true =>
    have htext : (Path.text ⟨true, segments⟩).toList =
        '/' :: ("/".intercalate segments).toList := by
      rw [text, if_pos rfl, String.toList_append]
      rfl
    rw [ofString, htext]
    exact congrArg (Path.mk true) hsplit
  | false =>
    have htext : Path.text ⟨false, segments⟩ = "/".intercalate segments := String.empty_append
    rw [htext, ofString]
    split
    next rest hrest =>
      -- a slash at the front would stand behind an empty first segment
      rw [hrest, splitSlashes, if_pos rfl] at hsplit
      have hall : segments = [""] := h.start rfl (by rw [← hsplit]; rfl)
      rw [hall] at hrest
      cases hrest
    · exact congrArg (Path.mk false) hsplit

/-! ## One more name -/

theorem push_cases (p : Path) (name : String) :
    (∃ init, p.segments = init ++ [""] ∧ p.push name = ⟨p.rooted, init ++ [name]⟩) ∨
      p.segments.getLast? ≠ some "" ∧ p.push name = ⟨p.rooted, p.segments ++ [name]⟩ := by
  by_cases hlast : p.segments.getLast? = some ""
  · obtain ⟨init, hinit⟩ := List.getLast?_eq_some_iff.1 hlast
    refine .inl ⟨init, hinit, ?_⟩
    simp [push, hinit]
  · exact .inr ⟨hlast, push_of_getLast_ne hlast name⟩

section Read
variable {p : Path} {name : String} (h : p.IsRead) (hname : name ≠ "") (hslash : '/' ∉ name.toList)
include h hname hslash

theorem IsRead.concat {before : List String} (hbefore : before <+: p.segments)
    (hstart : p.segments = [""] → before = []) :
    (⟨p.rooted, before ++ [name]⟩ : Path).IsRead := by
  refine ⟨List.concat_ne_nil _ _, fun s hs => ?_, fun hrooted hhead => ?_⟩
  · rcases List.mem_append.1 hs with hs | hs
    · exact h.slash_notMem s (hbefore.subset hs)
    · rw [List.mem_singleton.1 hs]
      exact hslash
  · exfalso
    cases before with
    | nil => exact hname (Option.some.inj hhead)
    | cons s before =>
      obtain ⟨behind, hbehind⟩ := hbefore
      have hfirst : p.segments.head? = some "" := by
        rw [← hbehind]
        exact hhead
      exact absurd (hstart (h.start hrooted hfirst)) (List.cons_ne_nil _ _)

/-- A name may stand behind all that a path that was read starts with. -/
theorem IsRead.push {q : Path} (hrooted : q.rooted = p.rooted)
    (hinitial : q.segments <+: p.segments) : (q.push name).IsRead := by
  rcases push_cases q name with ⟨init, hinit, hpush⟩ | ⟨hlast, hpush⟩ <;> rw [hpush, hrooted]
  · refine h.concat hname hslash (List.IsPrefix.trans ⟨[""], hinit.symm⟩ hinitial) fun hall => ?_
    rw [hinit, hall, List.prefix_cons_iff] at hinitial
    simpa using hinitial
  · refine h.concat hname hslash hinitial fun hall => ?_
    rw [hall, List.prefix_cons_iff] at hinitial
    rcases hinitial with hnil | ⟨rest, hrest, hnil⟩
    · exact hnil
    · rw [List.prefix_nil.1 hnil] at hrest
      exact absurd (by rw [hrest]; rfl) hlast

end Read

theorem text_push {p : Path} (h : p.segments ≠ []) (name : String) :
    (p.push name).text =
      p.text ++ (if p.segments.getLast? = some "" then "" else "/") ++ name := by
  rcases push_cases p name with ⟨init, hinit, hpush⟩ | ⟨hlast, hpush⟩
  · rw [hpush, if_pos (by simp [hinit]), text, text, hinit]
    by_cases hnil : init = []
    · simp [hnil]
    · simp [String.intercalate_append_of_ne_nil hnil, String.append_assoc]
  · rw [hpush, if_neg hlast, text, text, String.intercalate_append_of_ne_nil h (by simp)]
    simp [String.append_assoc]

/-- The last segment is empty behind a slash, and in the empty text. -/
theorem getLast_ofString (text : String) :
    (ofString text).segments.getLast? = some "" ↔ text = "" ∨ ['/'] <:+ text.toList := by
  have hlast (chars : List Char) : ((splitSlashes chars).map String.ofList).getLast? = some "" ↔
      chars = [] ∨ ['/'] <:+ chars := by
    rw [← getLast_splitSlashes, List.getLast?_map, Option.map_eq_some_iff]
    simp
  unfold ofString
  split
  next rest htext =>
    have hne : text ≠ "" := by
      rintro rfl
      cases htext
    rw [hlast, htext, List.suffix_cons_iff]
    simp [hne, eq_comm]
  · rw [hlast, String.toList_eq_nil_iff]

end RateCard.Path
