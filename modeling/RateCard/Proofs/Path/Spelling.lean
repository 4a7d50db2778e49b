import RateCard.Proofs.Path.Staging

/-!
# Spellings of paths

Paths with the same components differ in segments that name nothing. Unless such a segment ends one
of them, they are spellings of one path: so are their parents then, and their staging paths.
-/
namespace RateCard.Path

/-! ## Segments that name something -/

def naming (segments : List String) : List String := segments.filter fun s => !isVoid s

@[simp] theorem naming_append (a b : List String) : naming (a ++ b) = naming a ++ naming b :=
  List.filter_append ..

theorem naming_of_void {segments : List String} (h : ∀ s ∈ segments, isVoid s = true) :
    naming segments = [] := by
  rw [naming, List.filter_eq_nil_iff]
  intro s hs
  simp [h s hs]

theorem naming_cons {s : String} (h : isVoid s = false) (segments : List String) :
    naming (s :: segments) = s :: naming segments := by
  simp [naming, h]

theorem naming_trimVoid (segments : List String) :
    naming (trimVoid segments) = naming segments := by
  obtain ⟨voids, hvoids, hall⟩ := trimVoid_spec segments
  conv_rhs => rw [hvoids, naming_append, naming_of_void hall, List.append_nil]

theorem filterMap_naming (segments : List String) :
    (naming segments).filterMap component? = segments.filterMap component? := by
  induction segments with
  | nil => rfl
  | cons s segments ih =>
    cases hs : isVoid s with
    | false => rw [naming_cons hs, List.filterMap_cons, List.filterMap_cons, ih]
    | true =>
      have hnone : component? s = none := by rw [component?, if_pos hs]
      rw [List.filterMap_cons, hnone, ← ih, naming, List.filter_cons_of_neg (by simp [hs])]
      rfl

/-- What a component is written as behind the start of a path. -/
def segment? : Component → Option String
  | .root | .here => none
  | .up => some ".."
  | .name text => some text

theorem segment_component {s : String} (h : isVoid s = false) :
    ∃ c, component? s = some c ∧ segment? c = some s := by
  rw [component?, if_neg (by simp [h])]
  by_cases hup : s = ".."
  · exact ⟨.up, if_pos hup, by rw [hup]; rfl⟩
  · exact ⟨.name s, if_neg hup, rfl⟩

theorem filterMap_segment (segments : List String) :
    (segments.filterMap component?).filterMap segment? = naming segments := by
  induction segments with
  | nil => rfl
  | cons s segments ih =>
    cases hs : isVoid s with
    | false =>
      obtain ⟨c, hc, hsegment⟩ := segment_component hs
      rw [naming_cons hs, List.filterMap_cons, hc, ← ih]
      simp only [List.filterMap_cons, hsegment]
    | true =>
      have hnone : component? s = none := by rw [component?, if_pos hs]
      rw [List.filterMap_cons, hnone, naming, List.filter_cons_of_neg (by simp [hs])]
      exact ih

/-! ## Equal components -/

theorem splitHere_eq_iff {p : Path} {here body : List String} : p.splitHere = (here, body) ↔
    p.segments = here ++ body ∧ (here = ["."] ∧ p.rooted = false ∨
      here = [] ∧ (p.rooted = false → body.head? ≠ some ".")) := by
  obtain ⟨rooted, segments⟩ := p
  unfold splitHere
  split
  next rest hrooted hsegments =>
    dsimp only at hrooted hsegments
    subst hrooted hsegments
    rw [Prod.mk.injEq]
    constructor
    · rintro ⟨rfl, rfl⟩
      exact ⟨rfl, .inl ⟨rfl, rfl⟩⟩
    · rintro ⟨hbody, ⟨rfl, -⟩ | ⟨rfl, hhead⟩⟩
      · exact ⟨rfl, (List.cons.inj hbody).2⟩
      · exact absurd (by rw [← hbody.trans (List.nil_append _)]; rfl) (hhead rfl)
  next hne =>
    rw [Prod.mk.injEq]
    constructor
    · rintro ⟨rfl, rfl⟩
      refine ⟨rfl, .inr ⟨rfl, fun hrooted hhead => ?_⟩⟩
      obtain ⟨rest, hrest⟩ := List.head?_eq_some_iff.1 hhead
      exact hne rest hrooted hrest
    · rintro ⟨hbody, ⟨rfl, hrooted⟩ | ⟨rfl, -⟩⟩
      · exact absurd hbody (hne body hrooted)
      · exact ⟨rfl, hbody⟩

theorem here_cases (p : Path) : p.splitHere.1 = [] ∨ p.splitHere.1 = ["."] := by
  unfold splitHere
  split
  · exact .inr rfl
  · exact .inl rfl

theorem isSome_segment {p : Path} {c : Component}
    (h : c ∈ p.splitHere.2.filterMap component?) : (segment? c).isSome := by
  obtain ⟨s, -, hs⟩ := List.mem_filterMap.1 h
  have hvoid : isVoid s = false := by
    by_contra hvoid
    rw [component?, if_pos (by simpa using hvoid)] at hs
    cases hs
  obtain ⟨c', hc', hsegment⟩ := segment_component hvoid
  cases hs.symm.trans hc'
  rw [hsegment]
  rfl

theorem root_mem_components {p : Path} : .root ∈ p.components ↔ p.rooted = true := by
  have hbody : Component.root ∉ p.splitHere.2.filterMap component? := fun h =>
    absurd (isSome_segment h) (by decide)
  simp [components, hbody]

theorem here_mem_components {p : Path} : .here ∈ p.components ↔ p.splitHere.1 ≠ [] := by
  have hbody : Component.here ∉ p.splitHere.2.filterMap component? := fun h =>
    absurd (isSome_segment h) (by decide)
  have hroot : Component.here ∉ if p.rooted = true then [Component.root] else [] := by
    split <;> decide
  rw [components]
  simp only [List.mem_append, hbody, hroot, or_false, false_or, List.mem_map, and_true]
  exact List.isEmpty_eq_false_iff_exists_mem.symm.trans List.isEmpty_eq_false_iff

theorem filterMap_components (p : Path) :
    p.components.filterMap segment? = naming p.splitHere.2 := by
  have hroot : (if p.rooted = true then [Component.root] else []).filterMap segment? = [] := by
    split <;> rfl
  have hhere : (p.splitHere.1.map fun _ => Component.here).filterMap segment? = [] := by
    rw [List.filterMap_map, List.filterMap_eq_nil_iff]
    exact fun _ _ => rfl
  rw [components]
  simp only [List.filterMap_append, hroot, hhere, List.nil_append, filterMap_segment]

/-- Paths are the same if they start alike and name the same behind that. -/
theorem same_iff {p q : Path} : p.same q = true ↔ p.rooted = q.rooted ∧
    p.splitHere.1 = q.splitHere.1 ∧ naming p.splitHere.2 = naming q.splitHere.2 := by
  rw [same, beq_iff_eq]
  constructor
  · intro h
    refine ⟨?_, ?_, ?_⟩
    · rw [Bool.eq_iff_iff, ← root_mem_components, ← root_mem_components, h]
    · have hnil : p.splitHere.1 ≠ [] ↔ q.splitHere.1 ≠ [] := by
        rw [← here_mem_components, ← here_mem_components, h]
      rcases here_cases p with hp | hp <;> rcases here_cases q with hq | hq <;>
        simp_all
    · rw [← filterMap_components, ← filterMap_components, h]
  · rintro ⟨hrooted, hhere, hnaming⟩
    simp only [components, hrooted, hhere]
    rw [← filterMap_naming, hnaming, filterMap_naming]

/-! ## Spellings of one path -/

/-- The last segment, if there is one, names something. -/
def Trimmed (segments : List String) : Prop := ∀ s, segments.getLast? = some s → isVoid s = false

theorem trimmed_concat {segments : List String} {s : String} :
    Trimmed (segments ++ [s]) ↔ isVoid s = false := by
  simp [Trimmed]

/-- Paths with the same components, none of which has a segment at its end that names nothing. -/
structure Alike (p q : Path) : Prop where
  same : p.same q = true
  trimmed : p = q ∨ Trimmed p.splitHere.2 ∧ Trimmed q.splitHere.2

theorem Alike.refl (p : Path) : Alike p p := ⟨beq_self_eq_true _, .inl rfl⟩

theorem alike_of_split {p q : Path} {here body body' : List String} (hrooted : p.rooted = q.rooted)
    (hp : p.splitHere = (here, body)) (hq : q.splitHere = (here, body'))
    (hnaming : naming body = naming body') (hbody : Trimmed body) (hbody' : Trimmed body') :
    Alike p q := by
  refine ⟨same_iff.2 ⟨hrooted, ?_, ?_⟩, .inr ?_⟩
  · rw [hp, hq]
  · rw [hp, hq]
    exact hnaming
  · rw [hp, hq]
    exact ⟨hbody, hbody'⟩

/-- Spellings of one path have the same last segment and name the same in front of it, unless they
are equal. -/
theorem Alike.split {p q : Path} (h : Alike p q) : p = q ∨ ∃ here before before' last,
    p.rooted = q.rooted ∧ p.splitHere = (here, before ++ [last]) ∧
      q.splitHere = (here, before' ++ [last]) ∧ isVoid last = false ∧
      naming before = naming before' := by
  obtain ⟨hsame, heq | ⟨hp, hq⟩⟩ := h
  · exact .inl heq
  obtain ⟨hrooted, hhere, hnaming⟩ := same_iff.1 hsame
  have hlast {before : List String} {last : String} (hvoid : isVoid last = false) :
      naming (before ++ [last]) = naming before ++ [last] := by
    rw [naming_append, naming_cons hvoid]
    rfl
  rcases List.eq_nil_or_concat p.splitHere.2 with hbody | ⟨before, last, hbody⟩ <;>
    rcases List.eq_nil_or_concat q.splitHere.2 with hbody' | ⟨before', last', hbody'⟩
  · left
    have hsegments : p.segments = q.segments := by
      rw [← splitHere_append p, ← splitHere_append q, hbody, hbody', hhere]
    exact congrArg₂ Path.mk hrooted hsegments
  · rw [List.concat_eq_append] at hbody'
    rw [hbody', trimmed_concat] at hq
    rw [hbody, hbody', hlast hq] at hnaming
    exact absurd hnaming.symm (List.concat_ne_nil _ _)
  · rw [List.concat_eq_append] at hbody
    rw [hbody, trimmed_concat] at hp
    rw [hbody, hbody', hlast hp] at hnaming
    exact absurd hnaming (List.concat_ne_nil _ _)
  · rw [List.concat_eq_append] at hbody hbody'
    rw [hbody, trimmed_concat] at hp
    rw [hbody', trimmed_concat] at hq
    rw [hbody, hbody', hlast hp, hlast hq] at hnaming
    obtain ⟨hbefore, hlasts⟩ := List.append_inj' hnaming rfl
    obtain rfl := List.singleton_inj.1 hlasts
    exact .inr ⟨p.splitHere.1, before, before', last, hrooted, Prod.ext rfl hbody,
      Prod.ext hhere.symm hbody', hp, hbefore⟩

/-! ## Parents and staging paths -/

/-- Another body behind the same start. -/
theorem splitHere_again {p : Path} {here body body' : List String} (h : p.splitHere = (here, body))
    (hbody : body'.head? = some "." → body.head? = some ".") :
    (⟨p.rooted, here ++ body'⟩ : Path).splitHere = (here, body') := by
  obtain ⟨-, hhere⟩ := splitHere_eq_iff.1 h
  refine splitHere_eq_iff.2 ⟨rfl, hhere.imp_right fun ⟨hnil, hhead⟩ => ⟨hnil, ?_⟩⟩
  exact fun hrooted h => hhead hrooted (hbody h)

theorem head_trimVoid {segments : List String} {s : String}
    (h : (trimVoid segments).head? = some s) : segments.head? = some s := by
  obtain ⟨voids, hvoids, -⟩ := trimVoid_spec segments
  rw [hvoids, List.head?_append, h, Option.some_or]

theorem head_concat {segments : List String} {s last : String} (hlast : last ≠ s)
    (h : (segments ++ [last]).head? = some s) : segments.head? = some s := by
  cases segments with
  | nil => exact absurd (Option.some.inj h) hlast
  | cons => exact h

section Last
variable {p : Path} {here before : List String} {last : String}
  (h : p.splitHere = (here, before ++ [last])) (hlast : isVoid last = false)
include h

theorem splitHere_parent :
    (⟨p.rooted, here ++ trimVoid before⟩ : Path).splitHere = (here, trimVoid before) :=
  splitHere_again h fun hhead => by rw [List.head?_append, head_trimVoid hhead, Option.some_or]

include hlast

theorem parent_of_last : p.parent? = some ⟨p.rooted, here ++ trimVoid before⟩ := by
  have htrim : trimVoid (before ++ [last]) = before ++ [last] := by
    simp [trimVoid, hlast]
  exact parent_of_trim h htrim

/-- The staging path lies beside a name, and behind what is no name. -/
theorem splitHere_staging : p.staging.rooted = p.rooted ∧ p.staging.splitHere = (here,
    if last = ".." then before ++ [last] ++ ["pricing.tmp"]
    else trimVoid before ++ [last ++ ".tmp"]) := by
  obtain ⟨hsegments, -⟩ := splitHere_eq_iff.1 h
  have htmp (n : String) : n ++ ".tmp" ≠ "." := ne_here_of_isName (isName_tmp n)
  split
  next hup =>
    have hfile : p.fileName? = none := by
      simp [fileName?, components, h, hup, component?, isVoid]
    have hpush : p.push "pricing.tmp" = ⟨p.rooted, p.segments ++ ["pricing.tmp"]⟩ :=
      push_of_getLast_ne (by simp [hsegments, hup]) _
    rw [staging, withFileName, hfile, Option.getD_none, show "pricing" ++ ".tmp" = "pricing.tmp"
      from rfl, hpush, hsegments, List.append_assoc]
    exact ⟨rfl, splitHere_again h (head_concat (by decide))⟩
  next hup =>
    rw [← List.append_assoc] at hsegments
    obtain ⟨init, hparent, hstaging, -⟩ := staging_of_name hsegments ⟨hlast, hup⟩ (by simp)
    rw [parent_of_last h hlast, Option.some.injEq, Path.mk.injEq] at hparent
    rw [hstaging, ← hparent.2, List.append_assoc]
    refine ⟨rfl, splitHere_again h fun hhead => ?_⟩
    rw [List.head?_append, head_trimVoid (head_concat (htmp last) hhead), Option.some_or]

end Last

theorem trimmed_trimVoid (segments : List String) : Trimmed (trimVoid segments) :=
  fun _ => isVoid_of_getLast_trimVoid

theorem Alike.parent {p q : Path} (h : Alike p q) : p.parent? = none ∧ q.parent? = none ∨
    ∃ parent parent', p.parent? = some parent ∧ q.parent? = some parent' ∧
      Alike parent parent' := by
  rcases h.split with rfl | ⟨here, before, before', last, hrooted, hp, hq, hlast, hnaming⟩
  · cases p.parent? with
    | none => exact .inl ⟨rfl, rfl⟩
    | some parent => exact .inr ⟨parent, parent, rfl, rfl, .refl parent⟩
  · refine .inr ⟨_, _, parent_of_last hp hlast, parent_of_last hq hlast, alike_of_split hrooted
      (splitHere_parent hp) (splitHere_parent hq) ?_ (trimmed_trimVoid _) (trimmed_trimVoid _)⟩
    rw [naming_trimVoid, naming_trimVoid, hnaming]

theorem Alike.staging {p q : Path} (h : Alike p q) : Alike p.staging q.staging := by
  rcases h.split with rfl | ⟨here, before, before', last, hrooted, hp, hq, hlast, hnaming⟩
  · exact .refl _
  obtain ⟨hrooted', hp⟩ := splitHere_staging hp hlast
  obtain ⟨hrooted'', hq⟩ := splitHere_staging hq hlast
  have htmp := (isName_tmp last).1
  refine alike_of_split (hrooted'.trans (hrooted.trans hrooted''.symm)) hp hq ?_ ?_ ?_ <;> split
  · rw [naming_append, naming_append, naming_append, naming_append, hnaming]
  · rw [naming_append, naming_append, naming_trimVoid, naming_trimVoid, hnaming]
  · exact trimmed_concat.2 (by decide)
  · exact trimmed_concat.2 htmp
  · exact trimmed_concat.2 (by decide)
  · exact trimmed_concat.2 htmp

/-! ## Texts of paths -/

theorem hasNul_naming (p : Path) :
    p.hasNul = (naming p.splitHere.2).any fun s => s.toList.contains '\x00' := by
  have hvoid (s : String) (hs : isVoid s = true) : s.toList.contains '\x00' = false := by
    rw [isVoid, Bool.or_eq_true, beq_iff_eq, beq_iff_eq] at hs
    rcases hs with rfl | rfl <;> decide
  have hhere : (p.splitHere.1.any fun s => s.toList.contains '\x00') = false := by
    rcases here_cases p with h | h <;> rw [h] <;> decide
  have hbody (segments : List String) : (segments.any fun s => s.toList.contains '\x00') =
      (naming segments).any fun s => s.toList.contains '\x00' := by
    induction segments with
    | nil => rfl
    | cons s segments ih =>
      cases hs : isVoid s with
      | false => rw [naming_cons hs, List.any_cons, List.any_cons, ih]
      | true =>
        rw [List.any_cons, hvoid s hs, Bool.false_or, ih, naming, naming,
          List.filter_cons_of_neg (by simp [hs])]
  rw [hasNul, ← splitHere_append p, List.any_append, hhere, Bool.false_or, hbody]

theorem Alike.hasNul {p q : Path} (h : Alike p q) : p.hasNul = q.hasNul := by
  rw [hasNul_naming, hasNul_naming, (same_iff.1 h.same).2.2]

theorem size_text (p : Path) : p.text.utf8ByteSize =
    (if p.rooted then 1 else 0) + ("/".intercalate p.segments).utf8ByteSize := by
  rw [text, String.utf8ByteSize_append]
  split <;> rfl

theorem size_text_of_prefix {p q : Path} (hrooted : p.rooted = q.rooted)
    (h : p.segments <+: q.segments) : p.text.utf8ByteSize ≤ q.text.utf8ByteSize := by
  obtain ⟨more, hmore⟩ := h
  rw [size_text, size_text, hrooted, ← hmore, Nat.add_le_add_iff_left]
  by_cases hp : p.segments = []
  · simp [hp]
  by_cases hmore : more = []
  · simp [hmore]
  rw [String.intercalate_append_of_ne_nil hp hmore, String.utf8ByteSize_append,
    String.utf8ByteSize_append]
  omega

theorem size_last_le {p : Path} {before : List String} {last : String}
    (h : p.segments = before ++ [last]) : last.utf8ByteSize ≤ p.text.utf8ByteSize := by
  rw [size_text, h]
  by_cases hbefore : before = []
  · simp [hbefore]
  · rw [String.intercalate_append_of_ne_nil hbefore (by simp), String.utf8ByteSize_append]
    simp
    omega

/-! ## Reading paths -/

/-- The last piece of a text is all of it or stands behind its last slash. -/
theorem splitSlashes_last (text : List Char) : ∃ init last, splitSlashes text = init ++ [last] ∧
    (init = [] ∧ text = last ∨ init ≠ [] ∧ '/' :: last <:+ text) := by
  induction text with
  | nil => exact ⟨[], [], rfl, .inl ⟨rfl, rfl⟩⟩
  | cons c text ih =>
    obtain ⟨init, last, hsplit, hlast⟩ := ih
    rw [splitSlashes, hsplit]
    split
    next hc =>
      refine ⟨[] :: init, last, rfl, .inr ⟨List.cons_ne_nil _ _, ?_⟩⟩
      rcases hlast with ⟨-, rfl⟩ | ⟨-, hsuffix⟩
      · rw [hc]
      · exact hsuffix.trans (List.suffix_cons c text)
    next hc =>
      cases init with
      | nil =>
        obtain ⟨-, rfl⟩ := hlast.resolve_right fun h => h.1 rfl
        exact ⟨[], c :: text, rfl, .inl ⟨rfl, rfl⟩⟩
      | cons s init =>
        obtain ⟨-, hsuffix⟩ := hlast.resolve_left fun h => List.cons_ne_nil _ _ h.1
        exact ⟨(c :: s) :: init, last, rfl,
          .inr ⟨List.cons_ne_nil _ _, hsuffix.trans (List.suffix_cons c text)⟩⟩

theorem splitSlashes_eq_splitOn (text : List Char) : splitSlashes text = text.splitOn '/' := by
  induction text with
  | nil => rfl
  | cons c text ih =>
    rw [splitSlashes, List.splitOn_cons_eq_if_modifyHead, ih]
    by_cases hc : c = '/'
    · simp [hc]
    · obtain ⟨piece, pieces, hpieces⟩ := List.exists_cons_of_ne_nil (List.splitOn_ne_nil '/' text)
      simp [hc, hpieces]

theorem intercalate_splitSlashes (text : List Char) :
    "/".intercalate ((splitSlashes text).map String.ofList) = String.ofList text := by
  have hchars : (splitSlashes text).map (String.toList ∘ String.ofList) = splitSlashes text := by
    simp [Function.comp_def]
  rw [← String.toList_inj, String.toList_intercalate, List.map_map, hchars,
    splitSlashes_eq_splitOn]
  exact (List.intercalate_splitOn '/').trans String.toList_ofList.symm

/-- A path keeps its text as it is written. -/
theorem text_ofString (text : String) : (ofString text).text = text := by
  unfold ofString
  split
  next rest htext =>
    have hslash : String.ofList ('/' :: rest) = text := by rw [← htext, String.ofList_toList]
    rw [Path.text, intercalate_splitSlashes, ← hslash, String.ofList_cons]
    rfl
  · rw [Path.text, intercalate_splitSlashes, String.ofList_toList]
    exact String.empty_append

/-- A text with neither a slash nor a `.` of its own at its end. -/
def EndsNamed (text : String) : Prop :=
  ¬ ['/'] <:+ text.toList ∧ ¬ ['/', '.'] <:+ text.toList

instance (text : String) : Decidable (EndsNamed text) := inferInstanceAs (Decidable (_ ∧ _))

/-- A path that is read from such a text ends with a segment that names something, unless it has no
other segment. -/
theorem ofString_of_endsNamed {text : String} (h : EndsNamed text) :
    (∃ init last, (ofString text).segments = init ++ [last] ∧ isVoid last = false) ∨
      ofString text ∈ [⟨false, [""]⟩, ⟨false, ["."]⟩] := by
  have hvoid {last : List Char} (hsuffix : '/' :: last <:+ text.toList) :
      isVoid (String.ofList last) = false := by
    have hne (chars : List Char) (hchars : ¬ '/' :: chars <:+ text.toList) :
        String.ofList last ≠ String.ofList chars := by
      intro heq
      rw [String.ofList_inj.1 heq] at hsuffix
      exact hchars hsuffix
    rw [isVoid, Bool.or_eq_false_iff, beq_eq_false_iff_ne, beq_eq_false_iff_ne]
    exact ⟨hne [] h.1, hne ['.'] h.2⟩
  unfold ofString
  split
  next rest htext =>
    obtain ⟨init, last, hsplit, hlast⟩ := splitSlashes_last rest
    refine .inl ⟨init.map String.ofList, String.ofList last, by simp [hsplit], hvoid ?_⟩
    rw [htext]
    rcases hlast with ⟨-, rfl⟩ | ⟨-, hsuffix⟩
    · exact List.suffix_rfl
    · exact hsuffix.trans (List.suffix_cons _ rest)
  · obtain ⟨init, last, hsplit, hlast⟩ := splitSlashes_last text.toList
    by_cases hnamed : isVoid (String.ofList last) = false
    · exact .inl ⟨init.map String.ofList, String.ofList last, by simp [hsplit], hnamed⟩
    right
    rcases hlast with ⟨rfl, -⟩ | ⟨-, hsuffix⟩
    · rw [Bool.not_eq_false, isVoid, Bool.or_eq_true, beq_iff_eq, beq_iff_eq] at hnamed
      rw [hsplit]
      rcases hnamed with hlast | hlast <;> simp [hlast]
    · exact absurd (hvoid hsuffix) hnamed

theorem trimmed_of_last {p : Path} {init : List String} {last : String}
    (h : p.segments = init ++ [last]) (hlast : isVoid last = false) :
    Trimmed p.splitHere.2 ∧ naming p.splitHere.2 ≠ [] := by
  have hbody := splitHere_append p
  rw [h] at hbody
  rcases List.eq_nil_or_concat p.splitHere.2 with hnil | ⟨before, last', hconcat⟩
  · rw [hnil, List.append_nil] at hbody
    rcases here_cases p with hhere | hhere
    · rw [hhere] at hbody
      exact absurd hbody.symm (List.concat_ne_nil _ _)
    · rw [hhere] at hbody
      obtain ⟨-, hdot⟩ := List.append_inj' (hbody.symm.trans (List.nil_append _).symm) rfl
      rw [List.singleton_inj.1 hdot] at hlast
      cases hlast
  · rw [List.concat_eq_append] at hconcat
    rw [hconcat, ← List.append_assoc] at hbody
    obtain rfl := List.singleton_inj.1 (List.append_inj' hbody rfl).2
    rw [hconcat, naming_append, naming_cons hlast]
    exact ⟨trimmed_concat.2 hlast, List.concat_ne_nil _ _⟩

/-- Texts that spell the same components give spellings of one path. -/
theorem alike_ofString {x y : String} (hsame : (ofString x).same (ofString y) = true)
    (hx : EndsNamed x) (hy : EndsNamed y) : Alike (ofString x) (ofString y) := by
  have hnaming := (same_iff.1 hsame).2.2
  have hnone {p : Path} (h : p ∈ ([⟨false, [""]⟩, ⟨false, ["."]⟩] : List Path)) :
      naming p.splitHere.2 = [] := by
    rcases List.mem_pair.1 h with rfl | rfl <;> rfl
  refine ⟨hsame, ?_⟩
  rcases ofString_of_endsNamed hx with ⟨init, last, hp, hlast⟩ | hp <;>
    rcases ofString_of_endsNamed hy with ⟨init', last', hq, hlast'⟩ | hq
  · exact .inr ⟨(trimmed_of_last hp hlast).1, (trimmed_of_last hq hlast').1⟩
  · exact absurd (hnaming.trans (hnone hq)) (trimmed_of_last hp hlast).2
  · exact absurd (hnaming.symm.trans (hnone hp)) (trimmed_of_last hq hlast').2
  · left
    rcases List.mem_pair.1 hp with hp | hp <;> rcases List.mem_pair.1 hq with hq | hq <;>
      rw [hp, hq] at hsame ⊢ <;> exact absurd hsame (by decide)

end RateCard.Path
