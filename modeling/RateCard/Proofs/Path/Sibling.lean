import RateCard.Proofs.Path.Text

/-!
# Siblings

A path is its parent and one last component. If that is a name, the staging path has the same parent
and a name of its own for each name, so that no two destinations are staged at one place.
-/
namespace RateCard.Path
variable {p q : Path} {n : String}

/-! ## Components of parents -/

theorem components_of_split {here body : List String} (h : p.splitHere = (here, body)) :
    p.components = (if p.rooted then [.root] else []) ++ here.map (fun _ => .here) ++
      body.filterMap component? := by
  rw [components, h]

theorem filterMap_trimVoid (segments : List String) :
    (trimVoid segments).filterMap component? = segments.filterMap component? := by
  rw [← filterMap_naming, naming_trimVoid, filterMap_naming]

/-- A path has one component behind those of its parent, which is a `.` only if there are none. -/
theorem components_parent (h : p.parent? = some q) : ∃ c, p.components = q.components ++ [c] ∧
    ((segment? c).isSome ∨ c = .here ∧ q.components = []) := by
  rcases hsplit : p.splitHere with ⟨here, body⟩
  have hp := components_of_split hsplit
  rw [← filterMap_trimVoid] at hp
  rcases List.eq_nil_or_concat (trimVoid body) with htrim | ⟨init, last, htrim⟩
  · -- no segment names anything: a leading `.` is the one component
    simp only [parent?, hsplit, htrim] at h
    by_cases hhere : here = []
    · simp [hhere] at h
    have hdot : here = ["."] := by
      have hcases := here_cases p
      rw [hsplit] at hcases
      exact hcases.resolve_left hhere
    have hrooted : p.rooted = false := rooted_of_splitHere (by rwa [hsplit])
    obtain rfl : (⟨false, []⟩ : Path) = q := by simpa [hdot] using h
    refine ⟨.here, ?_, .inr ⟨rfl, rfl⟩⟩
    rw [hp, hrooted, hdot, htrim]
    rfl
  · rw [List.concat_eq_append] at htrim
    obtain rfl := Option.some.inj ((parent_of_trim hsplit htrim).symm.trans h)
    have hlast : isVoid last = false :=
      isVoid_of_getLast_trimVoid (by rw [htrim, List.getLast?_concat])
    obtain ⟨c, hc, hsegment⟩ := segment_component hlast
    have hsplit' : (⟨p.rooted, here ++ trimVoid init⟩ : Path).splitHere = (here, trimVoid init) := by
      refine splitHere_again hsplit fun hhead => head_trimVoid ?_
      rw [htrim, List.head?_append, head_trimVoid hhead, Option.some_or]
    refine ⟨c, ?_, .inl (by rw [hsegment]; rfl)⟩
    rw [hp, components_of_split hsplit', htrim, List.filterMap_append, filterMap_trimVoid,
      ← List.append_assoc, List.filterMap_cons, hc]
    rfl

/-- Only the empty path and the root have no parent. -/
theorem components_of_parent_none (h : p.parent? = none) :
    p.components = [] ∨ p.components = [.root] := by
  rcases hsplit : p.splitHere with ⟨here, body⟩
  rcases List.eq_nil_or_concat (trimVoid body) with htrim | ⟨init, last, htrim⟩
  · simp only [parent?, hsplit, htrim] at h
    have hhere : here = [] := by
      by_contra hhere
      simp [hhere] at h
    rw [components_of_split hsplit, ← filterMap_trimVoid, htrim, hhere]
    cases p.rooted with
    | true => exact .inr rfl
    | false => exact .inl rfl
  · rw [parent_of_trim hsplit (htrim.trans List.concat_eq_append)] at h
    cases h

/-- A path with no name at its end is empty, the root or `.`, or goes up at its end. -/
theorem components_of_nameless (h : ∀ n, p.components.getLast? ≠ some (.name n)) :
    p.components = [] ∨ p.components = [.root] ∨ p.components = [.here] ∨
      p.components.getLast? = some .up := by
  cases hparent : p.parent? with
  | none => exact (components_of_parent_none hparent).imp_right .inl
  | some parent =>
    obtain ⟨c, hc, hlast⟩ := components_parent hparent
    rw [hc, List.getLast?_concat] at h ⊢
    rcases hlast with hsegment | ⟨rfl, hnil⟩
    · cases c with
      | root | here => cases hsegment
      | up => exact .inr (.inr (.inr rfl))
      | name n => exact absurd rfl (h n)
    · rw [hnil]
      exact .inr (.inr (.inl rfl))

/-- Only the empty text has no components. -/
theorem IsRead.text_of_components (h : p.IsRead) (hnone : p.components = []) : p.text = "" := by
  have hrooted : p.rooted = false := by
    rw [← Bool.not_eq_true, ← root_mem_components, hnone]
    exact List.not_mem_nil
  rcases hsplit : p.splitHere with ⟨here, body⟩
  rw [components_of_split hsplit, hrooted] at hnone
  obtain ⟨hsegments, ⟨rfl, -⟩ | ⟨rfl, hhead⟩⟩ := splitHere_eq_iff.1 hsplit
  · cases hnone
  obtain ⟨s, rest, rfl⟩ := List.exists_cons_of_ne_nil (hsegments ▸ h.ne_nil)
  have hvoid : isVoid s = true := by
    by_contra hvoid
    obtain ⟨c, hc, -⟩ := segment_component (Bool.not_eq_true _ ▸ hvoid)
    rw [List.filterMap_cons, hc] at hnone
    cases hnone
  have hempty : s = "" := by
    rw [isVoid, Bool.or_eq_true, beq_iff_eq, beq_iff_eq] at hvoid
    exact hvoid.resolve_right fun hdot => hhead hrooted (congrArg some hdot)
  have hall : p.segments = [""] := h.start hrooted (by rw [hsegments, hempty]; rfl)
  rw [text, hrooted, hall]
  rfl

/-! ## Components of longer paths -/

theorem components_append {rooted : Bool} {segments more : List String}
    (h : segments = [] → rooted = false → more.head? ≠ some ".") :
    components ⟨rooted, segments ++ more⟩ =
      components ⟨rooted, segments⟩ ++ more.filterMap component? := by
  rcases hsplit : (⟨rooted, segments⟩ : Path).splitHere with ⟨here, body⟩
  obtain ⟨hsegments, hstart⟩ := splitHere_eq_iff.1 hsplit
  have hsplit' : (⟨rooted, segments ++ more⟩ : Path).splitHere = (here, body ++ more) := by
    refine splitHere_eq_iff.2 ⟨?_, hstart.imp_right fun ⟨hnil, hhead⟩ => ⟨hnil, fun hroot => ?_⟩⟩
    · rw [← List.append_assoc]
      exact congrArg (· ++ more) hsegments
    · obtain rfl : segments = body := by simpa [hnil] using hsegments
      cases segments with
      | nil => exact h rfl hroot
      | cons => exact hhead hroot
  rw [components_of_split hsplit, components_of_split hsplit', List.filterMap_append,
    ← List.append_assoc]

theorem components_push (p : Path) (hn : IsName n) :
    (p.push n).components = p.components ++ [.name n] := by
  have happend (before : List String) : components ⟨p.rooted, before ++ [n]⟩ =
      components ⟨p.rooted, before⟩ ++ [.name n] := by
    rw [components_append fun _ _ => by simp [ne_here_of_isName hn], List.filterMap_cons,
      component_of_isName hn]
    rfl
  rcases push_cases p n with ⟨init, hinit, hpush⟩ | ⟨-, hpush⟩
  · have hp : p.components = components ⟨p.rooted, init⟩ := by
      rw [show p = ⟨p.rooted, init ++ [""]⟩ from congrArg (Path.mk p.rooted) hinit,
        components_append fun _ _ => by decide]
      exact List.append_nil _
    rw [hpush, happend, hp]
  · rw [hpush, happend]

theorem mem_segments_of_name (h : .name n ∈ p.components) : n ∈ p.segments := by
  have hnaming : n ∈ naming p.splitHere.2 := by
    rw [← filterMap_components]
    exact List.mem_filterMap.2 ⟨.name n, h, rfl⟩
  rw [← splitHere_append p]
  exact List.mem_append_right _ (List.mem_of_mem_filter hnaming)

/-! ## Staging paths -/

/-- The last component is a name. -/
def EndsIn (p : Path) (n : String) : Prop := p.components.getLast? = some (.name n)

instance (p : Path) (n : String) : Decidable (p.EndsIn n) := inferInstanceAs (Decidable (_ = _))

theorem fileName_eq_some_iff : p.fileName? = some n ↔ p.EndsIn n := by
  rw [fileName?, EndsIn]
  split
  next m hm => simp [hm]
  next hother => exact ⟨fun h => absurd h (by simp), fun h => absurd h (hother n)⟩

/-- A name at the end of a path gives way to that name with `.tmp` behind it. -/
theorem EndsIn.staging (h : p.EndsIn n) : ∃ parent, p.parent? = some parent ∧
    p.components = parent.components ++ [.name n] ∧ p.staging = parent.push (n ++ ".tmp") := by
  have hname := fileName_eq_some_iff.2 h
  cases hparent : p.parent? with
  | none =>
    rcases components_of_parent_none hparent with hnil | hroot
    · rw [EndsIn, hnil] at h
      cases h
    · rw [EndsIn, hroot] at h
      cases h
  | some parent =>
    obtain ⟨c, hc, -⟩ := components_parent hparent
    rw [EndsIn, hc, List.getLast?_concat, Option.some.injEq] at h
    refine ⟨parent, rfl, h ▸ hc, ?_⟩
    rw [Path.staging, withFileName, hname, hparent]
    rfl

theorem staging_of_nameless (h : ∀ n, ¬ p.EndsIn n) : p.staging = p.push "pricing.tmp" := by
  have hname : p.fileName? = none := by
    rw [Option.eq_none_iff_forall_ne_some]
    exact fun n hn => h n (fileName_eq_some_iff.1 hn)
  rw [Path.staging, withFileName, hname]
  rfl

theorem IsRead.staging (h : p.IsRead) : p.staging.IsRead := by
  have htmp {name : String} (hname : '/' ∉ name.toList) : '/' ∉ (name ++ ".tmp").toList := by
    rw [String.toList_append, List.mem_append, not_or]
    exact ⟨hname, by decide⟩
  by_cases hends : ∃ n, p.EndsIn n
  · obtain ⟨n, hn⟩ := hends
    obtain ⟨parent, hparent, -, hstaging⟩ := hn.staging
    obtain ⟨hrooted, hinitial⟩ := parent_eq hparent
    have hslash := h.slash_notMem n (mem_segments_of_name (List.mem_of_getLast? hn))
    rw [hstaging]
    exact h.push (ne_empty_of_isName (isName_tmp n)) (htmp hslash) hrooted hinitial
  · rw [staging_of_nameless (not_exists.1 hends)]
    exact h.push (by decide) (by decide) rfl List.prefix_rfl

theorem EndsIn.components_staging (h : p.EndsIn n) : ∃ parent, p.parent? = some parent ∧
    p.components = parent.components ++ [.name n] ∧
      p.staging.components = parent.components ++ [.name (n ++ ".tmp")] := by
  obtain ⟨parent, hparent, hcomponents, hstaging⟩ := h.staging
  exact ⟨parent, hparent, hcomponents, by rw [hstaging, components_push _ (isName_tmp n)]⟩

theorem EndsIn.staged (h : p.EndsIn n) : p.staging.EndsIn (n ++ ".tmp") := by
  obtain ⟨parent, -, -, hstaged⟩ := h.components_staging
  rw [EndsIn, hstaged, List.getLast?_concat]

/-- Two different paths whose parents are the same. -/
def Siblings (p q : Path) : Prop := p.same q = false ∧
  ∃ parent parent', p.parent? = some parent ∧ q.parent? = some parent' ∧ parent.same parent' = true

theorem EndsIn.siblings (h : p.EndsIn n) : Siblings p p.staging := by
  obtain ⟨parent, hparent, hcomponents, hstaged⟩ := h.components_staging
  obtain ⟨parent', hparent', hcomponents', -⟩ := h.staged.components_staging
  refine ⟨?_, parent, parent', hparent, hparent', ?_⟩
  · rw [same, beq_eq_false_iff_ne, hcomponents, hstaged]
    intro heq
    have hname := Component.name.inj (List.singleton_inj.1 (List.append_cancel_left heq))
    exact tmp_ne n hname.symm
  · rw [same, beq_iff_eq]
    exact List.append_inj_left' (hstaged.symm.trans hcomponents') rfl

/-- Paths that end in names are staged at the same place only if they are the same. -/
theorem EndsIn.same_staging {m : String} (hp : p.EndsIn n) (hq : q.EndsIn m) :
    p.staging.same q.staging = true ↔ p.same q = true := by
  obtain ⟨parent, -, hcomponents, hstaged⟩ := hp.components_staging
  obtain ⟨parent', -, hcomponents', hstaged'⟩ := hq.components_staging
  rw [same, same, beq_iff_eq, beq_iff_eq, hcomponents, hcomponents', hstaged, hstaged',
    List.append_singleton_inj, List.append_singleton_inj, Component.name.injEq,
    Component.name.injEq, String.append_left_inj]

/-- A path that ends in a name is staged beside itself, under that name with `.tmp` behind it, and
shares this place with no path of other components. Any other path is empty, the root or `.`, or
goes up at its end: it is staged behind itself, under a name for all such paths. -/
theorem staging_sibling (text : String) :
    let p := ofString text
    ofString p.staging.text = p.staging ∧
      (∀ n, p.EndsIn n → p.fileName? = some n ∧ p.staging.fileName? = some (n ++ ".tmp") ∧
        Siblings p p.staging ∧
          ∀ other m, (ofString other).EndsIn m →
            (p.staging.same (ofString other).staging = true ↔ p.same (ofString other) = true)) ∧
      ((∀ n, ¬ p.EndsIn n) →
        (text = "" ∨ p.components = [.root] ∨ p.components = [.here] ∨
          p.components.getLast? = some .up) ∧
        p.staging.components = p.components ++ [.name "pricing.tmp"] ∧
        p.staging.text = text ++ (if text = "" ∨ ['/'] <:+ text.toList then "" else "/") ++
          "pricing.tmp") := by
  intro p
  have hread : p.IsRead := isRead_ofString text
  have htext : p.text = text := text_ofString text
  refine ⟨hread.staging.ofString_text, fun n hn => ?_, fun hnameless => ?_⟩
  · exact ⟨fileName_eq_some_iff.2 hn, fileName_eq_some_iff.2 hn.staged, hn.siblings,
      fun other m hm => hn.same_staging hm⟩
  · have hstaging := staging_of_nameless hnameless
    refine ⟨?_, ?_, ?_⟩
    · rw [← htext]
      exact (components_of_nameless hnameless).imp_left hread.text_of_components
    · rw [hstaging, components_push p (by decide)]
    · rw [hstaging, text_push hread.ne_nil, htext]
      simp only [p, getLast_ofString]

/-- Two spellings of one path, staged at the same place, and a path that goes up at its end. -/
theorem staging_sibling_spelt :
    let p := ofString "./in//../rates.json/./"
    let q := ofString "./in/../rates.json"
    p.EndsIn "rates.json" ∧ q.EndsIn "rates.json" ∧ Siblings p p.staging ∧
      p.staging.fileName? = some "rates.json.tmp" ∧ p.staging.same q.staging = true ∧
      (∀ n, ¬ (ofString "in/..").EndsIn n) ∧
      (ofString "in/..").staging.text = "in/../pricing.tmp" := by
  intro p q
  have hp : p.EndsIn "rates.json" := by decide +kernel
  have hq : q.EndsIn "rates.json" := by decide +kernel
  have hup : ∀ n, ¬ (ofString "in/..").EndsIn n := by
    intro n hn
    have hlast : (ofString "in/..").components.getLast? = some .up := by decide +kernel
    rw [EndsIn, hlast] at hn
    cases hn
  obtain ⟨-, hbeside, -⟩ := staging_sibling "./in//../rates.json/./"
  obtain ⟨-, hname, hsiblings, hsame⟩ := hbeside "rates.json" hp
  obtain ⟨-, -, hbehind⟩ := staging_sibling "in/.."
  refine ⟨hp, hq, hsiblings, hname, ?_, hup, ?_⟩
  · exact (hsame "./in/../rates.json" "rates.json" hq).2 (by decide +kernel)
  · rw [(hbehind hup).2.2]
    decide +kernel

end RateCard.Path
