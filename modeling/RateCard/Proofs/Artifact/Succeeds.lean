import RateCard.Proofs.Artifact.Write
import RateCard.Proofs.FileTree.Down

/-!
# When a write succeeds

Where there are only directories and files, a write fails only over a file on the way of its path,
over a directory at the path or at its staging place, or over a NUL in the path.
-/
namespace RateCard.Artifact
open RateCard.FileTree
open RateCard.Path (IsName relative)
open RateCard.Text (Bytes)

variable {t t' : FileTree}

/-- An attempt succeeds if no directory stands at the staging place or at the destination. -/
theorem place_of_slots {p : Path} (bytes : Bytes) (hclear : Clear t p) {s d : Slot}
    (hs : t.slot p.staging = .ok s) (hd : t.slot p = .ok d) (hnamed : d.named = true)
    (hslash : d.slash = false)
    (hshort : s.last.utf8ByteSize ≤ maxNameBytes ∧ d.last.utf8ByteSize ≤ maxNameBytes)
    (hstaging : t.get? s.location ≠ some .directory)
    (hdestination : t.get? d.location ≠ some .directory) :
    ∃ t', place t p bytes = (.ok (), t') := by
  have hfree : t.get? s.location = none ∨ ∃ old, t.get? s.location = some (.file old) := by
    cases hget : t.get? s.location with
    | none => exact .inl rfl
    | some e =>
      rcases hclear s e hs hget with rfl | ⟨old, rfl⟩
      · exact absurd hget hstaging
      · exact .inr ⟨old, rfl⟩
  have hwrite : t.write p.staging bytes = .ok (t.put s.location (.file bytes)) := by
    rw [write_staging hclear.noStagedLink, hs, ok_bind, lookUp_of_short hshort.1, ok_bind]
    rcases hfree with hget | ⟨old, hget⟩ <;> rw [hget]
  have hkeeps := keeps_staged hfree bytes
  have hplace := location_ne_nil s
  have hrename := rename_of_slots (e := .file bytes) (slot_keeps hkeeps hs) (slot_keeps hkeeps hd)
    ⟨named_staging hs, hnamed⟩ ⟨(slot_staging hs).2, hslash⟩ hshort
    (by rw [get?_put t hplace, if_pos rfl]) (by simp)
    (by rwa [get?_put t hplace, if_neg (staging_ne hs hd).symm])
  refine ⟨((t.put s.location (.file bytes)).erase s.location).put d.location (.file bytes), ?_⟩
  rw [place, hwrite]
  simp only [hrename]

/-! ## Writes down from the working directory -/

section Down
variable {before : List String} {n : String} (hbefore : ∀ s ∈ before, ShortName s) (hn : IsName n)
include hbefore hn

theorem isName_of_mem : ∀ s ∈ before ++ [n], IsName s := by
  simp only [List.mem_append, List.mem_singleton]
  rintro s (hs | rfl)
  · exact (hbefore s hs).1
  · exact hn

theorem makes_parents_of_names (t : FileTree) :
    Makes (relative before) t (makeParents t (relative (before ++ [n]))).2 := by
  rcases makeParents_cases t (relative (before ++ [n])) with heq | ⟨parent, hparent, hmakes⟩
  · rw [heq]
    exact .start
  · rw [Path.parent_of_names (isName_of_mem hbefore hn), Option.some.injEq] at hparent
    rwa [hparent]

variable (h : t.Linkless)
include h

/-- The directories above are made unless a file is in the way. -/
theorem makeParents_opens (hrefused : refused? (relative (before ++ [n])) = none)
    (hfree : ¬ t.IsBlocked t.workDir before) :
    ∃ t₁, makeParents t (relative (before ++ [n])) = (.ok (), t₁) ∧
      t₁.IsOpen t.workDir before := by
  have hnames := fun s hs => (hbefore s hs).1
  have hsteps : before.length < (relative before).components.length + 1 := by
    rw [Path.length_components_of_names hnames]
    exact Nat.lt_succ_self _
  obtain ⟨t₁, hmade, hopen⟩ := makeDirsIn_opens h hbefore
    (fun hne => refused_above hnames hne hrefused) hfree hsteps
  refine ⟨t₁, ?_, hopen⟩
  simp only [makeParents, Path.parent_of_names (isName_of_mem hbefore hn), makeDirs, hmade]

theorem clear_of_linkless : Clear t (relative (before ++ [n])) := by
  intro s e hs he
  rw [Path.staging_of_names (isName_of_mem hbefore hn)] at hs
  obtain ⟨-, rfl⟩ := isOpen_of_slot h hbefore (Path.isName_tmp n) hs
  rw [Slot.location, List.append_assoc] at he
  exact Entry.plain_iff.1 (h.entry _ e he)

/-- A successful write has moved the printed prices to the destination, over an open way. -/
theorem placed_of_write {prices : PriceList} {summary : Summary}
    (hw : write t prices (relative (before ++ [n])) = (.ok summary, t')) :
    summary = ⟨prices.size, relative (before ++ [n])⟩ ∧
      (makeParents t (relative (before ++ [n]))).2.IsOpen t.workDir before ∧
      Placed (makeParents t (relative (before ++ [n]))).2 t' (relative (before ++ [n]))
        (contents prices) ⟨t.workDir ++ before, n ++ ".tmp", false⟩
        ⟨t.workDir ++ before, n, false⟩ := by
  have hmakes := makes_parents_of_names hbefore hn t
  have h₁ := h.makes hmakes
  obtain ⟨hsummary, s, d, hplaced⟩ := write_ok (clear_of_linkless hbefore hn h₁) hw
  have hstaged := hplaced.staged
  rw [Path.staging_of_names (isName_of_mem hbefore hn)] at hstaged
  obtain ⟨-, rfl⟩ := isOpen_of_slot h₁ hbefore (Path.isName_tmp n) hstaged
  obtain ⟨hopen, rfl⟩ := isOpen_of_slot h₁ hbefore hn hplaced.slot
  rw [hmakes.keeps.1] at hopen hplaced
  exact ⟨hsummary, hopen, hplaced⟩

/-- A write succeeds over a way that no file blocks, unless a directory stands at its end. -/
theorem write_of_unblocked (prices : PriceList)
    (hlast : (n ++ ".tmp").utf8ByteSize ≤ maxNameBytes)
    (hsize : (relative (before ++ [n ++ ".tmp"])).text.utf8ByteSize < maxPathBytes)
    (hnul : (relative (before ++ [n])).hasNul = false) (hfree : ¬ t.IsBlocked t.workDir before)
    (hdestination : t.get? (t.workDir ++ before ++ [n]) ≠ some .directory)
    (hstaging : t.get? (t.workDir ++ before ++ [n ++ ".tmp"]) ≠ some .directory) :
    ∃ t', write t prices (relative (before ++ [n])) =
      (.ok ⟨prices.size, relative (before ++ [n])⟩, t') := by
  have hnames := isName_of_mem hbefore hn
  have htmp := Path.size_text_concat before (n ++ ".tmp")
  have htext := Path.size_text_concat before n
  have hpos := size_pos_of_isName hn
  rw [String.utf8ByteSize_append] at hlast htmp
  have hshort : n.utf8ByteSize ≤ maxNameBytes := by omega
  have hrefused : refused? (relative (before ++ [n])) = none :=
    refused_eq_none.2 ⟨hnul, isEmpty_of_size_pos (by omega), by omega⟩
  have hrefused' : refused? (relative (before ++ [n ++ ".tmp"])) = none :=
    refused_eq_none.2
      ⟨(Path.hasNul_tmp before n).trans hnul, isEmpty_of_size_pos (by omega), hsize⟩
  obtain ⟨t₁, hparents, hopen⟩ := makeParents_opens hbefore hn h hrefused hfree
  have hmakes := makes_parents_of_names hbefore hn t
  rw [hparents] at hmakes
  have h₁ := h.makes hmakes
  rw [← hmakes.keeps.1] at hopen
  have hslot := slot_of_isOpen h₁ hbefore hn hrefused hopen
  have hslot' := slot_of_isOpen h₁ hbefore (Path.isName_tmp n) hrefused' hopen
  rw [← Path.staging_of_names hnames] at hslot'
  rw [hmakes.keeps.1] at hslot hslot'
  rw [← get?_below_of_makes h hbefore hmakes] at hdestination hstaging
  obtain ⟨t', hplace⟩ := place_of_slots (contents prices) (clear_of_linkless hbefore hn h₁) hslot'
    hslot (named_of_isName hn) rfl
    ⟨by rwa [String.utf8ByteSize_append], hshort⟩ hstaging hdestination
  exact ⟨t', by simp only [write, hparents, hplace]⟩

end Down

/-- Below the working directory, where there are only directories and files, a write succeeds
exactly if no file is in the way, no directory stands at the destination or at the staging place,
and the path holds no NUL. It then has made the directories above, and changed nothing else than
these two places. -/
theorem write_succeeds_iff (h : t.Linkless) (prices : PriceList) (before : List String) (n : String)
    (hbefore : ∀ s ∈ before, ShortName s) (hn : IsName n)
    (hlast : (n ++ ".tmp").utf8ByteSize ≤ maxNameBytes)
    (hsize : (relative (before ++ [n ++ ".tmp"])).text.utf8ByteSize < maxPathBytes) :
    let p := relative (before ++ [n])
    let destination := t.workDir ++ before ++ [n]
    let staging := t.workDir ++ before ++ [n ++ ".tmp"]
    ((∃ summary, (write t prices p).1 = .ok summary) ↔
      p.hasNul = false ∧ ¬ t.IsBlocked t.workDir before ∧
        t.get? destination ≠ some .directory ∧ t.get? staging ≠ some .directory) ∧
    ∀ summary t', write t prices p = (.ok summary, t') →
      summary = ⟨prices.size, p⟩ ∧ t'.IsOpen t.workDir before ∧
        t'.get? destination = some (.file (contents prices)) ∧ t'.get? staging = none ∧
        ∀ l, l ≠ destination → l ≠ staging → (∀ way, way <+: before → l ≠ t.workDir ++ way) →
          t'.get? l = t.get? l := by
  intro p destination staging
  have hmakes := makes_parents_of_names hbefore hn t
  refine ⟨⟨?_, ?_⟩, fun summary t' hw => ?_⟩
  · rintro ⟨summary, hsummary⟩
    obtain ⟨-, hopen, hplaced⟩ := placed_of_write hbefore hn h (Prod.ext hsummary rfl)
    have hnul := (refused_eq_none.1 (refused_of_slot hplaced.slot)).1
    refine ⟨hnul, ?_, fun hdir => ?_, fun hdir => ?_⟩
    · rintro ⟨way, hway, bytes, hfile⟩
      exact hopen.not_isBlocked ⟨way, hway, bytes, hmakes.get?_of_some hfile⟩
    · exact hplaced.notDirectory (hmakes.get?_of_some hdir)
    · exact hplaced.ne_staging rfl (hmakes.get?_of_some hdir) rfl
  · rintro ⟨hnul, hfree, hdestination, hstaging⟩
    obtain ⟨t', hw⟩ := write_of_unblocked hbefore hn h prices hlast hsize hnul hfree hdestination
      hstaging
    exact ⟨_, by rw [hw]⟩
  · obtain ⟨hsummary, hopen, hplaced⟩ := placed_of_write hbefore hn h hw
    refine ⟨hsummary, fun way hway => ?_, hplaced.destination, hplaced.staging,
      fun l hd hs hway => ?_⟩
    · have hdir := hopen way hway
      have hne : t.workDir ++ way ≠ destination := by
        intro heq
        rw [heq] at hdir
        exact hplaced.notDirectory hdir
      rw [hplaced.elsewhere _ hne (hplaced.ne_staging rfl hdir), hdir]
    · rw [hplaced.elsewhere l hd hs, get?_of_makes h hbefore hmakes hway]

/-- A directory that holds the staged file of a write that was broken off. -/
def leftOver : FileTree :=
  (FileTree.fresh.put ["tmp", "scratch", "work", "data"] .directory).put
    ["tmp", "scratch", "work", "data", "out.json.tmp"] (.file [91])

theorem linkless_leftOver : leftOver.Linkless :=
  linkless_of_entries (by decide +kernel) (by decide +kernel) (by decide +kernel)

/-- A write below a directory that is missing succeeds, and one below a file does not. -/
theorem write_succeeds_leftOver : leftOver.Linkless ∧
    (∃ summary, (write leftOver ⟨[[]]⟩ (relative ["data", "new", "out.json"])).1 = .ok summary) ∧
    ¬ ∃ summary,
      (write leftOver ⟨[[]]⟩ (relative ["data", "out.json.tmp", "out.json"])).1 = .ok summary := by
  have hn : IsName "out.json" := by decide
  have hlast : ("out.json" ++ ".tmp").utf8ByteSize ≤ maxNameBytes := by decide
  refine ⟨linkless_leftOver, ?_, fun hwritten => ?_⟩
  · have hspec := (write_succeeds_iff linkless_leftOver ⟨[[]]⟩ ["data", "new"] "out.json"
      (by decide) hn hlast (by decide +kernel)).1
    refine hspec.2 ⟨by decide, ?_, by decide +kernel, by decide +kernel⟩
    rintro ⟨way, hway, bytes, hfile⟩
    have hplaces : ∀ way ∈ ["data", "new"].inits,
        leftOver.get? (leftOver.workDir ++ way) ∈ [none, some .directory] := by decide +kernel
    have hplace := hplaces way ((List.mem_inits _ _).2 hway)
    simp [hfile] at hplace
  · have hspec := (write_succeeds_iff linkless_leftOver ⟨[[]]⟩ ["data", "out.json.tmp"]
      "out.json" (by decide) hn hlast (by decide +kernel)).1
    have hfile : leftOver.get? (leftOver.workDir ++ ["data", "out.json.tmp"]) =
        some (.file [91]) := by decide +kernel
    exact (hspec.1 hwritten).2.1 ⟨["data", "out.json.tmp"], List.prefix_rfl, [91], hfile⟩

/-- Nothing is in the way of a name that holds a NUL, but the system takes no such path. -/
theorem write_nulInName :
    let p := relative ["a\x00b"]
    let t := FileTree.fresh
    t.Linkless ∧ ShortName "a\x00b" ∧ ¬ t.IsBlocked t.workDir [] ∧
      t.get? (t.workDir ++ ["a\x00b"]) = none ∧ t.get? (t.workDir ++ ["a\x00b.tmp"]) = none ∧
      (write t ⟨[[]]⟩ p).1 = .error (.io p.staging .nulInName) := by
  intro p t
  have hlinkless : t.Linkless := linkless_of_entries (by decide) (by decide) (by decide)
  refine ⟨hlinkless, by decide, ?_, by decide +kernel, by decide +kernel, by decide +kernel⟩
  exact (isOpen_nil.2 hlinkless.workDir).not_isBlocked

end RateCard.Artifact
