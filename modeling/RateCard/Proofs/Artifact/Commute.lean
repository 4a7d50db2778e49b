import RateCard.Proofs.Artifact.Fate

/-!
# Writes in either order

Where there are only directories and files, two writes do not disturb each other unless a place of
one of them is a place of the other one or lies above it. They may well share directories, and
either may be the one that makes them, and either may fail.
-/
namespace RateCard.Artifact
open RateCard.FileTree
open RateCard.Path (IsName relative)

/-- A path from the working directory down over names. -/
def IsDown (p : Path) : Prop := p.rooted = false ∧ ∀ s ∈ p.segments, IsName s

/-- Neither path nor its staging path is the other one or the staging path of that, or leads to a
directory on the way of it. -/
def Apart (p q : Path) : Prop :=
  ∀ a ∈ [p, p.staging], ∀ b ∈ [q, q.staging],
    ¬ a.segments <+: b.segments ∧ ¬ b.segments <+: a.segments

theorem Apart.symm {p q : Path} (h : Apart p q) : Apart q p :=
  fun b hb a ha => ⟨(h a ha b hb).2, (h a ha b hb).1⟩

variable {t t' : FileTree} {before before' : List String} {n n' : String}

/-! ## What a write sees -/

theorem above_initial (t : FileTree) (before : List String) : (above t before).2 <+: before := by
  rw [above]
  split
  · exact List.nil_prefix
  · exact passed_initial t t.workDir before

/-- No file stands on the way that is opened. -/
theorem above_free (h : t.Linkless) {way : List String} (hway : way <+: (above t before).2) :
    t.get? (t.workDir ++ way) = none ∨ t.get? (t.workDir ++ way) = some .directory := by
  have hfile : ∀ bytes, t.get? (t.workDir ++ way) ≠ some (.file bytes) := by
    have hstart : ∀ bytes, t.get? t.workDir ≠ some (.file bytes) := by simp [h.workDir]
    rw [above] at hway
    split at hway
    · rw [List.prefix_nil.1 hway, List.append_nil]
      exact hstart
    · exact passed_free hstart hway
  cases hget : t.get? (t.workDir ++ way) with
  | none => exact .inl rfl
  | some e =>
    rcases Entry.plain_iff.1 (h.entry way e hget) with rfl | ⟨bytes, rfl⟩
    · exact .inr rfl
    · exact absurd hget (hfile bytes)

/-- One tree shows a write the same as another one: it has the same entries at the two places, and
on the way to them it has only more directories. -/
structure Shows (t t' : FileTree) (before : List String) (n : String) : Prop where
  workDir : t'.workDir = t.workDir
  way : ∀ way, way <+: before → t'.get? (t.workDir ++ way) = t.get? (t.workDir ++ way) ∨
    t.get? (t.workDir ++ way) = none ∧ t'.get? (t.workDir ++ way) = some .directory
  ends : ∀ m ∈ [n, n ++ ".tmp"],
    t'.get? (t.workDir ++ before ++ [m]) = t.get? (t.workDir ++ before ++ [m])

/-- A write ends alike and changes the same where it is shown the same. -/
theorem Shows.fate (h : Shows t t' before n) :
    fate t' before n = fate t before n ∧
      ∀ prices, change t' prices before n = change t prices before n := by
  obtain ⟨hstop, hpassed⟩ := stop_congr h.way
  have habove : above t' before = above t before := by
    simp only [above, h.workDir, hstop, hpassed]
  have hfate : Artifact.fate t' before n = Artifact.fate t before n := by
    simp only [Artifact.fate, habove, attempt_congr h.workDir h.ends]
  refine ⟨hfate, fun prices => ?_⟩
  funext l
  simp only [change, h.workDir, hfate, habove]

/-! ## What a write changes -/

theorem change_cases {prices : PriceList} {l : Location} {x : Option Entry}
    (h : change t prices before n l = some x) :
    (∃ m ∈ [n, n ++ ".tmp"], l = t.workDir ++ before ++ [m]) ∨
      x = some .directory ∧ ∃ way, way <+: (above t before).2 ∧ t.workDir ++ way = l := by
  by_cases hends : ∃ m ∈ [n, n ++ ".tmp"], l = t.workDir ++ before ++ [m]
  · exact .inl hends
  right
  have hnot (m : String) (hm : m ∈ [n, n ++ ".tmp"]) : l ≠ t.workDir ++ before ++ [m] :=
    fun heq => hends ⟨m, hm, heq⟩
  rw [change, ends_eq_none _ (hnot _ (by simp)) (hnot _ (by simp)), Option.none_or] at h
  exact opening_eq_some.1 h

section Apart
variable (hapart : ∀ m ∈ [n, n ++ ".tmp"], ∀ m' ∈ [n', n' ++ ".tmp"],
  ¬ before ++ [m] <+: before' ++ [m'] ∧ ¬ before' ++ [m'] <+: before ++ [m])
include hapart

/-- A write apart changes nothing at the two places. -/
theorem change_ends (prices : PriceList) {m : String} (hm : m ∈ [n, n ++ ".tmp"]) :
    change t prices before' n' (t.workDir ++ before ++ [m]) = none := by
  rw [Option.eq_none_iff_forall_ne_some]
  intro x hx
  rcases change_cases hx with ⟨m', hm', heq⟩ | ⟨-, way, hway, heq⟩
  · rw [List.append_assoc, List.append_assoc, List.append_cancel_left_eq] at heq
    exact (hapart m hm m' hm').1 (heq ▸ List.prefix_rfl)
  · rw [List.append_assoc, List.append_cancel_left_eq] at heq
    have hinit := hway.trans (above_initial t before')
    rw [heq] at hinit
    exact (hapart m hm n' (by simp)).1 (hinit.trans (List.prefix_append _ _))

/-- A write sees nothing of a write apart but directories that it would make itself. -/
theorem shows_of_apart (h : t.Linkless) {prices : PriceList}
    (hchange : Overlaid t t' (change t prices before' n')) : Shows t t' before n := by
  refine ⟨hchange.workDir, fun way hway => ?_, fun m hm => ?_⟩
  · rw [hchange.entry]
    cases hx : change t prices before' n' (t.workDir ++ way) with
    | none => exact .inl rfl
    | some x =>
      rcases change_cases hx with ⟨m', hm', heq⟩ | ⟨rfl, way', hway', heq⟩
      · rw [List.append_assoc, List.append_cancel_left_eq] at heq
        rw [heq] at hway
        exact absurd (hway.trans (List.prefix_append _ _)) (hapart n (by simp) m' hm').2
      · rw [List.append_cancel_left_eq] at heq
        rw [heq] at hway'
        rcases above_free h hway' with hnone | hdir
        · exact .inr ⟨hnone, rfl⟩
        · exact .inl (by rw [hdir]; rfl)
  · rw [hchange.entry, change_ends hapart prices hm]
    rfl

/-- Where writes apart make a change both, they make a directory. -/
theorem change_agree (prices prices' : PriceList) (l : Location) (x y : Option Entry)
    (hx : change t prices before n l = some x) (hy : change t prices' before' n' l = some y) :
    x = y := by
  rcases change_cases hx with ⟨m, hm, rfl⟩ | ⟨rfl, -⟩
  · rw [change_ends hapart prices' hm] at hy
    cases hy
  rcases change_cases hy with ⟨m', hm', rfl⟩ | ⟨rfl, -⟩
  · have hapart' := fun b hb a ha => (hapart a ha b hb).symm
    rw [change_ends hapart' prices hm'] at hx
    cases hx
  · rfl

end Apart

/-! ## Two writes -/

theorem IsDown.names {p : Path} (h : IsDown p) (hne : p.segments ≠ []) :
    ∃ before n, p = relative (before ++ [n]) ∧ ∀ s ∈ before ++ [n], IsName s := by
  obtain ⟨hrooted, hnames⟩ := h
  obtain ⟨before, n, hsegments⟩ := (List.eq_nil_or_concat p.segments).resolve_left hne
  rw [List.concat_eq_append] at hsegments
  rw [hsegments] at hnames
  exact ⟨before, n, congrArg₂ Path.mk hrooted hsegments, hnames⟩

/-- The result of a write is the same after a write apart, and so is what it changes. -/
theorem write_after (h : t.Linkless) (hnames : ∀ s ∈ before ++ [n], IsName s) (prices : PriceList)
    (hshows : Shows t t' before n) (h' : t'.Linkless) :
    (write t' prices (relative (before ++ [n]))).1 =
        (write t prices (relative (before ++ [n]))).1 ∧
      Overlaid t' (write t' prices (relative (before ++ [n]))).2 (change t prices before n) := by
  obtain ⟨t₁, hwrite, -, -⟩ := write_fate h hnames prices
  obtain ⟨t₂, hwrite', -, hchange⟩ := write_fate h' hnames prices
  obtain ⟨hfate, hsame⟩ := hshows.fate
  rw [hsame prices] at hchange
  rw [hwrite, hwrite', hfate]
  exact ⟨rfl, hchange⟩

/-- Where there are only directories and files, writes of any lists to paths apart have the same
results in either order, and leave the same tree. -/
theorem write_comm (h : t.Linkless) {p q : Path} (hp : IsDown p) (hq : IsDown q)
    (hapart : Apart p q) (prices prices' : PriceList) :
    let first := write t prices p
    let second := write first.2 prices' q
    let first' := write t prices' q
    let second' := write first'.2 prices p
    second'.1 = first.1 ∧ second.1 = first'.1 ∧ second'.2.workDir = second.2.workDir ∧
      ∀ l, second'.2.get? l = second.2.get? l := by
  have hne : p.segments ≠ [] := fun hnil =>
    (hapart p (by simp) q (by simp)).1 (by rw [hnil]; exact List.nil_prefix)
  have hne' : q.segments ≠ [] := fun hnil =>
    (hapart p (by simp) q (by simp)).2 (by rw [hnil]; exact List.nil_prefix)
  obtain ⟨before, n, rfl, hnames⟩ := hp.names hne
  obtain ⟨before', n', rfl, hnames'⟩ := hq.names hne'
  have hends : ∀ m ∈ [n, n ++ ".tmp"], ∀ m' ∈ [n', n' ++ ".tmp"],
      ¬ before ++ [m] <+: before' ++ [m'] ∧ ¬ before' ++ [m'] <+: before ++ [m] := by
    rw [Apart, Path.staging_of_names hnames, Path.staging_of_names hnames'] at hapart
    simpa using hapart
  have hends' := fun m' hm' m hm => (hends m hm m' hm').symm
  obtain ⟨t₁, hwrite, h₁, hchange⟩ := write_fate h hnames prices
  obtain ⟨t₁', hwrite', h₁', hchange'⟩ := write_fate h hnames' prices'
  have hafter := write_after h hnames prices (shows_of_apart hends h hchange') h₁'
  have hafter' := write_after h hnames' prices' (shows_of_apart hends' h hchange) h₁
  intro first second first' second'
  have hfirst : first.2 = t₁ := by simp only [first, hwrite]
  have hfirst' : first'.2 = t₁' := by simp only [first', hwrite']
  simp only [second, second', hfirst, hfirst']
  exact ⟨hafter.1, hafter'.1,
    Overlaid.comm (change_agree hends prices prices') hchange hafter'.2 hchange' hafter.2⟩

/-- Two writes into a directory that whichever goes first has to make. -/
theorem write_comm_shared :
    let p := relative ["data", "new", "a.json"]
    let q := relative ["data", "new", "b.json"]
    let ab := write (write leftOver ⟨[[]]⟩ p).2 ⟨[[], []]⟩ q
    let ba := write (write leftOver ⟨[[], []]⟩ q).2 ⟨[[]]⟩ p
    leftOver.Linkless ∧ IsDown p ∧ IsDown q ∧ Apart p q ∧
      (write leftOver ⟨[[]]⟩ p).1 = .ok ⟨1, p⟩ ∧ ba.1 = .ok ⟨1, p⟩ ∧
      ab.1 = (write leftOver ⟨[[], []]⟩ q).1 ∧ ∀ l, ba.2.get? l = ab.2.get? l := by
  intro p q ab ba
  have hp : IsDown p := ⟨rfl, by decide⟩
  have hq : IsDown q := ⟨rfl, by decide⟩
  have hapart : Apart p q := by unfold Apart; decide +kernel
  have hfirst : (write leftOver ⟨[[]]⟩ p).1 = .ok ⟨1, p⟩ := by decide +kernel
  obtain ⟨hba, hab, -, htree⟩ := write_comm linkless_leftOver hp hq hapart ⟨[[]]⟩ ⟨[[], []]⟩
  exact ⟨linkless_leftOver, hp, hq, hapart, hfirst, hba.trans hfirst, hab, htree⟩

end RateCard.Artifact
