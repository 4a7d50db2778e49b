import RateCard.Proofs.FileTree.Ends
import RateCard.Proofs.FileTree.Parents

/-!
# Ways down from the working directory

Where there are only directories and files, a way over names can only go down, and what it comes to
is decided by the first place on it that is no directory: a missing one can be made, and a file is
in the way. So the directories of a path can be made exactly if no file is in the way.
-/
namespace RateCard
open RateCard.Path (IsName relative)
open RateCard.Text (Bytes)

/-- Neither a link nor a device. -/
def Entry.plain : Entry → Bool
  | .directory | .file _ => true
  | .link _ | .device _ => false

theorem Entry.plain_iff {e : Entry} :
    e.plain = true ↔ e = .directory ∨ ∃ bytes, e = .file bytes := by
  cases e <;> simp [plain]

namespace FileTree

/-- A name that is not too long to be looked up. -/
def ShortName (s : String) : Prop := IsName s ∧ s.utf8ByteSize ≤ maxNameBytes

instance (s : String) : Decidable (ShortName s) := inferInstanceAs (Decidable (_ ∧ _))

/-- Nothing but directories and files stands below the working directory. -/
structure Linkless (t : FileTree) : Prop where
  sound : t.Sound
  workDir : t.get? t.workDir = some .directory
  entry : ∀ names e, t.get? (t.workDir ++ names) = some e → e.plain = true

theorem linkless_of_entries {t : FileTree} (hworkDir : t.get? t.workDir = some .directory)
    (hsound : ∀ entry ∈ t.entries, t.get? entry.1.dropLast = some .directory)
    (hplain : ∀ entry ∈ t.entries, t.workDir <+: entry.1 → entry.2.plain = true) : t.Linkless := by
  refine ⟨sound_of_entries hsound, hworkDir, fun names e he => ?_⟩
  rw [get?] at he
  split at he
  · rw [← Option.some.inj he]
    rfl
  · exact hplain (t.workDir ++ names, e) (mem_of_find he) (List.prefix_append _ _)

/-- Every place on the way down over these names is a directory. -/
def IsOpen (t : FileTree) (here : Location) (names : List String) : Prop :=
  ∀ way, way <+: names → t.get? (here ++ way) = some .directory

/-- A file is in the way. -/
def IsBlocked (t : FileTree) (here : Location) (names : List String) : Prop :=
  ∃ way, way <+: names ∧ ∃ bytes, t.get? (here ++ way) = some (.file bytes)

variable {t t' : FileTree} {here : Location} {names before : List String} {s n : String}

theorem isOpen_nil : t.IsOpen here [] ↔ t.get? here = some .directory := by
  simp [IsOpen]

theorem isOpen_cons : t.IsOpen here (s :: names) ↔
    t.get? here = some .directory ∧ t.IsOpen (here ++ [s]) names := by
  simp only [IsOpen, List.prefix_cons_iff]
  constructor
  · intro h
    refine ⟨by simpa using h [] (.inl rfl), fun way hway => ?_⟩
    simpa using h (s :: way) (.inr ⟨way, rfl, hway⟩)
  · rintro ⟨hhere, h⟩ way (rfl | ⟨rest, rfl, hrest⟩)
    · simpa using hhere
    · simpa using h rest hrest

theorem isOpen_concat : t.IsOpen here (names ++ [n]) ↔
    t.IsOpen here names ∧ t.get? (here ++ (names ++ [n])) = some .directory := by
  simp only [IsOpen, List.prefix_concat_iff]
  constructor
  · exact fun h => ⟨fun way hway => h way (.inr hway), h _ (.inl rfl)⟩
  · rintro ⟨h, hlast⟩ way (rfl | hway)
    · exact hlast
    · exact h way hway

theorem IsOpen.last (h : t.IsOpen here names) : t.get? (here ++ names) = some .directory :=
  h names List.prefix_rfl

/-- A directory at the end of an open way opens it further. -/
theorem IsOpen.put (h : t.IsOpen here names) (hget : t.get? (here ++ (names ++ [n])) = none) :
    (t.put (here ++ (names ++ [n])) .directory).IsOpen here (names ++ [n]) := by
  have hne : here ++ (names ++ [n]) ≠ [] := by simp
  refine isOpen_concat.2 ⟨fun way hway => ?_, by rw [get?_put t hne, if_pos rfl]⟩
  have hway' : here ++ way ≠ here ++ (names ++ [n]) := by
    intro heq
    have hdir := h way hway
    rw [heq, hget] at hdir
    cases hdir
  rw [get?_put t hne, if_neg hway', h way hway]

theorem IsOpen.not_isBlocked (h : t.IsOpen here names) : ¬ t.IsBlocked here names := by
  rintro ⟨way, hway, bytes, hfile⟩
  cases (h way hway).symm.trans hfile

theorem IsBlocked.cons (h : t.IsBlocked (here ++ [s]) names) : t.IsBlocked here (s :: names) := by
  obtain ⟨way, hway, bytes, hfile⟩ := h
  refine ⟨s :: way, ?_, bytes, by simpa using hfile⟩
  exact (List.prefix_cons_inj s).2 hway

theorem IsBlocked.concat (h : t.IsBlocked here names) : t.IsBlocked here (names ++ [n]) := by
  obtain ⟨way, hway, hfile⟩ := h
  exact ⟨way, hway.trans (List.prefix_append _ _), hfile⟩

theorem isBlocked_here {bytes : Bytes} (h : t.get? here = some (.file bytes)) :
    t.IsBlocked here names :=
  ⟨[], List.nil_prefix, bytes, by rwa [List.append_nil]⟩

/-! ## Walks -/

/-- A walk down comes to its end over open ways only; else it misses a name, or a file is in the
way. -/
theorem walk_names (hentry : ∀ more e, t.get? (here ++ more) = some e → e.plain = true)
    {e : Entry} (he : t.get? here = some e) (hnames : ∀ s ∈ names, ShortName s) (links : Nat) :
    t.IsOpen here names ∧ t.walk .existing links here (names ++ ["."]) = .ok (here ++ names) ∨
      ¬ t.IsOpen here names ∧ t.walk .existing links here (names ++ ["."]) = .error .noEntry ∨
      t.IsBlocked here names ∧
        t.walk .existing links here (names ++ ["."]) = .error .notDirectory := by
  induction names generalizing here e with
  | nil =>
    rcases Entry.plain_iff.1 (hentry [] e (by rwa [List.append_nil])) with rfl | ⟨bytes, rfl⟩
    · left
      rw [isOpen_nil, List.nil_append, walk_here he, List.append_nil]
      exact ⟨he, rfl⟩
    · exact .inr (.inr ⟨isBlocked_here he, walk_notDirectory (by simp [he]) _ _ _ _⟩)
  | cons s names ih =>
    obtain ⟨⟨hname, hshort⟩, hnames⟩ := List.forall_mem_cons.1 hnames
    rcases Entry.plain_iff.1 (hentry [] e (by rwa [List.append_nil])) with rfl | ⟨bytes, rfl⟩
    case inr => exact .inr (.inr ⟨isBlocked_here he, walk_notDirectory (by simp [he]) _ _ _ _⟩)
    rw [isOpen_cons, List.cons_append]
    cases hnext : t.get? (here ++ [s]) with
    | none =>
      refine .inr (.inl ⟨fun hopen => ?_, walk_missing he hname hshort _ _ hnext⟩)
      cases hnext.symm.trans (isOpen_nil.1 fun way hway => hopen.2 way (hway.trans List.nil_prefix))
    | some e' =>
      have hbelow : ∀ more e, t.get? (here ++ [s] ++ more) = some e → e.plain = true :=
        fun more e hmore => hentry (s :: more) e (by simpa using hmore)
      have hlink : ∀ target, e' ≠ .link target := by
        rcases Entry.plain_iff.1 (hentry [s] e' hnext) with rfl | ⟨bytes, rfl⟩ <;> simp
      have hdown := ih hbelow hnext hnames
      rw [List.append_assoc, List.singleton_append] at hdown
      rw [walk_past he hname hshort _ _ hnext hlink]
      refine hdown.imp (.imp_left (.intro he)) (.imp (.imp_left fun hopen h => ?_) ?_)
      · exact hopen h.2
      · exact .imp_left .cons

/-! ## Places -/

theorem Linkless.makes {p : Path} (h : t.Linkless) (hmakes : Makes p t t') : t'.Linkless := by
  refine ⟨hmakes.sound h.sound, ?_, fun names e he => ?_⟩
  · rw [hmakes.keeps.1]
    exact hmakes.get?_of_some h.workDir
  · rw [hmakes.keeps.1] at he
    rcases hmakes.entry (t.workDir ++ names) with heq | ⟨-, hdir, -⟩
    · exact h.entry names e (heq ▸ he)
    · rw [← Option.some.inj (hdir.symm.trans he)]
      rfl

theorem refused_eq_none {p : Path} : refused? p = none ↔
    p.hasNul = false ∧ p.isEmpty = false ∧ p.text.utf8ByteSize < maxPathBytes := by
  rw [refused?]
  cases p.hasNul <;> cases p.isEmpty <;> simp

theorem isEmpty_of_size_pos {p : Path} (h : 0 < p.text.utf8ByteSize) : p.isEmpty = false := by
  rw [Path.isEmpty, ← Bool.not_eq_true, String.isEmpty_iff, ← String.utf8ByteSize_eq_zero_iff]
  omega

theorem size_pos_of_isName (h : IsName n) : 0 < n.utf8ByteSize := by
  rw [Nat.pos_iff_ne_zero, Ne, String.utf8ByteSize_eq_zero_iff]
  exact Path.ne_empty_of_isName h

/-- The directory of a path that no operation refuses is not refused. -/
theorem refused_above (hbefore : ∀ s ∈ before, IsName s) (hne : before ≠ [])
    (h : refused? (relative (before ++ [n])) = none) : refused? (relative before) = none := by
  obtain ⟨hnul, -, hsize⟩ := refused_eq_none.1 h
  rw [Path.size_text_concat] at hsize
  refine refused_eq_none.2 ⟨?_, isEmpty_of_size_pos ?_, by omega⟩
  · rw [Path.hasNul, List.any_append, Bool.or_eq_false_iff] at hnul
    exact hnul.1
  · obtain ⟨init, s, rfl⟩ := (List.eq_nil_or_concat before).resolve_left hne
    rw [List.concat_eq_append, Path.size_text_concat]
    have := size_pos_of_isName (hbefore s (by simp))
    omega

section Place
variable (h : t.Linkless) (hbefore : ∀ s ∈ before, ShortName s) (hn : IsName n)
  (hrefused : refused? (relative (before ++ [n])) = none)
include h hbefore hn hrefused

/-- A path down names a place in the directory that its way comes to. -/
theorem slot_names :
    t.IsOpen t.workDir before ∧
      t.slot (relative (before ++ [n])) = .ok ⟨t.workDir ++ before, n, false⟩ ∨
    ¬ t.IsOpen t.workDir before ∧
      t.slot (relative (before ++ [n])) = .error (.system .noEntry) ∨
    t.IsBlocked t.workDir before ∧
      t.slot (relative (before ++ [n])) = .error (.system .notDirectory) := by
  rw [slot_of_last hrefused rfl (Path.ne_empty_of_isName hn) (by simp), follow]
  have hstart : t.start (relative (before ++ [n])) = t.workDir := rfl
  rw [hstart]
  rcases walk_names h.entry h.workDir hbefore maxLinks with
    ⟨hopen, hwalk⟩ | ⟨hopen, hwalk⟩ | ⟨hblocked, hwalk⟩
  · exact .inl ⟨hopen, by rw [hwalk]; rfl⟩
  · exact .inr (.inl ⟨hopen, by rw [hwalk]; rfl⟩)
  · exact .inr (.inr ⟨hblocked, by rw [hwalk]; rfl⟩)

theorem slot_of_isOpen (hopen : t.IsOpen t.workDir before) :
    t.slot (relative (before ++ [n])) = .ok ⟨t.workDir ++ before, n, false⟩ := by
  rcases slot_names h hbefore hn hrefused with ⟨-, hslot⟩ | ⟨hclosed, -⟩ | ⟨hblocked, -⟩
  · exact hslot
  · exact absurd hopen hclosed
  · exact absurd hblocked hopen.not_isBlocked

end Place

/-- A path down names a place only over an open way. -/
theorem isOpen_of_slot (h : t.Linkless) (hbefore : ∀ s ∈ before, ShortName s) (hn : IsName n)
    {place : Slot} (hslot : t.slot (relative (before ++ [n])) = .ok place) :
    t.IsOpen t.workDir before ∧ place = ⟨t.workDir ++ before, n, false⟩ := by
  rcases slot_names h hbefore hn (refused_of_slot hslot) with
    ⟨hopen, heq⟩ | ⟨-, heq⟩ | ⟨-, heq⟩
  · exact ⟨hopen, Except.ok.inj (hslot.symm.trans heq)⟩
  · cases hslot.symm.trans heq
  · cases hslot.symm.trans heq

/-! ## Making directories -/

theorem not_isBlocked_of_makes {p : Path} (hmakes : Makes p t t')
    (hfree : ¬ t.IsBlocked t.workDir names) : ¬ t'.IsBlocked t'.workDir names := by
  rintro ⟨way, hway, bytes, hfile⟩
  rw [hmakes.keeps.1] at hfile
  rcases hmakes.entry (t.workDir ++ way) with heq | ⟨-, hdir, -⟩
  · exact hfree ⟨way, hway, bytes, heq ▸ hfile⟩
  · cases hfile.symm.trans hdir

/-- A directory is made, or it is there already. -/
def Arrives (t t' : FileTree) (p : Path) : Prop :=
  t.makeDir p = .ok t' ∨
    t.makeDir p = .error (.system .alreadyExists) ∧ t.isDir p = true ∧ t' = t

section Arrives
variable {p parent : Path} {steps : Nat} {t₁ : FileTree} (hempty : p.isEmpty = false)
include hempty

theorem makeDirsIn_of_arrives (h : t.Arrives t' p) :
    makeDirsIn (steps + 1) t p = (none, t') := by
  rw [makeDirsIn, hempty, if_neg Bool.false_ne_true]
  rcases h with hmade | ⟨hmade, hdir, rfl⟩
  · rw [hmade]
  · simp only [hmade, hdir, if_true]
    rfl

/-- Where a directory above is missing, the ones above are made first. -/
theorem makeDirsIn_of_missing (hmissing : t.makeDir p = .error (.system .noEntry))
    (hparent : p.parent? = some parent) (hparents : makeDirsIn steps t parent = (none, t₁))
    (h : t₁.Arrives t' p) : makeDirsIn (steps + 1) t p = (none, t') := by
  rw [makeDirsIn, hempty, if_neg Bool.false_ne_true]
  rcases h with hmade | ⟨hmade, hdir, rfl⟩
  · simp [hmissing, hparent, hparents, hmade]
  · simp [hmissing, hparent, hparents, hmade, hdir]

end Arrives

/-- In an open directory, a directory is made or there already, unless a file is in the way. -/
theorem arrives_of_isOpen (h : t.Linkless) (hnames : ∀ s ∈ before ++ [n], ShortName s)
    (hrefused : refused? (relative (before ++ [n])) = none) (hopen : t.IsOpen t.workDir before)
    (hfree : ¬ t.IsBlocked t.workDir (before ++ [n])) :
    ∃ t', t.Arrives t' (relative (before ++ [n])) ∧ t'.IsOpen t.workDir (before ++ [n]) := by
  have hbefore : ∀ s ∈ before, ShortName s := fun s hs => hnames s (List.mem_append_left _ hs)
  obtain ⟨hn, hshort⟩ : ShortName n := hnames n (by simp)
  have hslot := slot_of_isOpen h hbefore hn hrefused hopen
  have hnamed : (⟨t.workDir ++ before, n, false⟩ : Slot).named = true := named_of_isName hn
  have hplace : (⟨t.workDir ++ before, n, false⟩ : Slot).location = t.workDir ++ (before ++ [n]) :=
    List.append_assoc _ _ _
  cases hget : t.get? (t.workDir ++ (before ++ [n])) with
  | none =>
    have hmade := makeDir_of_free hslot hnamed hshort (by rw [hplace, hget])
    rw [hplace] at hmade
    exact ⟨_, .inl hmade, hopen.put hget⟩
  | some e =>
    rcases Entry.plain_iff.1 (h.entry (before ++ [n]) e hget) with rfl | ⟨bytes, rfl⟩
    · have hthere := isOpen_concat.2 ⟨hopen, hget⟩
      rw [← hplace] at hget
      have hresolve := resolve_existing hslot hnamed rfl hshort hget (by simp)
      have hdir : t.isDir (relative (before ++ [n])) = true := by simp [isDir, hresolve, hget]
      exact ⟨t, .inr ⟨makeDir_of_taken hslot hnamed hshort hget, hdir, rfl⟩, hthere⟩
    · exact absurd ⟨before ++ [n], List.prefix_rfl, bytes, hget⟩ hfree

/-- The directories of a path down are made from above, unless a file is in the way. -/
theorem makeDirsIn_opens (h : t.Linkless) {steps : Nat} (hnames : ∀ s ∈ names, ShortName s)
    (hrefused : names ≠ [] → refused? (relative names) = none)
    (hfree : ¬ t.IsBlocked t.workDir names) (hsteps : names.length < steps) :
    ∃ t', makeDirsIn steps t (relative names) = (none, t') ∧ t'.IsOpen t.workDir names := by
  induction steps generalizing names with
  | zero => exact absurd hsteps (Nat.not_lt_zero _)
  | succ steps ih =>
    rcases List.eq_nil_or_concat names with rfl | ⟨before, n, rfl⟩
    · exact ⟨t, by rw [makeDirsIn]; rfl, isOpen_nil.2 h.workDir⟩
    rw [List.concat_eq_append] at *
    have hbefore : ∀ s ∈ before, ShortName s := fun s hs => hnames s (List.mem_append_left _ hs)
    obtain ⟨hn, -⟩ : ShortName n := hnames n (by simp)
    have hrefused := hrefused (List.concat_ne_nil _ _)
    have hempty := (refused_eq_none.1 hrefused).2.1
    rcases slot_names h hbefore hn hrefused with ⟨hopen, -⟩ | ⟨-, hslot⟩ | ⟨hblocked, -⟩
    · obtain ⟨t', harrives, hopen'⟩ := arrives_of_isOpen h hnames hrefused hopen hfree
      exact ⟨t', makeDirsIn_of_arrives hempty harrives, hopen'⟩
    · have hmissing : t.makeDir (relative (before ++ [n])) = .error (.system .noEntry) := by
        rw [makeDir, hslot]
        rfl
      have hrefused' (hne : before ≠ []) : refused? (relative before) = none :=
        refused_above (fun s hs => (hbefore s hs).1) hne hrefused
      have hparent := Path.parent_of_names fun s hs => (hnames s hs).1
      rw [List.length_append, List.length_singleton] at hsteps
      obtain ⟨t₁, hparents, hopen⟩ :=
        ih hbefore hrefused' (fun hblocked => hfree hblocked.concat) (by omega)
      -- the directories above are there now, and no file has come into the way
      have hmakes := makes_makeDirsIn steps t (relative before)
      rw [hparents] at hmakes
      rw [← hmakes.keeps.1] at hopen
      obtain ⟨t', harrives, hopen'⟩ := arrives_of_isOpen (h.makes hmakes) hnames hrefused hopen
        (not_isBlocked_of_makes hmakes hfree)
      rw [hmakes.keeps.1] at hopen'
      exact ⟨t', makeDirsIn_of_missing hempty hmissing hparent hparents harrives, hopen'⟩
    · exact absurd hblocked.concat hfree

/-- Directories made for a path down stand on its way. -/
theorem way_of_isPlaceOf (h : t.Linkless) (hnames : ∀ s ∈ names, ShortName s) {place : Location}
    (hplace : t.IsPlaceOf (relative names) place) :
    ∃ way, way <+: names ∧ place = t.workDir ++ way := by
  obtain ⟨⟨rooted, segments⟩, s, rfl, hsegments, hslot, -, rfl⟩ := hplace
  rcases List.eq_nil_or_concat segments with rfl | ⟨before, n, rfl⟩
  · have hempty : refused? (relative []) = some (.system .noEntry) := by decide
    cases hempty.symm.trans (refused_of_slot hslot)
  rw [List.concat_eq_append] at hsegments hslot
  have hmem (m : String) (hm : m ∈ before ++ [n]) : ShortName m :=
    hnames m (hsegments.subset hm)
  obtain ⟨-, rfl⟩ := isOpen_of_slot h (fun m hm => hmem m (List.mem_append_left _ hm))
    (hmem n (by simp)).1 hslot
  exact ⟨before ++ [n], hsegments, List.append_assoc _ _ _⟩

/-- Nothing changes beside the way. -/
theorem get?_of_makes (h : t.Linkless) (hnames : ∀ s ∈ names, ShortName s)
    (hmakes : Makes (relative names) t t') {l : Location}
    (hl : ∀ way, way <+: names → l ≠ t.workDir ++ way) : t'.get? l = t.get? l := by
  rcases hmakes.entry l with heq | ⟨-, -, hplace⟩
  · exact heq
  · obtain ⟨way, hway, rfl⟩ := way_of_isPlaceOf (h.makes hmakes) hnames hplace
    rw [hmakes.keeps.1] at hl
    exact absurd rfl (hl way hway)

theorem get?_below_of_makes (h : t.Linkless) (hnames : ∀ s ∈ names, ShortName s)
    (hmakes : Makes (relative names) t t') (m : String) :
    t'.get? (t.workDir ++ names ++ [m]) = t.get? (t.workDir ++ names ++ [m]) := by
  refine get?_of_makes h hnames hmakes fun way hway heq => ?_
  rw [List.append_assoc, List.append_cancel_left_eq] at heq
  have hlength := hway.length_le
  rw [← heq, List.length_append, List.length_singleton] at hlength
  omega

end FileTree
end RateCard
