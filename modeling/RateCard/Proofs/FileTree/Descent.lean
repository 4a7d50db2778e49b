import RateCard.Proofs.FileTree.Overlay

/-!
# Ways down that are stopped

Where there are only directories and files, a way down over names is stopped by the first name that
is too long and by the first file. Making directories makes those up to there, and ends in the fault
that stops the way.
-/
namespace RateCard.FileTree
open RateCard.Path (IsName relative)
open RateCard.Text (Bytes)

/-! ## What stops a way -/

/-- What stops a way down over these names. Where nothing stands, a directory can be made. -/
def stop? (t : FileTree) (here : Location) : List String → Option Errno
  | [] => none
  | s :: rest =>
    if maxNameBytes < s.utf8ByteSize then some .nameTooLong
    else
      match t.get? (here ++ [s]) with
      | some (.file _) => some (if rest = [] then .alreadyExists else .notDirectory)
      | _ => stop? t (here ++ [s]) rest

/-- The names in front of the one that stops the way. -/
def passed (t : FileTree) (here : Location) : List String → List String
  | [] => []
  | s :: rest =>
    if maxNameBytes < s.utf8ByteSize then []
    else
      match t.get? (here ++ [s]) with
      | some (.file _) => []
      | _ => s :: passed t (here ++ [s]) rest

variable {t t' : FileTree} {here : Location} {names before : List String} {s n : String}

/-- A way is stopped at a name, or it goes on. -/
theorem stop_cases (t : FileTree) (here : Location) (s : String) :
    maxNameBytes < s.utf8ByteSize ∨ s.utf8ByteSize ≤ maxNameBytes ∧
      ((∃ bytes, t.get? (here ++ [s]) = some (.file bytes)) ∨
        ∀ bytes, t.get? (here ++ [s]) ≠ some (.file bytes)) := by
  by_cases hlong : maxNameBytes < s.utf8ByteSize
  · exact .inl hlong
  by_cases hfile : ∃ bytes, t.get? (here ++ [s]) = some (.file bytes)
  · exact .inr ⟨by omega, .inl hfile⟩
  · exact .inr ⟨by omega, .inr (not_exists.1 hfile)⟩

theorem stop_long (h : maxNameBytes < s.utf8ByteSize) (rest : List String) :
    t.stop? here (s :: rest) = some .nameTooLong ∧ t.passed here (s :: rest) = [] := by
  rw [stop?, passed, if_pos h, if_pos h]
  exact ⟨rfl, rfl⟩

section Short
variable (hshort : s.utf8ByteSize ≤ maxNameBytes)
include hshort

theorem stop_file {bytes : Bytes} (h : t.get? (here ++ [s]) = some (.file bytes))
    (rest : List String) :
    t.stop? here (s :: rest) = some (if rest = [] then .alreadyExists else .notDirectory) ∧
      t.passed here (s :: rest) = [] := by
  have hnot := Nat.not_lt.2 hshort
  rw [stop?, passed, if_neg hnot, if_neg hnot, h]
  exact ⟨rfl, rfl⟩

theorem stop_pass (h : ∀ bytes, t.get? (here ++ [s]) ≠ some (.file bytes)) (rest : List String) :
    t.stop? here (s :: rest) = t.stop? (here ++ [s]) rest ∧
      t.passed here (s :: rest) = s :: t.passed (here ++ [s]) rest := by
  have hnot := Nat.not_lt.2 hshort
  rw [stop?, passed, if_neg hnot, if_neg hnot]
  split
  next bytes hget => exact absurd hget (h bytes)
  · exact ⟨rfl, rfl⟩

end Short

/-- Behind names that stop no way it goes on. -/
theorem stop_append (h : t.stop? here names = none) (more : List String) :
    t.stop? here (names ++ more) = t.stop? (here ++ names) more ∧
      t.passed here (names ++ more) = names ++ t.passed (here ++ names) more := by
  induction names generalizing here with
  | nil => simp
  | cons s names ih =>
    rcases stop_cases t here s with hlong | ⟨hshort, ⟨bytes, hfile⟩ | hpass⟩
    · cases h.symm.trans (stop_long hlong names).1
    · cases h.symm.trans (stop_file hshort hfile names).1
    · rw [(stop_pass hshort hpass _).1] at h
      rw [List.cons_append, (stop_pass hshort hpass _).1, (stop_pass hshort hpass _).2]
      obtain ⟨hstop, hpassed⟩ := ih h
      rw [hstop, hpassed, List.append_assoc]
      exact ⟨rfl, rfl⟩

theorem passed_eq_self (h : t.stop? here names = none) : t.passed here names = names := by
  have := (stop_append h []).2
  rwa [List.append_nil, passed, List.append_nil] at this

theorem stop_append_of_long (h : t.stop? here names = some .nameTooLong) (more : List String) :
    t.stop? here (names ++ more) = some .nameTooLong ∧
      t.passed here (names ++ more) = t.passed here names := by
  induction names generalizing here with
  | nil => cases h
  | cons s names ih =>
    rw [List.cons_append]
    rcases stop_cases t here s with hlong | ⟨hshort, ⟨bytes, hfile⟩ | hpass⟩
    · rw [(stop_long hlong _).1, (stop_long hlong _).2, (stop_long hlong _).2]
      exact ⟨rfl, rfl⟩
    · rw [(stop_file hshort hfile names).1, Option.some.injEq] at h
      split at h <;> cases h
    · rw [(stop_pass hshort hpass _).1] at h
      rw [(stop_pass hshort hpass _).1, (stop_pass hshort hpass _).2, (stop_pass hshort hpass _).2,
        (ih h).2]
      exact ⟨(ih h).1, rfl⟩

theorem passed_initial (t : FileTree) (here : Location) (names : List String) :
    t.passed here names <+: names := by
  induction names generalizing here with
  | nil => exact List.prefix_rfl
  | cons s names ih =>
    rcases stop_cases t here s with hlong | ⟨hshort, ⟨bytes, hfile⟩ | hpass⟩
    · rw [(stop_long hlong _).2]
      exact List.nil_prefix
    · rw [(stop_file hshort hfile _).2]
      exact List.nil_prefix
    · rw [(stop_pass hshort hpass _).2]
      exact (List.prefix_cons_inj s).2 (ih _)

/-- No file is passed. -/
theorem passed_free (hhere : ∀ bytes, t.get? here ≠ some (.file bytes)) {way : List String}
    (h : way <+: t.passed here names) (bytes : Bytes) :
    t.get? (here ++ way) ≠ some (.file bytes) := by
  induction names generalizing here way with
  | nil =>
    rw [List.prefix_nil.1 h, List.append_nil]
    exact hhere bytes
  | cons s names ih =>
    rcases List.eq_nil_or_concat way with rfl | ⟨init, last, hway⟩
    · rw [List.append_nil]
      exact hhere bytes
    rcases stop_cases t here s with hlong | ⟨hshort, ⟨bytes, hfile⟩ | hpass⟩
    · rw [(stop_long hlong names).2] at h
      exact absurd (List.prefix_nil.1 h) (by simp [hway])
    · rw [(stop_file hshort hfile names).2] at h
      exact absurd (List.prefix_nil.1 h) (by simp [hway])
    · rw [(stop_pass hshort hpass names).2, List.prefix_cons_iff] at h
      rcases h with hnil | ⟨rest, rfl, hrest⟩
      · exact absurd hnil (by simp [hway])
      · rw [List.append_cons]
        exact ih hpass hrest

theorem short_of_stop (h : t.stop? here names = none) :
    ∀ s ∈ names, s.utf8ByteSize ≤ maxNameBytes := by
  induction names generalizing here with
  | nil => simp
  | cons s names ih =>
    rcases stop_cases t here s with hlong | ⟨hshort, ⟨bytes, hfile⟩ | hpass⟩
    · cases h.symm.trans (stop_long hlong names).1
    · cases h.symm.trans (stop_file hshort hfile names).1
    · rw [(stop_pass hshort hpass names).1] at h
      exact List.forall_mem_cons.2 ⟨hshort, ih h⟩

/-- A way is stopped in the same way in a tree where directories have been made on it. -/
theorem stop_congr (h : ∀ way, way <+: names → t'.get? (here ++ way) = t.get? (here ++ way) ∨
      t.get? (here ++ way) = none ∧ t'.get? (here ++ way) = some .directory) :
    t'.stop? here names = t.stop? here names ∧ t'.passed here names = t.passed here names := by
  induction names generalizing here with
  | nil => exact ⟨rfl, rfl⟩
  | cons s names ih =>
    have hlater : ∀ way, way <+: names →
        t'.get? (here ++ [s] ++ way) = t.get? (here ++ [s] ++ way) ∨
          t.get? (here ++ [s] ++ way) = none ∧ t'.get? (here ++ [s] ++ way) = some .directory := by
      intro way hway
      rw [← List.append_cons]
      exact h (s :: way) ((List.prefix_cons_inj s).2 hway)
    have hfirst := h [s] ((List.prefix_cons_inj s).2 List.nil_prefix)
    have hfiles (bytes : Bytes) : t'.get? (here ++ [s]) = some (.file bytes) ↔
        t.get? (here ++ [s]) = some (.file bytes) := by
      rcases hfirst with heq | ⟨hnone, hdir⟩
      · rw [heq]
      · simp [hnone, hdir]
    rcases stop_cases t here s with hlong | ⟨hshort, ⟨bytes, hfile⟩ | hpass⟩
    · rw [(stop_long hlong _).1, (stop_long hlong _).2, (stop_long hlong _).1,
        (stop_long hlong _).2]
      exact ⟨rfl, rfl⟩
    · have hfile' := (hfiles bytes).2 hfile
      rw [(stop_file hshort hfile _).1, (stop_file hshort hfile _).2, (stop_file hshort hfile' _).1,
        (stop_file hshort hfile' _).2]
      exact ⟨rfl, rfl⟩
    · have hpass' (bytes : Bytes) := mt (hfiles bytes).1 (hpass bytes)
      rw [(stop_pass hshort hpass _).1, (stop_pass hshort hpass _).2, (stop_pass hshort hpass' _).1,
        (stop_pass hshort hpass' _).2, (ih hlater).1, (ih hlater).2]
      exact ⟨rfl, rfl⟩

/-! ## Walks that are stopped -/

theorem Sound.beyond (h : t.Sound) (hnone : t.get? here = none) (more : List String) :
    t.get? (here ++ more) = none := by
  induction more generalizing here with
  | nil => rwa [List.append_nil]
  | cons s more ih =>
    rw [List.append_cons]
    exact ih (h.below (by simp [hnone]) s)

/-- Where nothing stands, only a name that is too long can stop a way. -/
theorem stop_of_missing (h : t.Sound) (hnone : t.get? here = none) (names : List String) :
    t.stop? here names = none ∨ t.stop? here names = some .nameTooLong := by
  induction names generalizing here with
  | nil => exact .inl rfl
  | cons s names ih =>
    have hnext := h.below (l := here) (by simp [hnone]) s
    rcases stop_cases t here s with hlong | ⟨hshort, ⟨bytes, hfile⟩ | hpass⟩
    · exact .inr (stop_long hlong _).1
    · cases hnext.symm.trans hfile
    · rw [(stop_pass hshort hpass _).1]
      exact ih hnext

/-- What comes of a way down over names: the end of an open way, or the miss of a name, behind which
only a name that is too long stops the way, or the fault that stops the way before its last name. -/
inductive Descent (t : FileTree) (here : Location) (names : List String) :
    Except Errno Location → Prop
  | arrived : t.IsOpen here names → t.stop? here names = none →
      Descent t here names (.ok (here ++ names))
  | missed : t.get? (here ++ names) = none →
      t.stop? here names = none ∨ t.stop? here names = some .nameTooLong →
      Descent t here names (.error .noEntry)
  | stopped {e : Errno} : e ≠ .noEntry →
      (∀ n, t.stop? here (names ++ [n]) = some e ∧
        t.IsOpen here (t.passed here (names ++ [n]))) →
      Descent t here names (.error e)

/-- A name that is passed in a directory is put before the way. -/
theorem Descent.cons {result : Except Errno Location} (h : Descent t (here ++ [s]) names result)
    (hhere : t.get? here = some .directory) (hshort : s.utf8ByteSize ≤ maxNameBytes)
    (hpass : ∀ bytes, t.get? (here ++ [s]) ≠ some (.file bytes)) :
    Descent t here (s :: names) result := by
  have hstop := stop_pass hshort hpass
  cases h with
  | arrived hopen hnone =>
    rw [← List.append_cons]
    exact .arrived (isOpen_cons.2 ⟨hhere, hopen⟩) ((hstop names).1.trans hnone)
  | missed hmissing hlong =>
    rw [← List.append_cons] at hmissing
    rw [← (hstop names).1] at hlong
    exact .missed hmissing hlong
  | stopped he hfault =>
    refine .stopped he fun n => ?_
    rw [List.cons_append, (hstop _).1, (hstop _).2, isOpen_cons]
    exact ⟨(hfault n).1, hhere, (hfault n).2⟩

theorem walk_descent (h : t.Sound)
    (hentry : ∀ more e, t.get? (here ++ more) = some e → e.plain = true)
    (hhere : t.get? here = some .directory) (hnames : ∀ s ∈ names, IsName s) (links : Nat) :
    Descent t here names (t.walk .existing links here (names ++ ["."])) := by
  induction names generalizing here with
  | nil =>
    rw [List.nil_append, walk_here hhere]
    have harrived := Descent.arrived (isOpen_nil.2 hhere) (rfl : t.stop? here [] = none)
    rwa [List.append_nil] at harrived
  | cons s names ih =>
    obtain ⟨hname, hnames⟩ := List.forall_mem_cons.1 hnames
    rw [List.cons_append]
    rcases stop_cases t here s with hlong | ⟨hshort, ⟨bytes, hfile⟩ | hpass⟩
    · rw [walk_name hhere .existing links hname.1 hname.2 (.inl rfl), if_pos hlong]
      refine .stopped (by decide) fun n => ?_
      rw [List.cons_append, (stop_long hlong _).1, (stop_long hlong _).2]
      exact ⟨rfl, isOpen_nil.2 hhere⟩
    · obtain ⟨r, rest, hrest⟩ := List.exists_cons_of_ne_nil (List.concat_ne_nil "." names)
      rw [walk_past hhere hname hshort _ _ hfile (by simp), hrest,
        walk_notDirectory (by simp [hfile])]
      refine .stopped (by decide) fun n => ?_
      rw [List.cons_append, (stop_file hshort hfile _).1, (stop_file hshort hfile _).2,
        if_neg (by simp)]
      exact ⟨rfl, isOpen_nil.2 hhere⟩
    · refine Descent.cons ?_ hhere hshort hpass
      cases hget : t.get? (here ++ [s]) with
      | none =>
        rw [walk_missing hhere hname hshort _ _ hget]
        exact .missed (h.beyond hget names) (stop_of_missing h hget names)
      | some e =>
        rcases Entry.plain_iff.1 (hentry [s] e hget) with rfl | ⟨bytes, rfl⟩
        case inr => exact absurd hget (hpass bytes)
        rw [walk_past hhere hname hshort _ _ hget (by simp)]
        exact ih (fun more e hmore => hentry (s :: more) e (by simpa using hmore)) hget hnames

/-- The place of a path down is found in the directory that its way comes to. -/
theorem slot_descent (h : t.Linkless) (hbefore : ∀ s ∈ before, IsName s) (hn : IsName n)
    (hrefused : refused? (relative (before ++ [n])) = none) :
    ∃ result, Descent t t.workDir before result ∧ t.slot (relative (before ++ [n])) =
      match result with
      | .ok directory => .ok ⟨directory, n, false⟩
      | .error e => .error (.system e) := by
  refine ⟨_, walk_descent h.sound h.entry h.workDir hbefore maxLinks, ?_⟩
  have hstart : t.start (relative (before ++ [n])) = t.workDir := rfl
  rw [slot_of_last hrefused rfl (Path.ne_empty_of_isName hn) (by simp), follow, hstart]
  cases t.walk .existing maxLinks t.workDir (before ++ ["."]) <;> rfl

/-! ## Making directories -/

theorem isDir_of_fault {p : Path} {fault : IoFault} (h : t.slot p = .error fault) :
    t.isDir p = false := by
  rw [isDir]
  cases hresolve : t.resolve .existing p with
  | error _ => rfl
  | ok place =>
    obtain ⟨slot, hslot⟩ := slot_of_resolve hresolve
    cases h.symm.trans hslot

theorem isDir_of_slot {p : Path} {slot : Slot} {e : Entry} (h : t.slot p = .ok slot)
    (hnamed : slot.named = true) (hslash : slot.slash = false)
    (hshort : slot.last.utf8ByteSize ≤ maxNameBytes) (he : t.get? slot.location = some e)
    (hlink : ∀ target, e ≠ .link target) : t.isDir p = (some e == some .directory) := by
  rw [isDir, resolve_existing h hnamed hslash hshort he hlink]
  simp only [he]

theorem isDir_of_long {p : Path} {slot : Slot} (h : t.slot p = .ok slot)
    (hnamed : slot.named = true) (hlong : maxNameBytes < slot.last.utf8ByteSize) :
    t.isDir p = false := by
  obtain ⟨before, slashes, heq, -, -, hwalk, -⟩ := slot_named h hnamed
  obtain ⟨hdir, left, hon⟩ := walk_of_reached hwalk
  have hname := isName_of_named hnamed
  have hgoes : GoesOn (slot.last :: slashes) := ⟨slot.last, by simp, Path.ne_empty_of_isName hname⟩
  have hfollow : t.follow .existing (t.start p) p.segments = .error (.system .nameTooLong) := by
    rw [follow, heq, hon .existing _ hgoes,
      walk_name hdir .existing left hname.1 hname.2 (.inl rfl), if_pos hlong]
    rfl
  rw [isDir, resolve, refused_of_slot h]
  simp only [hfollow]

/-- A directory is made, which is no fault if it is there already. -/
def arrive (t : FileTree) (p : Path) : Option IoFault × FileTree :=
  match t.makeDir p with
  | .ok t => (none, t)
  | .error fault => (if t.isDir p then none else some fault, t)

section Steps
variable {p parent : Path} (hempty : p.isEmpty = false) (steps : Nat)
include hempty

theorem makeDirsIn_of_ne (h : t.makeDir p ≠ .error (.system .noEntry)) :
    makeDirsIn (steps + 1) t p = t.arrive p := by
  rw [makeDirsIn, hempty, if_neg Bool.false_ne_true, arrive]
  cases hmade : t.makeDir p with
  | ok t' => rfl
  | error fault =>
    have hne : fault ≠ .system .noEntry := fun heq => h (by rw [hmade, heq])
    simp only [if_pos hne]

theorem makeDirsIn_of_noEntry (h : t.makeDir p = .error (.system .noEntry))
    (hparent : p.parent? = some parent) :
    makeDirsIn (steps + 1) t p =
      match makeDirsIn steps t parent with
      | (some fault, t) => (some fault, t)
      | (none, t) => t.arrive p := by
  rw [makeDirsIn, hempty, if_neg Bool.false_ne_true, h]
  simp only [ne_eq, not_true_eq_false, if_false, hparent]
  rfl

end Steps

section Last
variable (h : t.Linkless) (hn : IsName n)
  (hslot : t.slot (relative (before ++ [n])) = .ok ⟨t.workDir ++ before, n, false⟩)
include h hn hslot

/-- Where something stands no directory is made, and only a directory is found. -/
theorem arrive_taken (hshort : n.utf8ByteSize ≤ maxNameBytes) {e : Entry}
    (he : t.get? (t.workDir ++ (before ++ [n])) = some e) :
    t.makeDir (relative (before ++ [n])) ≠ .error (.system .noEntry) ∧
      t.arrive (relative (before ++ [n])) =
        (if e = .directory then none else some (.system .alreadyExists), t) := by
  have hnamed : (⟨t.workDir ++ before, n, false⟩ : Slot).named = true := named_of_isName hn
  have hlink : ∀ target, e ≠ .link target := by
    rcases Entry.plain_iff.1 (h.entry (before ++ [n]) e he) with rfl | ⟨bytes, rfl⟩ <;> simp
  rw [← List.append_assoc] at he
  have hmade := makeDir_of_taken hslot hnamed hshort he
  rw [arrive, hmade, isDir_of_slot hslot hnamed rfl hshort he hlink]
  exact ⟨by simp [Errno.alreadyExists, Errno.noEntry], by simp⟩

variable (hopen : t.IsOpen t.workDir before)
include hopen

/-- At the end of an open way a directory is made or found, unless the way is stopped there. -/
theorem arrive_open : t.makeDir (relative (before ++ [n])) ≠ .error (.system .noEntry) ∧
    ∃ t', t.arrive (relative (before ++ [n])) =
        ((t.stop? (t.workDir ++ before) [n]).map .system, t') ∧
      Overlaid t t' (opening t.workDir (before ++ t.passed (t.workDir ++ before) [n])) := by
  have hnamed : (⟨t.workDir ++ before, n, false⟩ : Slot).named = true := named_of_isName hn
  rcases stop_cases t (t.workDir ++ before) n with hlong | ⟨hshort, ⟨bytes, hfile⟩ | hpass⟩
  · have hmade : t.makeDir (relative (before ++ [n])) = .error (.system .nameTooLong) := by
      simp [makeDir, hslot, hnamed, lookUp, hlong]
    rw [(stop_long hlong _).1, (stop_long hlong _).2, List.append_nil, arrive, hmade,
      isDir_of_long hslot hnamed hlong]
    exact ⟨by simp [Errno.nameTooLong, Errno.noEntry], t, rfl, overlaid_of_isOpen hopen⟩
  · rw [(stop_file hshort hfile _).1, (stop_file hshort hfile _).2, List.append_nil]
    rw [List.append_assoc] at hfile
    obtain ⟨hmade, harrive⟩ := arrive_taken h hn hslot hshort hfile
    exact ⟨hmade, t, harrive, overlaid_of_isOpen hopen⟩
  · rw [(stop_pass hshort hpass _).1, (stop_pass hshort hpass _).2, stop?, passed]
    rw [List.append_assoc] at hpass
    cases hget : t.get? (t.workDir ++ (before ++ [n])) with
    | none =>
      have hmade := makeDir_of_free hslot hnamed hshort (by rwa [Slot.location, List.append_assoc])
      rw [Slot.location, List.append_assoc] at hmade
      exact ⟨by simp [hmade], _, by rw [arrive, hmade]; rfl, overlaid_put hopen⟩
    | some e =>
      rcases Entry.plain_iff.1 (h.entry (before ++ [n]) e hget) with rfl | ⟨bytes, rfl⟩
      case inr => exact absurd hget (hpass bytes)
      obtain ⟨hmade, harrive⟩ := arrive_taken h hn hslot hshort hget
      exact ⟨hmade, t, harrive, overlaid_of_isOpen (isOpen_concat.2 ⟨hopen, hget⟩)⟩

end Last

/-- Where the directories above were missing and have been made, nothing has come to stand in
them. -/
theorem arrive_further {t₁ : FileTree} (hbefore : ∀ s ∈ before, IsName s)
    (hn : IsName n) (hrefused : refused? (relative (before ++ [n])) = none)
    (hstop : t.stop? t.workDir before = none) (hnone : t.get? (t.workDir ++ before) = none)
    (h₁ : t₁.Linkless) (habove : Overlaid t t₁ (opening t.workDir before)) :
    ∃ t', t₁.arrive (relative (before ++ [n])) =
        ((t.stop? t.workDir (before ++ [n])).map .system, t') ∧
      Overlaid t t' (opening t.workDir (t.passed t.workDir (before ++ [n]))) := by
  have hshort : ∀ s ∈ before, ShortName s := fun s hs => ⟨hbefore s hs, short_of_stop hstop s hs⟩
  obtain ⟨-, t', harrive, hmade⟩ := arrive_open h₁ hn
    (slot_of_isOpen h₁ hshort hn hrefused habove.isOpen) habove.isOpen
  have hlast : ∀ way, way <+: [n] →
      t₁.get? (t.workDir ++ before ++ way) = t.get? (t.workDir ++ before ++ way) ∨
        t.get? (t.workDir ++ before ++ way) = none ∧
          t₁.get? (t.workDir ++ before ++ way) = some .directory := by
    intro way hway
    rcases List.prefix_cons_iff.1 hway with rfl | ⟨rest, rfl, hnil⟩
    · right
      rw [List.append_nil, habove.entry, opening_way List.prefix_rfl]
      exact ⟨hnone, rfl⟩
    · left
      rw [List.prefix_nil.1 hnil, habove.entry, List.append_assoc, opening_behind, Option.getD_none]
  obtain ⟨hstop', hpassed⟩ := stop_congr hlast
  rw [habove.workDir] at harrive hmade
  rw [hstop'] at harrive
  rw [hpassed] at hmade
  rw [(stop_append hstop [n]).1, (stop_append hstop [n]).2]
  exact ⟨t', harrive, habove.further hmade⟩

theorem isEmpty_of_names (hn : IsName n) : (relative (before ++ [n])).isEmpty = false := by
  have hpos := size_pos_of_isName hn
  refine isEmpty_of_size_pos ?_
  rw [Path.size_text_concat]
  omega

/-- Nothing is made for a path that is refused. -/
theorem makeDirsIn_of_refused (hn : IsName n) {fault : IoFault}
    (hrefused : refused? (relative (before ++ [n])) = some fault) (steps : Nat) (t : FileTree) :
    makeDirsIn (steps + 1) t (relative (before ++ [n])) = (some fault, t) := by
  have hempty : (relative (before ++ [n])).isEmpty = false := isEmpty_of_names hn
  have hslot : t.slot (relative (before ++ [n])) = .error fault := by
    rw [slot, hrefused]
  have hmade : t.makeDir (relative (before ++ [n])) = .error fault := by
    rw [makeDir, hslot]
    rfl
  have hfault : fault ≠ .system .noEntry := by
    rintro rfl
    rw [refused?, hempty, if_neg Bool.false_ne_true] at hrefused
    split at hrefused
    · cases hrefused
    · split at hrefused <;> cases hrefused
  rw [makeDirsIn_of_ne hempty steps (by rw [hmade]; simpa using hfault), arrive, hmade,
    isDir_of_fault hslot]
  rfl

/-- The directories of a way down are made up to where the way is stopped. -/
theorem makeDirsIn_descent (h : t.Linkless) {steps : Nat} (hnames : ∀ s ∈ names, IsName s)
    (hrefused : names ≠ [] → refused? (relative names) = none) (hsteps : names.length < steps) :
    ∃ t', makeDirsIn steps t (relative names) =
        ((t.stop? t.workDir names).map .system, t') ∧
      Overlaid t t' (opening t.workDir (t.passed t.workDir names)) := by
  induction steps generalizing names with
  | zero => exact absurd hsteps (Nat.not_lt_zero _)
  | succ steps ih =>
    rcases List.eq_nil_or_concat names with rfl | ⟨before, n, rfl⟩
    · exact ⟨t, by rw [makeDirsIn]; rfl, overlaid_of_isOpen (isOpen_nil.2 h.workDir)⟩
    rw [List.concat_eq_append] at *
    have hbefore : ∀ s ∈ before, IsName s := fun s hs => hnames s (List.mem_append_left _ hs)
    have hn : IsName n := hnames n (by simp)
    have hrefused := hrefused (List.concat_ne_nil _ _)
    have hempty := (refused_eq_none.1 hrefused).2.1
    rw [List.length_append, List.length_singleton] at hsteps
    obtain ⟨result, hdescent, hslot⟩ := slot_descent h hbefore hn hrefused
    cases hdescent with
    | arrived hopen hstop =>
      obtain ⟨hne, t', harrive, hmade⟩ := arrive_open h hn hslot hopen
      rw [makeDirsIn_of_ne hempty steps hne, (stop_append hstop [n]).1, (stop_append hstop [n]).2]
      exact ⟨t', harrive, hmade⟩
    | missed hnone hstop =>
      have hmissing : t.makeDir (relative (before ++ [n])) = .error (.system .noEntry) := by
        rw [makeDir, hslot]
        rfl
      obtain ⟨t₁, hparents, habove⟩ := ih hbefore (fun hne => refused_above hbefore hne hrefused)
        (by omega)
      rw [makeDirsIn_of_noEntry hempty steps hmissing (Path.parent_of_names hnames), hparents]
      rcases hstop with hstop | hstop
      · have hmakes := makes_makeDirsIn steps t (relative before)
        rw [hparents] at hmakes
        rw [passed_eq_self hstop] at habove
        obtain ⟨t', harrive, hmade⟩ :=
          arrive_further hbefore hn hrefused hstop hnone (h.makes hmakes) habove
        rw [hstop]
        exact ⟨t', harrive, hmade⟩
      · rw [(stop_append_of_long hstop [n]).1, (stop_append_of_long hstop [n]).2, hstop]
        exact ⟨t₁, rfl, habove⟩
    | @stopped e he hstop =>
      have hmade : t.makeDir (relative (before ++ [n])) = .error (.system e) := by
        rw [makeDir, hslot]
        rfl
      have hne : t.makeDir (relative (before ++ [n])) ≠ .error (.system .noEntry) := by
        rw [hmade]
        simpa using he
      rw [makeDirsIn_of_ne hempty steps hne, arrive, hmade, isDir_of_fault hslot, (hstop n).1]
      exact ⟨t, rfl, overlaid_of_isOpen (hstop n).2⟩

end RateCard.FileTree
