import RateCard.Proofs.Artifact.Succeeds
import RateCard.Proofs.FileTree.Descent

/-!
# How a write ends

Where there are only directories and files, the end of a write is decided by what stands on the way
of its path and at its two places. Each end comes with one change of the tree.
-/
namespace RateCard.Artifact
open RateCard.FileTree
open RateCard.Path (IsName relative)
open RateCard.Text (Bytes)

/-! ## Ends -/

/-- The directories above cannot be made, nothing can be staged, a directory stands at the
destination, or the artifact is put there. -/
inductive Fate where
  | above (fault : IoFault)
  | beside (fault : IoFault)
  | taken
  | placed

namespace Fate

def failure? (before : List String) (n : String) : Fate → Option Failure
  | .above fault => some (.io (relative before) fault)
  | .beside fault => some (.io (relative (before ++ [n ++ ".tmp"])) fault)
  | .taken => some (.io (relative (before ++ [n])) (.system .isDirectory))
  | .placed => none

/-- What is left at the staging place and at the destination. -/
def ends (staging destination : Location) (bytes : Bytes) : Fate → Overlay
  | .above _, _ | .beside _, _ => none
  | .taken, l => if l = staging then some none else none
  | .placed, l =>
    if l = destination then some (some (.file bytes)) else if l = staging then some none else none

end Fate

/-- What stops the directories above a path from being made, and those that are there then. -/
def above (t : FileTree) (before : List String) : Option IoFault × List String :=
  match if before = [] then none else refused? (relative before) with
  | some fault => (some fault, [])
  | none => ((t.stop? t.workDir before).map .system, t.passed t.workDir before)

/-- How staging and moving end in a directory that is there. -/
def attempt (t : FileTree) (before : List String) (n : String) : Fate :=
  match refused? (relative (before ++ [n ++ ".tmp"])) with
  | some fault => .beside fault
  | none =>
    if maxNameBytes < (n ++ ".tmp").utf8ByteSize then .beside (.system .nameTooLong)
    else if t.get? (t.workDir ++ before ++ [n ++ ".tmp"]) = some .directory then
      .beside (.system .isDirectory)
    else if t.get? (t.workDir ++ before ++ [n]) = some .directory then .taken
    else .placed

def fate (t : FileTree) (before : List String) (n : String) : Fate :=
  match (above t before).1 with
  | some fault => .above fault
  | none => attempt t before n

/-- What a write changes: the directories above and its two places. -/
def change (t : FileTree) (prices : PriceList) (before : List String) (n : String) : Overlay :=
  fun l => ((fate t before n).ends (t.workDir ++ before ++ [n ++ ".tmp"])
    (t.workDir ++ before ++ [n]) (contents prices) l).or (opening t.workDir (above t before).2 l)

variable {t t' : FileTree} {before : List String} {n : String}

/-! ## Directories above -/

theorem makeParents_above (h : t.Linkless) (hnames : ∀ s ∈ before ++ [n], IsName s) :
    ∃ t₁, makeParents t (relative (before ++ [n])) =
        (match (above t before).1 with
          | none => .ok ()
          | some fault => .error (.io (relative before) fault), t₁) ∧
      Overlaid t t₁ (opening t.workDir (above t before).2) := by
  have hbefore : ∀ s ∈ before, IsName s := fun s hs => hnames s (List.mem_append_left _ hs)
  have hmakeDirs : ∃ t₁, t.makeDirs (relative before) = ((above t before).1, t₁) ∧
      Overlaid t t₁ (opening t.workDir (above t before).2) := by
    rw [makeDirs, Path.length_components_of_names hbefore, above]
    split
    next fault hfault =>
      have hne : before ≠ [] := by
        rintro rfl
        cases hfault
      obtain ⟨init, last, rfl⟩ := (List.eq_nil_or_concat before).resolve_left hne
      rw [List.concat_eq_append] at *
      rw [if_neg hne] at hfault
      exact ⟨t, makeDirsIn_of_refused (hbefore last (by simp)) hfault _ t,
        overlaid_of_isOpen (isOpen_nil.2 h.workDir)⟩
    next hnone =>
      refine makeDirsIn_descent h hbefore (fun hne => ?_) (Nat.lt_succ_self _)
      rwa [if_neg hne] at hnone
  obtain ⟨t₁, hmade, habove⟩ := hmakeDirs
  refine ⟨t₁, ?_, habove⟩
  rw [makeParents, Path.parent_of_names hnames]
  simp only [hmade]
  cases (above t before).1 <;> rfl

/-! ## Attempts -/

theorem discard_of_fault {p : Path} {fault : IoFault} (h : t.remove p = .error fault) :
    discard t p = t := by
  rw [discard, h]
  rfl

/-- A path is accepted if its staging path is. -/
theorem refused_of_staging (hn : IsName n)
    (h : refused? (relative (before ++ [n ++ ".tmp"])) = none) :
    refused? (relative (before ++ [n])) = none := by
  obtain ⟨hnul, -, hsize⟩ := refused_eq_none.1 h
  rw [Path.hasNul_tmp] at hnul
  rw [Path.size_text_concat, String.utf8ByteSize_append] at hsize
  refine refused_eq_none.2 ⟨hnul, isEmpty_of_names hn, ?_⟩
  rw [Path.size_text_concat]
  omega

theorem short_of_tmp (h : (n ++ ".tmp").utf8ByteSize ≤ maxNameBytes) :
    n.utf8ByteSize ≤ maxNameBytes := by
  rw [String.utf8ByteSize_append] at h
  omega

/-- Nothing is moved over a directory. -/
theorem rename_of_taken {source destination : Path} {s d : Slot} {e : Entry}
    (hs : t.slot source = .ok s) (hd : t.slot destination = .ok d)
    (hnamed : s.named = true ∧ d.named = true) (hslash : s.slash = false ∧ d.slash = false)
    (hshort : s.last.utf8ByteSize ≤ maxNameBytes ∧ d.last.utf8ByteSize ≤ maxNameBytes)
    (he : t.get? s.location = some e) (hentry : e ≠ .directory)
    (htaken : t.get? d.location = some .directory) :
    t.rename source destination = fail .isDirectory := by
  simp only [rename, hs, hd, ok_bind, hnamed, hslash, lookUp_of_short hshort.1,
    lookUp_of_short hshort.2, he, htaken, Bool.not_true, Bool.or_false, Bool.false_eq_true,
    if_false]
  simp

/-- An attempt ends like this, and has changed what comes with that. -/
def EndsIn (t : FileTree) (before : List String) (n : String) (bytes : Bytes) (fate : Fate) :
    Prop :=
  ∃ t', place t (relative (before ++ [n])) bytes =
      (match fate.failure? before n with
        | none => .ok ()
        | some failure => .error failure, t') ∧
    t'.Sound ∧ Overlaid t t' (fate.ends (t.workDir ++ before ++ [n ++ ".tmp"])
      (t.workDir ++ before ++ [n]) bytes)

/-- One tree is another one with bytes staged for a path. -/
structure Staged (t t₁ : FileTree) (before : List String) (n : String) (bytes : Bytes) : Prop where
  write : t.write (relative (before ++ [n ++ ".tmp"])) bytes = .ok t₁
  slot : t₁.slot (relative (before ++ [n ++ ".tmp"])) =
    .ok ⟨t.workDir ++ before, n ++ ".tmp", false⟩
  destination : t₁.slot (relative (before ++ [n])) = .ok ⟨t.workDir ++ before, n, false⟩
  sound : t₁.Sound
  workDir : t₁.workDir = t.workDir
  entry : ∀ l, t₁.get? l =
    if l = t.workDir ++ before ++ [n ++ ".tmp"] then some (.file bytes) else t.get? l

theorem Staged.file {t₁ : FileTree} {bytes : Bytes} (h : Staged t t₁ before n bytes) :
    t₁.get? (t.workDir ++ before ++ [n ++ ".tmp"]) = some (.file bytes) := by
  rw [h.entry, if_pos rfl]

theorem Staged.sound_erase {t₁ : FileTree} {bytes : Bytes} (h : Staged t t₁ before n bytes) :
    (t₁.erase (t.workDir ++ before ++ [n ++ ".tmp"])).Sound :=
  h.sound.erase (List.concat_ne_nil _ _) (by rw [h.file]; simp)

theorem destination_ne_staging (here : Location) (n : String) :
    here ++ [n] ≠ here ++ [n ++ ".tmp"] := by
  simpa using (Path.tmp_ne n).symm

section Attempt
variable (h : t.Linkless) (hbefore : ∀ s ∈ before, ShortName s) (hn : IsName n) {bytes : Bytes}
include h hbefore hn

theorem endsIn_beside {fault fault' : IoFault}
    (hwrite : t.write (relative (before ++ [n ++ ".tmp"])) bytes = .error fault)
    (hremove : t.remove (relative (before ++ [n ++ ".tmp"])) = .error fault') :
    EndsIn t before n bytes (.beside fault) := by
  have hstaging := Path.staging_of_names (isName_of_mem hbefore hn)
  refine ⟨t, ?_, h.sound, rfl, fun _ => rfl⟩
  rw [place, hstaging, hwrite]
  simp only [discard_of_fault hremove]
  rfl

theorem endsIn_refused {fault : IoFault}
    (hrefused : refused? (relative (before ++ [n ++ ".tmp"])) = some fault) :
    EndsIn t before n bytes (.beside fault) := by
  have hwrite : t.write (relative (before ++ [n ++ ".tmp"])) bytes = .error fault := by
    rw [FileTree.write, resolve, hrefused]
    rfl
  have hremove : t.remove (relative (before ++ [n ++ ".tmp"])) = .error fault := by
    rw [remove, slot, hrefused]
    rfl
  exact endsIn_beside h hbefore hn hwrite hremove

variable (hopen : t.IsOpen t.workDir before)
  (hrefused : refused? (relative (before ++ [n ++ ".tmp"])) = none)
include hopen hrefused

theorem endsIn_long (hlong : maxNameBytes < (n ++ ".tmp").utf8ByteSize) :
    EndsIn t before n bytes (.beside (.system .nameTooLong)) := by
  have hslot := slot_of_isOpen h hbefore (Path.isName_tmp n) hrefused hopen
  have hthere : t.lookUp ⟨t.workDir ++ before, n ++ ".tmp", false⟩ =
      .error (.system .nameTooLong) := by
    rw [lookUp, if_pos hlong]
  have hwrite := write_staging (clear_of_linkless hbefore hn h).noStagedLink bytes
  rw [Path.staging_of_names (isName_of_mem hbefore hn), hslot, ok_bind, hthere] at hwrite
  have hnamed : (⟨t.workDir ++ before, n ++ ".tmp", false⟩ : Slot).named = true :=
    named_of_isName (Path.isName_tmp n)
  have hremove : t.remove (relative (before ++ [n ++ ".tmp"])) =
      .error (.system .nameTooLong) := by
    simp [remove, hslot, hthere, hnamed]
  exact endsIn_beside h hbefore hn hwrite hremove

variable (hshort : (n ++ ".tmp").utf8ByteSize ≤ maxNameBytes)
include hshort

theorem endsIn_occupied
    (hdir : t.get? (t.workDir ++ before ++ [n ++ ".tmp"]) = some .directory) :
    EndsIn t before n bytes (.beside (.system .isDirectory)) := by
  have hslot := slot_of_isOpen h hbefore (Path.isName_tmp n) hrefused hopen
  have hthere : t.lookUp ⟨t.workDir ++ before, n ++ ".tmp", false⟩ = .ok (some .directory) := by
    rw [lookUp_of_short hshort, Slot.location, hdir]
  have hwrite := write_staging (clear_of_linkless hbefore hn h).noStagedLink bytes
  rw [Path.staging_of_names (isName_of_mem hbefore hn), hslot, ok_bind, hthere] at hwrite
  have hnamed : (⟨t.workDir ++ before, n ++ ".tmp", false⟩ : Slot).named = true :=
    named_of_isName (Path.isName_tmp n)
  have hremove : t.remove (relative (before ++ [n ++ ".tmp"])) =
      .error (.system .isDirectory) := by
    simp [remove, hslot, hthere, hnamed, fail]
  exact endsIn_beside h hbefore hn hwrite hremove

variable (hfree : t.get? (t.workDir ++ before ++ [n ++ ".tmp"]) ≠ some .directory)
include hfree

theorem exists_staged (bytes : Bytes) : ∃ t₁, Staged t t₁ before n bytes := by
  have hslot := slot_of_isOpen h hbefore (Path.isName_tmp n) hrefused hopen
  have hslot' := slot_of_isOpen h hbefore hn (refused_of_staging hn hrefused) hopen
  have hold : t.get? (t.workDir ++ before ++ [n ++ ".tmp"]) = none ∨
      ∃ old, t.get? (t.workDir ++ before ++ [n ++ ".tmp"]) = some (.file old) := by
    cases hget : t.get? (t.workDir ++ before ++ [n ++ ".tmp"]) with
    | none => exact .inl rfl
    | some e =>
      have hplain := h.entry (before ++ [n ++ ".tmp"]) e (by rwa [← List.append_assoc])
      rcases Entry.plain_iff.1 hplain with rfl | ⟨old, rfl⟩
      · exact absurd hget hfree
      · exact .inr ⟨old, rfl⟩
  have hkeeps : Keeps t (t.put (t.workDir ++ before ++ [n ++ ".tmp"]) (.file bytes)) :=
    keeps_staged (s := ⟨t.workDir ++ before, n ++ ".tmp", false⟩) hold bytes
  have hwrite := write_staging (clear_of_linkless hbefore hn h).noStagedLink bytes
  rw [Path.staging_of_names (isName_of_mem hbefore hn), hslot, ok_bind, lookUp_of_short hshort,
    ok_bind, Slot.location] at hwrite
  refine ⟨_, ?_, slot_keeps hkeeps hslot, slot_keeps hkeeps hslot',
    h.sound.put hopen.last fun hdir => absurd hdir hfree, rfl,
    get?_put t (List.concat_ne_nil _ _) _⟩
  rw [hwrite]
  rcases hold with hget | ⟨old, hget⟩ <;> rw [hget]

theorem endsIn_taken (htaken : t.get? (t.workDir ++ before ++ [n]) = some .directory) :
    EndsIn t before n bytes .taken := by
  obtain ⟨t₁, hstaged⟩ := exists_staged h hbefore hn hopen hrefused hshort hfree bytes
  have hstaging := Path.staging_of_names (isName_of_mem hbefore hn)
  have hplace : t.workDir ++ before ++ [n ++ ".tmp"] ≠ [] := List.concat_ne_nil _ _
  have hdirectory : t₁.get? (t.workDir ++ before ++ [n]) = some .directory := by
    rw [hstaged.entry, if_neg (destination_ne_staging _ n), htaken]
  have hrename := rename_of_taken (e := .file bytes) hstaged.slot hstaged.destination
    ⟨named_of_isName (Path.isName_tmp n), named_of_isName hn⟩ ⟨rfl, rfl⟩
    ⟨hshort, short_of_tmp hshort⟩ hstaged.file (by simp) hdirectory
  have hslot : t₁.slot (relative (before ++ [n])).staging =
      .ok ⟨t.workDir ++ before, n ++ ".tmp", false⟩ := by rw [hstaging, hstaged.slot]
  have hdiscard := discard_staged hslot hshort hstaged.file
  rw [hstaging] at hdiscard
  refine ⟨t₁.erase (t.workDir ++ before ++ [n ++ ".tmp"]), ?_,
    hstaged.sound_erase, hstaged.workDir, fun l => ?_⟩
  · rw [place, hstaging, hstaged.write]
    simp only [hrename, fail, hdiscard]
    rfl
  · rw [get?_erase _ hplace, hstaged.entry, Fate.ends]
    split <;> rfl

theorem endsIn_placed (hfree' : t.get? (t.workDir ++ before ++ [n]) ≠ some .directory) :
    EndsIn t before n bytes .placed := by
  obtain ⟨t₁, hstaged⟩ := exists_staged h hbefore hn hopen hrefused hshort hfree bytes
  have hstaging := Path.staging_of_names (isName_of_mem hbefore hn)
  have hplace : t.workDir ++ before ++ [n ++ ".tmp"] ≠ [] := List.concat_ne_nil _ _
  have hplace' : t.workDir ++ before ++ [n] ≠ [] := List.concat_ne_nil _ _
  have hnot : t₁.get? (t.workDir ++ before ++ [n]) ≠ some .directory := by
    rwa [hstaged.entry, if_neg (destination_ne_staging _ n)]
  have hrename := rename_of_slots (e := .file bytes) hstaged.slot hstaged.destination
    ⟨named_of_isName (Path.isName_tmp n), named_of_isName hn⟩ ⟨rfl, rfl⟩
    ⟨hshort, short_of_tmp hshort⟩ hstaged.file (by simp) hnot
  have hdirectory : (t₁.erase (t.workDir ++ before ++ [n ++ ".tmp"])).get? (t.workDir ++ before) =
      some .directory := by
    rw [get?_erase _ hplace, if_neg (by simp), hstaged.entry, if_neg (by simp), hopen.last]
  refine ⟨(t₁.erase (t.workDir ++ before ++ [n ++ ".tmp"])).put (t.workDir ++ before ++ [n])
    (.file bytes), ?_, ?_, hstaged.workDir, fun l => ?_⟩
  · rw [place, hstaging, hstaged.write]
    simp only [hrename]
    rfl
  · refine hstaged.sound_erase.put hdirectory fun hdir => ?_
    rw [get?_erase _ hplace, if_neg (destination_ne_staging _ n)] at hdir
    exact absurd hdir hnot
  · rw [get?_put _ hplace', get?_erase _ hplace, hstaged.entry, Fate.ends]
    split
    · rfl
    · split <;> rfl

end Attempt

/-- An attempt ends as the two places and the length of the path let it. -/
theorem place_attempt (h : t.Linkless) (hbefore : ∀ s ∈ before, ShortName s) (hn : IsName n)
    (hopen : t.IsOpen t.workDir before) (bytes : Bytes) :
    EndsIn t before n bytes (attempt t before n) := by
  rw [attempt]
  split
  next fault hrefused => exact endsIn_refused h hbefore hn hrefused
  next hrefused =>
  split
  next hlong => exact endsIn_long h hbefore hn hopen hrefused hlong
  next hnot =>
  have hshort := Nat.not_lt.1 hnot
  split
  next hdir => exact endsIn_occupied h hbefore hn hopen hrefused hshort hdir
  next hfree =>
  split
  next htaken => exact endsIn_taken h hbefore hn hopen hrefused hshort hfree htaken
  next hfree' => exact endsIn_placed h hbefore hn hopen hrefused hshort hfree hfree'

/-! ## Writes -/

theorem plain_ends {staging destination l : Location} {bytes : Bytes} {e : Entry} (fate : Fate)
    (h : fate.ends staging destination bytes l = some (some e)) : e.plain = true := by
  cases fate with
  | placed =>
    simp only [Fate.ends] at h
    split at h
    · rw [Option.some.injEq, Option.some.injEq] at h
      rw [← h]
      rfl
    · split at h <;> cases h
  | taken =>
    simp only [Fate.ends] at h
    split at h <;> cases h
  | _ => cases h

theorem ends_eq_none {staging destination l : Location} {bytes : Bytes} (fate : Fate)
    (hstaging : l ≠ staging) (hdestination : l ≠ destination) :
    fate.ends staging destination bytes l = none := by
  cases fate <;> simp [Fate.ends, hstaging, hdestination]

theorem above_eq_none (h : (above t before).1 = none) :
    t.stop? t.workDir before = none ∧ (above t before).2 = before := by
  rw [above] at h ⊢
  split at h
  · cases h
  next hnone =>
    have hstop := Option.map_eq_none_iff.1 h
    exact ⟨hstop, passed_eq_self hstop⟩

theorem attempt_congr (hworkDir : t'.workDir = t.workDir)
    (hends : ∀ m ∈ [n, n ++ ".tmp"],
      t'.get? (t.workDir ++ before ++ [m]) = t.get? (t.workDir ++ before ++ [m])) :
    attempt t' before n = attempt t before n := by
  simp only [attempt, hworkDir, hends n (by simp), hends (n ++ ".tmp") (by simp)]

/-- A write ends as what stands on its way and at its two places lets it, and has changed what comes
with that. -/
theorem write_fate (h : t.Linkless) (hnames : ∀ s ∈ before ++ [n], IsName s) (prices : PriceList) :
    ∃ t', write t prices (relative (before ++ [n])) =
        (match (fate t before n).failure? before n with
          | none => .ok ⟨prices.size, relative (before ++ [n])⟩
          | some failure => .error failure, t') ∧
      t'.Linkless ∧ Overlaid t t' (change t prices before n) := by
  obtain ⟨t₁, hparents, habove⟩ := makeParents_above h hnames
  have h₁ : t₁.Linkless := by
    have hmakes := makes_makeParents t (relative (before ++ [n]))
    rw [hparents] at hmakes
    exact h.makes hmakes
  cases hfault : (above t before).1 with
  | some fault =>
    rw [hfault] at hparents
    have hfate : fate t before n = .above fault := by
      simp only [fate, hfault]
    refine ⟨t₁, ?_, h₁, habove.workDir, fun l => ?_⟩
    · simp only [write, hparents, hfate]
      rfl
    · simp only [change, hfate, Fate.ends, Option.none_or]
      exact habove.entry l
  | none =>
    rw [hfault] at hparents
    obtain ⟨hstop, hmade⟩ := above_eq_none hfault
    have hbefore : ∀ s ∈ before, ShortName s := fun s hs =>
      ⟨hnames s (List.mem_append_left _ hs), short_of_stop hstop s hs⟩
    rw [hmade] at habove
    obtain ⟨t', hplace, hsound, hends⟩ :=
      place_attempt h₁ hbefore (hnames n (by simp)) habove.isOpen (contents prices)
    -- the two places are as they were
    have hattempt : attempt t₁ before n = attempt t before n := by
      refine attempt_congr habove.workDir fun m _ => ?_
      rw [habove.entry, List.append_assoc, opening_behind, Option.getD_none]
    have hfate : fate t before n = attempt t before n := by
      simp only [fate, hfault]
    rw [hattempt, habove.workDir] at hends
    refine ⟨t', ?_, hends.linkless h₁ hsound ?_ fun l e => plain_ends _, ?_⟩
    · simp only [write, hparents, hplace, hattempt, hfate]
      cases (attempt t before n).failure? before n <;> rfl
    · rw [habove.workDir]
      exact ends_eq_none _ (by simp) (by simp)
    · have hchange : change t prices before n = fun l =>
          ((attempt t before n).ends (t.workDir ++ before ++ [n ++ ".tmp"])
            (t.workDir ++ before ++ [n]) (contents prices) l).or (opening t.workDir before l) := by
        funext l
        rw [change, hfate, hmade]
      rw [hchange]
      exact habove.trans hends

end RateCard.Artifact
