import Mathlib.Tactic
import RateCard.FileTree.Change
import RateCard.Proofs.Bind

/-!
# Ways through a tree

A way whose last step is open leads to a directory or fails, and which of the two does not depend on
the steps behind it. Ways pass through directories and links only, so they stay as they are in every
tree that keeps these.
-/
namespace RateCard

/-- What ways pass through. -/
def Entry.passes : Entry → Bool
  | .directory | .link _ => true
  | .file _ | .device _ => false

namespace FileTree

/-! ## Single steps -/

/-- What a walk does at a link. -/
def overLink (t : FileTree) (goal : Goal) : Nat → Location → List String → Except Errno Location
  | 0, _, _ => .error .tooManyLinks
  | links + 1, here, segments => t.walk goal links here segments

theorem walk_eq (t : FileTree) (goal : Goal) (links : Nat) :
    t.walk goal links = t.walkWith goal (t.overLink goal links) := by
  cases links <;> rfl

@[simp] theorem walk_nil (t : FileTree) (goal : Goal) (links : Nat) (here : Location) :
    t.walk goal links here [] = .ok here := by
  rw [walk_eq, walkWith]

theorem walk_notDirectory {t : FileTree} {here : Location} (h : t.get? here ≠ some .directory)
    (goal : Goal) (links : Nat) (s : String) (rest : List String) :
    t.walk goal links here (s :: rest) = .error .notDirectory := by
  rw [walk_eq, walkWith, if_pos h]

section Steps
variable {t : FileTree} {here : Location} (hdir : t.get? here = some .directory) (goal : Goal)
  (links : Nat)
include hdir

theorem walk_void {s : String} (hs : Path.isVoid s = true) (rest : List String) :
    t.walk goal links here (s :: rest) = t.walk goal links here rest := by
  rw [walk_eq, walkWith, if_neg (not_not.2 hdir), if_pos hs]

theorem walk_up (rest : List String) :
    t.walk goal links here (".." :: rest) = t.walk goal links here.dropLast rest := by
  rw [walk_eq, walkWith, if_neg (not_not.2 hdir), if_neg (by decide), if_pos rfl]

/-- A name is looked up. That only slashes are left is a fault where a file is wanted. -/
theorem walk_name {s : String} (hvoid : Path.isVoid s = false) (hup : s ≠ "..")
    {rest : List String} (hrest : goal = .existing ∨ rest = [] ∨ ∃ r ∈ rest, r ≠ "") :
    t.walk goal links here (s :: rest) =
      if maxNameBytes < s.utf8ByteSize then .error .nameTooLong
      else
        match t.get? (here ++ [s]) with
        | none => if goal = .file ∧ rest = [] then .ok (here ++ [s]) else .error .noEntry
        | some (.link target) =>
          t.overLink goal links (if target.rooted then [] else here) (target.segments ++ rest)
        | some _ => t.walk goal links (here ++ [s]) rest := by
  have hopen : ¬ (goal = .file ∧ rest ≠ [] ∧ rest.all (· == "") = true) := by
    rintro ⟨rfl, hne, hall⟩
    rcases hrest with h | h | ⟨r, hr, hne'⟩
    · cases h
    · exact hne h
    · exact hne' (by simpa using List.all_eq_true.1 hall r hr)
  rewrite [walk_eq, walkWith, if_neg (not_not.2 hdir), if_neg (by simp [hvoid]), if_neg hup,
    if_neg hopen]
  rfl

end Steps

/-! ## Ways that go on -/

/-- Segments that do not end a way where they start. -/
def GoesOn (rest : List String) : Prop := ∃ s ∈ rest, s ≠ ""

theorem GoesOn.append (segments : List String) {rest : List String} (h : GoesOn rest) :
    GoesOn (segments ++ rest) := by
  obtain ⟨s, hs, hne⟩ := h
  exact ⟨s, List.mem_append_right _ hs, hne⟩

theorem GoesOn.ne_nil {rest : List String} (h : GoesOn rest) : rest ≠ [] := by
  rintro rfl
  obtain ⟨s, hs, -⟩ := h
  simp at hs

/-- What a walk comes to that goes on with more segments: it fails in the same way whatever they
are, or it goes on from a directory with some links left. -/
inductive Leads (t : FileTree) (go : Goal → List String → Except Errno Location) : Prop where
  | fails (e : Errno) : (∀ goal rest, GoesOn rest → go goal rest = .error e) → Leads t go
  | reaches (left : Nat) (dir : Location) : t.get? dir = some .directory →
      (∀ goal rest, GoesOn rest → go goal rest = t.walk goal left dir rest) → Leads t go

theorem Leads.congr {t : FileTree} {go go' : Goal → List String → Except Errno Location}
    (h : Leads t go) (hgo : ∀ goal rest, GoesOn rest → go' goal rest = go goal rest) :
    Leads t go' := by
  cases h with
  | fails e he => exact .fails e fun goal rest hr => (hgo goal rest hr).trans (he goal rest hr)
  | reaches left dir hdir hd =>
    exact .reaches left dir hdir fun goal rest hr => (hgo goal rest hr).trans (hd goal rest hr)

/-- Over segments without regard to what links do. -/
theorem leads_segments {t : FileTree} {links : Nat}
    (hlink : ∀ here segments, Leads t fun goal rest =>
      t.overLink goal links here (segments ++ rest)) (here : Location) (segments : List String) :
    Leads t fun goal rest => t.walk goal links here (segments ++ rest) := by
  induction segments generalizing here with
  | nil =>
    by_cases hdir : t.get? here = some .directory
    · exact .reaches links here hdir fun _ _ _ => rfl
    · refine .fails .notDirectory fun goal rest hr => ?_
      obtain ⟨s, rest, rfl⟩ := List.exists_cons_of_ne_nil hr.ne_nil
      exact walk_notDirectory hdir goal links s rest
  | cons s segments ih =>
    by_cases hdir : t.get? here = some .directory
    case neg => exact .fails .notDirectory fun goal rest _ => walk_notDirectory hdir goal links s _
    by_cases hvoid : Path.isVoid s = true
    · exact (ih here).congr fun goal rest _ => walk_void hdir goal links hvoid _
    rw [Bool.not_eq_true] at hvoid
    by_cases hup : s = ".."
    · subst hup
      exact (ih here.dropLast).congr fun goal rest _ => walk_up hdir goal links _
    have hname := fun goal rest (hr : GoesOn rest) =>
      walk_name hdir goal links hvoid hup (.inr (.inr (hr.append segments)))
    by_cases hlong : maxNameBytes < s.utf8ByteSize
    · refine .fails .nameTooLong fun goal rest hr => ?_
      rw [List.cons_append, hname goal rest hr, if_pos hlong]
    simp only [if_neg hlong] at hname
    cases hget : t.get? (here ++ [s]) with
    | none =>
      refine .fails .noEntry fun goal rest hr => ?_
      rw [List.cons_append, hname goal rest hr, hget]
      exact if_neg fun h => (hr.append segments).ne_nil h.2
    | some e =>
      cases e with
      | link target =>
        refine (hlink (if target.rooted then [] else here) (target.segments ++ segments)).congr
          fun goal rest hr => ?_
        rw [List.cons_append, hname goal rest hr, hget, List.append_assoc]
      | _ =>
        refine (ih (here ++ [s])).congr fun goal rest hr => ?_
        rw [List.cons_append, hname goal rest hr, hget]

/-- Every way that goes on leads somewhere or nowhere, whatever follows. A link puts its own
segments in front, at the price of one link. -/
theorem leads (t : FileTree) (links : Nat) (here : Location) (segments : List String) :
    Leads t fun goal rest => t.walk goal links here (segments ++ rest) := by
  induction links generalizing here segments with
  | zero => exact leads_segments (fun _ _ => .fails .tooManyLinks fun _ _ _ => rfl) here segments
  | succ links ih => exact leads_segments (fun here segments => ih here segments) here segments

theorem goesOn_here : GoesOn ["."] := ⟨".", by simp, by decide⟩

theorem walk_here {t : FileTree} {here : Location} (h : t.get? here = some .directory)
    (goal : Goal) (links : Nat) : t.walk goal links here ["."] = .ok here := by
  rw [walk_void h goal links (by decide), walk_nil]

/-- A way that leads to a directory goes on from it. -/
theorem walk_of_reached {t : FileTree} {links : Nat} {here dir : Location} {segments : List String}
    (h : t.walk .existing links here (segments ++ ["."]) = .ok dir) :
    t.get? dir = some .directory ∧
      ∃ left, ∀ goal rest, GoesOn rest →
        t.walk goal links here (segments ++ rest) = t.walk goal left dir rest := by
  cases leads t links here segments with
  | fails e he =>
    rw [he .existing ["."] goesOn_here] at h
    cases h
  | reaches left dir' hdir hd =>
    rw [hd .existing ["."] goesOn_here, walk_here hdir] at h
    cases h
    exact ⟨hdir, left, hd⟩

/-- A way that goes on reaches the directory it goes on from. -/
theorem reached_of_walk {t : FileTree} {goal : Goal} {links : Nat} {here place : Location}
    {segments rest : List String} (hr : GoesOn rest)
    (h : t.walk goal links here (segments ++ rest) = .ok place) :
    ∃ dir left, t.walk .existing links here (segments ++ ["."]) = .ok dir ∧
      t.get? dir = some .directory ∧ t.walk goal left dir rest = .ok place := by
  cases leads t links here segments with
  | fails e he =>
    rw [he goal rest hr] at h
    cases h
  | reaches left dir hdir hd =>
    refine ⟨dir, left, ?_, hdir, (hd goal rest hr).symm.trans h⟩
    rw [hd .existing ["."] goesOn_here, walk_here hdir]

/-! ## Ways in changed trees -/

/-- The directories and links of a tree are those of another one too. -/
def Keeps (t t' : FileTree) : Prop :=
  t'.workDir = t.workDir ∧ ∀ l e, e.passes = true → t.get? l = some e → t'.get? l = some e

theorem Keeps.refl (t : FileTree) : Keeps t t := ⟨rfl, fun _ _ _ h => h⟩

theorem Keeps.trans {t t' t'' : FileTree} (h : Keeps t t') (h' : Keeps t' t'') : Keeps t t'' :=
  ⟨h'.1.trans h.1, fun l e he hl => h'.2 l e he (h.2 l e he hl)⟩

theorem Keeps.put {t : FileTree} {place : Location} (hplace : place ≠ [])
    (h : ∀ e, t.get? place = some e → e.passes = false) (e : Entry) : Keeps t (t.put place e) := by
  refine ⟨rfl, fun l e' he' hl => ?_⟩
  have hne : l ≠ place := by
    rintro rfl
    rw [h e' hl] at he'
    cases he'
  rw [get?_put t hplace, if_neg hne, hl]

theorem Keeps.of_put {t : FileTree} {place : Location} (hplace : place ≠ []) {e : Entry}
    (he : e.passes = false) : Keeps (t.put place e) t := by
  refine ⟨rfl, fun l e' he' hl => ?_⟩
  rw [get?_put t hplace] at hl
  by_cases heq : l = place
  · rw [if_pos heq, Option.some.injEq] at hl
    rw [← hl, he] at he'
    cases he'
  · rwa [if_neg heq] at hl

theorem Keeps.erase {t : FileTree} {place : Location} (hplace : place ≠ [])
    (h : ∀ e, t.get? place = some e → e.passes = false) : Keeps t (t.erase place) := by
  refine ⟨rfl, fun l e' he' hl => ?_⟩
  have hne : l ≠ place := by
    rintro rfl
    rw [h e' hl] at he'
    cases he'
  rw [get?_erase t hplace, if_neg hne, hl]

theorem Keeps.of_erase (t : FileTree) {place : Location} (hplace : place ≠ []) :
    Keeps (t.erase place) t := by
  refine ⟨rfl, fun l e' _ hl => ?_⟩
  rw [get?_erase t hplace] at hl
  by_cases heq : l = place
  · simp [heq] at hl
  · rwa [if_neg heq] at hl

/-- What a way to a directory ends at or passes is a directory. -/
theorem directory_of_walk {t : FileTree} {goal : Goal} {links : Nat} {here dir : Location}
    {segments : List String} (hwalk : t.walk goal links here segments = .ok dir)
    (hdir : t.get? dir = some .directory) : t.get? here = some .directory := by
  cases segments with
  | nil =>
    rw [walk_nil, Except.ok.injEq] at hwalk
    exact hwalk ▸ hdir
  | cons s rest =>
    by_contra hne
    rw [walk_notDirectory hne] at hwalk
    cases hwalk

theorem walk_keeps_segments {t t' : FileTree} (h : Keeps t t') {links : Nat} {dir : Location}
    (hlink : ∀ here segments, t.overLink .existing links here segments = .ok dir →
      t'.overLink .existing links here segments = .ok dir)
    {here : Location} {segments : List String}
    (hwalk : t.walk .existing links here segments = .ok dir)
    (hdir : t.get? dir = some .directory) : t'.walk .existing links here segments = .ok dir := by
  induction segments generalizing here with
  | nil => simpa using hwalk
  | cons s segments ih =>
    have hhere := directory_of_walk hwalk hdir
    have hhere' := h.2 here .directory rfl hhere
    by_cases hvoid : Path.isVoid s = true
    · rw [walk_void hhere _ _ hvoid] at hwalk
      rw [walk_void hhere' _ _ hvoid]
      exact ih hwalk
    rw [Bool.not_eq_true] at hvoid
    by_cases hup : s = ".."
    · subst hup
      rw [walk_up hhere] at hwalk
      rw [walk_up hhere']
      exact ih hwalk
    rw [walk_name hhere _ _ hvoid hup (.inl rfl)] at hwalk
    rw [walk_name hhere' _ _ hvoid hup (.inl rfl)]
    by_cases hlong : maxNameBytes < s.utf8ByteSize
    · simp [hlong] at hwalk
    rw [if_neg hlong] at hwalk ⊢
    cases hget : t.get? (here ++ [s]) with
    | none => simp [hget] at hwalk
    | some e =>
      rw [hget] at hwalk
      cases e with
      | link target =>
        rw [h.2 _ (.link target) rfl hget]
        exact hlink _ _ hwalk
      | _ =>
        have hnext := directory_of_walk hwalk hdir
        rw [h.2 _ .directory rfl hnext]
        exact ih hwalk

/-- A way to a directory passes through directories and links only. -/
theorem walk_keeps {t t' : FileTree} (h : Keeps t t') {links : Nat} {here dir : Location}
    {segments : List String} (hwalk : t.walk .existing links here segments = .ok dir)
    (hdir : t.get? dir = some .directory) : t'.walk .existing links here segments = .ok dir := by
  induction links generalizing here segments with
  | zero => exact walk_keeps_segments h (fun _ _ hl => by cases hl) hwalk hdir
  | succ links ih =>
    have hlink : ∀ here segments, t.overLink .existing (links + 1) here segments = .ok dir →
        t'.overLink .existing (links + 1) here segments = .ok dir := fun _ _ hl => ih hl
    exact walk_keeps_segments h hlink hwalk hdir

end FileTree
end RateCard
