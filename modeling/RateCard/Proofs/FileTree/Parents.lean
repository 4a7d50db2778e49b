import RateCard.Proofs.FileTree.Change

/-!
# Making directories

Making a directory with those above it makes one directory after another, each named by segments
that the path starts with. So nothing that was there changes, and what is new holds nothing yet.
-/
namespace RateCard.FileTree
open RateCard.Path (IsName)

/-- The place of a directory that segments of a path name, from its start on. -/
def IsPlaceOf (t : FileTree) (p : Path) (place : Location) : Prop :=
  ∃ q s, q.rooted = p.rooted ∧ q.segments <+: p.segments ∧ t.slot q = .ok s ∧ s.named = true ∧
    s.location = place

theorem IsPlaceOf.mono {t : FileTree} {p parent : Path} {place : Location}
    (h : t.IsPlaceOf parent place) (hrooted : parent.rooted = p.rooted)
    (hsegments : parent.segments <+: p.segments) : t.IsPlaceOf p place := by
  obtain ⟨q, s, hq, hinit, hslot⟩ := h
  exact ⟨q, s, hq.trans hrooted, hinit.trans hsegments, hslot⟩

theorem IsPlaceOf.keeps {t t' : FileTree} (hkeeps : Keeps t t') {p : Path} {place : Location}
    (h : t.IsPlaceOf p place) : t'.IsPlaceOf p place := by
  obtain ⟨q, s, hq, hinit, hslot, hs⟩ := h
  exact ⟨q, s, hq, hinit, slot_keeps hkeeps hslot, hs⟩

theorem IsPlaceOf.directory {t : FileTree} {p : Path} {place : Location} (h : t.IsPlaceOf p place) :
    ∃ l n, place = l ++ [n] ∧ t.get? l = some .directory := by
  obtain ⟨q, s, -, -, hslot, hnamed, rfl⟩ := h
  obtain ⟨-, -, -, -, -, -, hdir⟩ := slot_named hslot hnamed
  exact ⟨s.directory, s.last, rfl, hdir⟩

/-- One tree comes from another one by making directories on the way of a path. -/
inductive Makes (p : Path) (t : FileTree) : FileTree → Prop where
  | start : Makes p t t
  | next {t' : FileTree} {place : Location} : Makes p t t' → t'.IsPlaceOf p place →
      t'.get? place = none → Makes p t (t'.put place .directory)

namespace Makes
variable {p parent : Path} {t t' t'' : FileTree}

theorem mono (h : Makes parent t t') (hrooted : parent.rooted = p.rooted)
    (hsegments : parent.segments <+: p.segments) : Makes p t t' := by
  induction h with
  | start => exact .start
  | next _ hplace hnone ih => exact .next ih (hplace.mono hrooted hsegments) hnone

theorem trans (h : Makes p t t') (h' : Makes p t' t'') : Makes p t t'' := by
  induction h' with
  | start => exact h
  | next _ hplace hnone ih => exact .next ih hplace hnone

theorem keeps (h : Makes p t t') : Keeps t t' := by
  induction h with
  | start => exact .refl t
  | next _ hplace hnone ih =>
    obtain ⟨l, n, rfl, -⟩ := hplace.directory
    exact ih.trans (.put (List.concat_ne_nil _ _) (by simp [hnone]) _)

theorem sound (h : Makes p t t') (ht : t.Sound) : t'.Sound := by
  induction h with
  | start => exact ht
  | next _ hplace hnone ih =>
    obtain ⟨l, n, rfl, hdir⟩ := hplace.directory
    exact ih.put hdir fun _ => rfl

/-- Every entry is as it was, or a new directory on the way. -/
theorem entry (h : Makes p t t') (l : Location) : t'.get? l = t.get? l ∨
    t.get? l = none ∧ t'.get? l = some .directory ∧ t'.IsPlaceOf p l := by
  induction h with
  | start => exact .inl rfl
  | @next t₂ place hmakes hplace hnone ih =>
    obtain ⟨l', n, rfl, -⟩ := hplace.directory
    have hne : l' ++ [n] ≠ [] := List.concat_ne_nil _ _
    have hkeeps : Keeps t₂ (t₂.put (l' ++ [n]) .directory) := .put hne (by simp [hnone]) _
    by_cases heq : l = l' ++ [n]
    · subst heq
      have hbefore : t.get? (l' ++ [n]) = none := by
        rcases ih with hget | ⟨hget, -⟩
        · rw [← hget, hnone]
        · exact hget
      rw [get?_put _ hne, if_pos rfl]
      exact .inr ⟨hbefore, rfl, hplace.keeps hkeeps⟩
    · rw [get?_put _ hne, if_neg heq]
      rcases ih with hget | ⟨hget, hget', hplace'⟩
      · exact .inl hget
      · exact .inr ⟨hget, hget', hplace'.keeps hkeeps⟩

theorem get?_of_some (h : Makes p t t') {l : Location} {e : Entry} (hl : t.get? l = some e) :
    t'.get? l = some e := by
  rcases h.entry l with heq | ⟨hnone, -⟩
  · rw [heq, hl]
  · rw [hnone] at hl
    cases hl

end Makes

theorem makes_makeDir {t t' : FileTree} {p : Path} (h : t.makeDir p = .ok t') : Makes p t t' := by
  obtain ⟨s, hslot, hnamed, hnone, rfl⟩ := makeDir_cases h
  exact .next .start ⟨p, s, rfl, List.prefix_rfl, hslot, hnamed, rfl⟩ hnone

theorem makes_makeDirsIn (steps : Nat) (t : FileTree) (p : Path) :
    Makes p t (makeDirsIn steps t p).2 := by
  induction steps generalizing t p with
  | zero => exact .start
  | succ steps ih =>
    rw [makeDirsIn]
    split
    · exact .start
    split
    · exact makes_makeDir ‹_›
    split
    · exact .start
    split
    · exact .start
    rename_i parent hparent
    obtain ⟨hrooted, hsegments⟩ := Path.parent_eq hparent
    have habove := (ih t parent).mono hrooted hsegments
    split
    · rename_i hmade
      rwa [hmade] at habove
    · rename_i hmade
      rw [hmade] at habove
      split
      · exact habove.trans (makes_makeDir ‹_›)
      · exact habove

theorem makes_makeDirs (t : FileTree) (p : Path) : Makes p t (t.makeDirs p).2 :=
  makes_makeDirsIn _ t p

/-! ## Ways through new directories -/

/-- A way with nothing ahead does not leave where it is. -/
theorem walk_stays {t : FileTree} {here dir : Location} (hdir : t.get? here = some .directory)
    (hnone : ∀ n, t.get? (here ++ [n]) = none) {links : Nat} {segments : List String}
    (hup : ".." ∉ segments) (h : t.walk .existing links here segments = .ok dir) : dir = here := by
  induction segments with
  | nil =>
    rw [walk_nil, Except.ok.injEq] at h
    exact h.symm
  | cons s segments ih =>
    obtain ⟨hs, hup⟩ := List.ne_and_not_mem_of_not_mem_cons hup
    by_cases hvoid : Path.isVoid s = true
    · rw [walk_void hdir _ _ hvoid] at h
      exact ih hup h
    · rw [Bool.not_eq_true] at hvoid
      rw [walk_name hdir _ _ hvoid hs.symm (.inl rfl), hnone s] at h
      split at h <;> cases h

/-- A way over the directory at a named place goes on from that directory. -/
theorem walk_behind {t : FileTree} {q : Path} {s : Slot} (hslot : t.slot q = .ok s)
    (hnamed : s.named = true) (hdir : t.get? s.location = some .directory) {more : List String}
    {place : Location}
    (h : t.walk .existing maxLinks (t.start q) (q.segments ++ more) = .ok place) :
    ∃ slashes left, (∀ s ∈ slashes, s = "") ∧
      t.walk .existing left s.location (slashes ++ more) = .ok place := by
  obtain ⟨before, slashes, hq, hslashes, -, hwalk, hthere⟩ := slot_named hslot hnamed
  obtain ⟨-, left, hon⟩ := walk_of_reached hwalk
  have hname := isName_of_named hnamed
  have hgoes : GoesOn (s.last :: (slashes ++ more)) :=
    ⟨s.last, by simp, Path.ne_empty_of_isName hname⟩
  rw [hq, List.append_assoc, List.cons_append, hon .existing _ hgoes,
    walk_name hthere .existing left hname.1 hname.2 (.inl rfl)] at h
  rw [Slot.location] at hdir
  rw [hdir] at h
  split at h
  · cases h
  · exact ⟨slashes, left, hslashes, h⟩

/-- Where directories were made for a path, there is nothing yet at its last name. -/
theorem free_of_makes {t t' : FileTree} {q p : Path} (h : Makes q t t') (hsound : t.Sound)
    {before slashes : List String} {n : String} (hp : p.segments = before ++ n :: slashes)
    (hn : IsName n) (hslashes : ∀ s ∈ slashes, s = "") (hup : ".." ∉ before)
    (hrooted : q.rooted = p.rooted) (hq : q.segments <+: before) {d : Slot}
    (hd : t'.slot p = .ok d) : t' = t ∨ t'.get? d.location = none := by
  cases h with
  | start => exact .inl rfl
  | @next t₂ place hmakes hplace hnone =>
    obtain ⟨q', s, hrooted', hinit, hslot, hnamed, rfl⟩ := hplace
    have hplace := location_ne_nil s
    have hkeeps : Keeps t₂ (t₂.put s.location .directory) := .put hplace (by simp [hnone]) _
    generalize ht' : t₂.put s.location .directory = t' at hd hkeeps
    have hthere : t'.get? s.location = some .directory := by
      rw [← ht', get?_put _ hplace, if_pos rfl]
    have hahead (m : String) : t'.get? (s.location ++ [m]) = none := by
      rw [← ht', get?_put _ hplace, if_neg (by simp)]
      exact (hmakes.sound hsound).below (by simp [hnone]) m
    -- the way of `p` comes to the new directory and stays there
    obtain ⟨more, hmore⟩ := hinit.trans hq
    have hstart : t'.start p = t'.start q' := by rw [start, start, hrooted', hrooted]
    obtain ⟨directory, rfl, hwalk⟩ := slot_ok_of_last hp (Path.ne_empty_of_isName hn) hslashes hd
    rw [← hmore, hstart, List.append_assoc] at hwalk
    obtain ⟨slashes', left, hslashes', hwalk⟩ :=
      walk_behind (slot_keeps hkeeps hslot) hnamed hthere hwalk
    have hdown : ".." ∉ slashes' ++ (more ++ ["."]) := by
      rw [← hmore] at hup
      simp only [List.mem_append, List.mem_singleton, not_or] at hup ⊢
      exact ⟨fun hmem => absurd (hslashes' _ hmem) (by decide), hup.2, by decide⟩
    right
    rw [Slot.location, walk_stays hthere hahead hdown hwalk]
    exact hahead n

end RateCard.FileTree
