import RateCard.Proofs.FileTree.Walk
import RateCard.Proofs.Path.Staging

/-!
# Places that paths name

The place that a path names is found by the way to its directory. It stays the same in every tree
that keeps directories and links, and the path leads to it unless a link stands there.
-/
namespace RateCard.FileTree
open RateCard.Path (IsName)
open RateCard.Text (Bytes)

/-- The last segment that is not empty, if there is one, has only slashes behind it. -/
theorem last_segment (segments : List String) : (∀ s ∈ segments, s = "") ∨
    ∃ before last slashes, segments = before ++ last :: slashes ∧ last ≠ "" ∧
      ∀ s ∈ slashes, s = "" := by
  induction segments with
  | nil => exact .inl (by simp)
  | cons s rest ih =>
    rcases ih with hall | ⟨before, last, slashes, rfl, hlast, hslashes⟩
    · by_cases hs : s = ""
      · exact .inl (List.forall_mem_cons.2 ⟨hs, hall⟩)
      · exact .inr ⟨[], s, rest, rfl, hs, hall⟩
    · exact .inr ⟨s :: before, last, slashes, rfl, hlast, hslashes⟩

theorem follow_eq_ok {t : FileTree} {goal : Goal} {here place : Location} {segments : List String} :
    t.follow goal here segments = .ok place ↔ t.walk goal maxLinks here segments = .ok place := by
  rw [follow, mapError_eq_ok]

section Slot
variable {t : FileTree} {p : Path}

theorem slot_of_slashes (hrefused : refused? p = none) (h : ∀ s ∈ p.segments, s = "") :
    t.slot p = .ok ⟨t.start p, "", true⟩ := by
  have hdrop : p.segments.reverse.dropWhile (· == "") = [] := by
    rw [List.dropWhile_eq_nil_iff]
    intro s hs
    exact beq_iff_eq.2 (h s (List.mem_reverse.1 hs))
  rw [slot, hrefused]
  simp only [hdrop]

theorem slot_of_last {before slashes : List String} {last : String} (hrefused : refused? p = none)
    (h : p.segments = before ++ last :: slashes) (hlast : last ≠ "")
    (hslashes : ∀ s ∈ slashes, s = "") :
    t.slot p = (do
      let directory ← t.follow .existing (t.start p) (before ++ ["."])
      .ok ⟨directory, last, !slashes.isEmpty⟩) := by
  have hdrop : p.segments.reverse.dropWhile (· == "") = last :: before.reverse := by
    have hall : slashes.reverse.dropWhile (· == "") = [] := by
      rw [List.dropWhile_eq_nil_iff]
      intro s hs
      exact beq_iff_eq.2 (hslashes s (List.mem_reverse.1 hs))
    rw [h, List.reverse_append, List.reverse_cons, List.append_assoc, List.dropWhile_append, hall]
    simp [hlast]
  have hend : (p.segments.getLast? == some "") = !slashes.isEmpty := by
    rw [h, List.getLast?_append, List.getLast?_cons]
    cases hlist : slashes.getLast? with
    | none => simp [List.getLast?_eq_none_iff.1 hlist, hlast]
    | some s =>
      have hs := hslashes s (List.mem_of_getLast? hlist)
      have hne : slashes ≠ [] := by
        rintro rfl
        cases hlist
      simp [hs, hne]
  rw [slot, hrefused]
  simp only [hdrop, hend, List.reverse_reverse]

theorem refused_of_slot {s : Slot} (h : t.slot p = .ok s) : refused? p = none := by
  rw [slot] at h
  split at h
  · cases h
  · assumption

theorem slot_ok_of_last {before slashes : List String} {last : String} {s : Slot}
    (h : p.segments = before ++ last :: slashes) (hlast : last ≠ "")
    (hslashes : ∀ s ∈ slashes, s = "") (hs : t.slot p = .ok s) :
    ∃ directory, s = ⟨directory, last, !slashes.isEmpty⟩ ∧
      t.walk .existing maxLinks (t.start p) (before ++ ["."]) = .ok directory := by
  rw [slot_of_last (refused_of_slot hs) h hlast hslashes] at hs
  obtain ⟨directory, hfollow, hs⟩ := bind_eq_ok.1 hs
  exact ⟨directory, (Except.ok.inj hs).symm, follow_eq_ok.1 hfollow⟩

/-- What is known of a place that a path names. -/
theorem slot_cases {s : Slot} (h : t.slot p = .ok s) :
    (∀ s ∈ p.segments, s = "") ∧ s = ⟨t.start p, "", true⟩ ∨
      ∃ before slashes, p.segments = before ++ s.last :: slashes ∧ s.last ≠ "" ∧
        (∀ s ∈ slashes, s = "") ∧ s.slash = !slashes.isEmpty ∧
        t.walk .existing maxLinks (t.start p) (before ++ ["."]) = .ok s.directory := by
  have hrefused := refused_of_slot h
  rcases last_segment p.segments with hall | ⟨before, last, slashes, heq, hlast, hslashes⟩
  · rw [slot_of_slashes hrefused hall, Except.ok.injEq] at h
    exact .inl ⟨hall, h.symm⟩
  · obtain ⟨directory, rfl, hwalk⟩ := slot_ok_of_last heq hlast hslashes h
    exact .inr ⟨before, slashes, heq, hlast, hslashes, rfl, hwalk⟩

theorem isName_of_named {s : Slot} (h : s.named = true) : IsName s.last := by
  simpa [Slot.named, IsName] using h

theorem named_of_isName {s : Slot} (h : IsName s.last) : s.named = true := by
  simpa [Slot.named, IsName] using h

/-- A name stands in a directory. -/
theorem slot_named {s : Slot} (h : t.slot p = .ok s) (hnamed : s.named = true) :
    ∃ before slashes, p.segments = before ++ s.last :: slashes ∧ (∀ s ∈ slashes, s = "") ∧
      s.slash = !slashes.isEmpty ∧
      t.walk .existing maxLinks (t.start p) (before ++ ["."]) = .ok s.directory ∧
      t.get? s.directory = some .directory := by
  obtain ⟨-, rfl⟩ | ⟨before, slashes, heq, -, hslashes, hslash, hwalk⟩ := slot_cases h
  · cases hnamed
  · exact ⟨before, slashes, heq, hslashes, hslash, hwalk, (walk_of_reached hwalk).1⟩

theorem location_ne_nil (s : Slot) : s.location ≠ [] := List.concat_ne_nil _ _

/-- The last name of a path is that of its place. -/
theorem fileName_of_slot {s : Slot} (h : t.slot p = .ok s) (hnamed : s.named = true) :
    p.fileName? = some s.last := by
  obtain ⟨before, slashes, heq, hslashes, -⟩ := slot_named h hnamed
  exact Path.fileName_of_name heq (isName_of_named hnamed) hslashes

theorem slot_staging {s : Slot} (h : t.slot p.staging = .ok s) :
    s.last = p.fileName?.getD "pricing" ++ ".tmp" ∧ s.slash = false := by
  obtain ⟨before, hstaging⟩ := Path.staging_eq p
  have hname := Path.isName_tmp (p.fileName?.getD "pricing")
  have heq : p.staging.segments = before ++ [p.fileName?.getD "pricing" ++ ".tmp"] := by
    rw [hstaging]
  obtain ⟨directory, rfl, -⟩ := slot_ok_of_last heq (Path.ne_empty_of_isName hname) (by simp) h
  exact ⟨rfl, rfl⟩

theorem named_staging {s : Slot} (h : t.slot p.staging = .ok s) : s.named = true := by
  apply named_of_isName
  rw [(slot_staging h).1]
  exact Path.isName_tmp _

/-- Nothing is staged at the place that it is staged for. -/
theorem staging_ne {s d : Slot} {t' : FileTree} (hs : t.slot p.staging = .ok s)
    (hd : t'.slot p = .ok d) : s.location ≠ d.location := by
  intro h
  have hlast : s.last = d.last := by
    have := congrArg List.getLast? h
    simpa [Slot.location] using this
  have hnamed : d.named = true := by
    apply named_of_isName
    rw [← hlast]
    exact isName_of_named (named_staging hs)
  rw [(slot_staging hs).1, fileName_of_slot hd hnamed, Option.getD_some] at hlast
  exact Path.tmp_ne d.last hlast

end Slot

/-- A path names the same place in every tree that keeps directories and links. -/
theorem slot_keeps {t t' : FileTree} (hkeeps : Keeps t t') {p : Path} {s : Slot}
    (h : t.slot p = .ok s) : t'.slot p = .ok s := by
  have hstart : t'.start p = t.start p := by rw [start, start, hkeeps.1]
  have hrefused := refused_of_slot h
  obtain ⟨hall, rfl⟩ | ⟨before, slashes, heq, hlast, hslashes, hslash, hwalk⟩ := slot_cases h
  · rw [slot_of_slashes hrefused hall, hstart]
  · have hwalk' := walk_keeps hkeeps hwalk (walk_of_reached hwalk).1
    rw [slot_of_last hrefused heq hlast hslashes, hstart, follow_eq_ok.2 hwalk', ok_bind, ← hslash]

/-- The last segment does not depend on the tree. -/
theorem slot_same {t t' : FileTree} {p : Path} {s s' : Slot} (h : t.slot p = .ok s)
    (h' : t'.slot p = .ok s') : s'.last = s.last ∧ s'.slash = s.slash := by
  have hrefused := refused_of_slot h
  rcases last_segment p.segments with hall | ⟨before, last, slashes, heq, hlast, hslashes⟩
  · rw [slot_of_slashes hrefused hall, Except.ok.injEq] at h h'
    rw [← h, ← h']
    exact ⟨rfl, rfl⟩
  · obtain ⟨directory, rfl, -⟩ := slot_ok_of_last heq hlast hslashes h
    obtain ⟨directory', rfl, -⟩ := slot_ok_of_last heq hlast hslashes h'
    exact ⟨rfl, rfl⟩

/-! ## What stands at a path -/

/-- What stands at a path, a link there not followed. -/
def standing (t : FileTree) (p : Path) : Option Entry :=
  match t.slot p with
  | .ok s => if s.named then t.get? s.location else some .directory
  | .error _ => none

theorem standing_of_slot {t : FileTree} {p : Path} {s : Slot} (h : t.slot p = .ok s)
    (hnamed : s.named = true) : t.standing p = t.get? s.location := by
  simp only [standing, h, hnamed, if_true]

theorem standing_of_fault {t : FileTree} {p : Path} {fault : IoFault}
    (h : t.slot p = .error fault) : t.standing p = none := by
  simp only [standing, h]

/-- Trees that keep each other's ways differ at a path only if they do at its place. -/
theorem standing_congr {t t' : FileTree} {p : Path} (hkeeps : Keeps t t') (hkeeps' : Keeps t' t)
    (h : ∀ s, t.slot p = .ok s → t'.get? s.location = t.get? s.location) :
    t'.standing p = t.standing p := by
  cases hslot : t.slot p with
  | ok s => simp only [standing, hslot, slot_keeps hkeeps hslot, h s hslot]
  | error fault =>
    cases hslot' : t'.slot p with
    | ok s => cases hslot.symm.trans (slot_keeps hkeeps' hslot')
    | error fault' => rw [standing_of_fault hslot, standing_of_fault hslot']

/-! ## Ways to a place -/

/-- A path that ends with a name leads to its place, unless a link stands there. -/
theorem resolve_file {t : FileTree} {p : Path} {before : List String} {n : String}
    (h : p.segments = before ++ [n]) (hn : IsName n)
    (hlink : ∀ s, t.slot p = .ok s → ∀ target, t.get? s.location ≠ some (.link target)) :
    t.resolve .file p = (do
      let s ← t.slot p
      let _ ← t.lookUp s
      .ok s.location) := by
  rw [resolve]
  cases hrefused : refused? p with
  | some fault =>
    rw [slot, hrefused]
    rfl
  | none =>
    have hslot := slot_of_last (t := t) hrefused h (Path.ne_empty_of_isName hn) (by simp)
    have hgoes : GoesOn [n] := ⟨n, by simp, Path.ne_empty_of_isName hn⟩
    cases leads t maxLinks (t.start p) before with
    | fails e he =>
      simp only [hslot, follow, h, he _ _ goesOn_here, he _ _ hgoes, mapError_error, error_bind]
    | reaches left dir hdir hd =>
      have hfollow : t.follow .existing (t.start p) (before ++ ["."]) = .ok dir :=
        follow_eq_ok.2 (by rw [hd _ _ goesOn_here, walk_here hdir])
      rw [hfollow, ok_bind] at hslot
      have hfile := walk_name hdir .file left hn.1 hn.2 (.inr (.inl rfl))
      simp only [hslot, ok_bind, follow, h, hd _ _ hgoes, hfile, lookUp, Slot.location]
      by_cases hlong : maxNameBytes < n.utf8ByteSize
      · rw [if_pos hlong, if_pos hlong]
        rfl
      · rw [if_neg hlong, if_neg hlong]
        cases hget : t.get? (dir ++ [n]) with
        | none => rfl
        | some e =>
          cases e with
          | link target => exact absurd hget (hlink _ hslot target)
          | _ => exact congrArg _ (walk_nil t .file left _)

theorem resolve_existing {t : FileTree} {p : Path} {s : Slot} {e : Entry} (h : t.slot p = .ok s)
    (hnamed : s.named = true) (hslash : s.slash = false)
    (hlength : s.last.utf8ByteSize ≤ maxNameBytes) (he : t.get? s.location = some e)
    (hlink : ∀ target, e ≠ .link target) : t.resolve .existing p = .ok s.location := by
  obtain ⟨before, slashes, heq, -, hslashes, hwalk, -⟩ := slot_named h hnamed
  obtain rfl : slashes = [] := by simpa [hslash] using hslashes
  obtain ⟨hdir, left, hon⟩ := walk_of_reached hwalk
  have hname := isName_of_named hnamed
  have hgoes : GoesOn [s.last] := ⟨s.last, by simp, Path.ne_empty_of_isName hname⟩
  rw [resolve, refused_of_slot h]
  simp only
  rw [follow_eq_ok, heq, hon .existing [s.last] hgoes,
    walk_name hdir .existing left hname.1 hname.2 (.inl rfl), if_neg (by omega)]
  rw [Slot.location] at he
  rw [he]
  cases e with
  | link target => exact absurd rfl (hlink target)
  | _ => exact walk_nil t .existing left _

/-- A file is read by every path that names it without a slash behind it. -/
theorem read_of_slot {t : FileTree} {p : Path} {s : Slot} {contents : Bytes}
    (h : t.slot p = .ok s) (hnamed : s.named = true) (hslash : s.slash = false)
    (hlength : s.last.utf8ByteSize ≤ maxNameBytes)
    (hget : t.get? s.location = some (.file contents)) : t.read p = .ok contents := by
  rw [read, resolve_existing h hnamed hslash hlength hget (by simp), ok_bind, hget]

theorem slot_of_resolve {t : FileTree} {goal : Goal} {p : Path} {place : Location}
    (h : t.resolve goal p = .ok place) : ∃ s, t.slot p = .ok s := by
  rw [resolve] at h
  split at h
  · cases h
  · rename_i hrefused
    rcases last_segment p.segments with hall | ⟨before, last, slashes, heq, hlast, hslashes⟩
    · exact ⟨_, slot_of_slashes hrefused hall⟩
    · rw [follow_eq_ok, heq] at h
      obtain ⟨directory, -, hwalk, -⟩ := reached_of_walk ⟨last, by simp, hlast⟩ h
      rw [slot_of_last hrefused heq hlast hslashes, follow_eq_ok.2 hwalk]
      exact ⟨_, rfl⟩

end RateCard.FileTree
