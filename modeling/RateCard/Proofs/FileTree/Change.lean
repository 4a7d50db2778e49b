import RateCard.Proofs.FileTree.Slot

/-!
# What operations change

An operation that succeeds on a named place has made its one change there and leaves every entry in
a directory.
-/
namespace RateCard.FileTree
open RateCard.Text (Bytes)

/-- Every entry stands in a directory. -/
def Sound (t : FileTree) : Prop := ∀ l n, t.get? (l ++ [n]) ≠ none → t.get? l = some .directory

theorem mem_of_find {l : Location} {e : Entry} {entries : List (Location × Entry)}
    (h : find l entries = some e) : (l, e) ∈ entries := by
  induction entries with
  | nil => cases h
  | cons entry entries ih =>
    rw [find] at h
    split at h
    · rename_i heq
      rw [← heq, ← Option.some.inj h]
      exact List.mem_cons_self
    · exact List.mem_cons_of_mem _ (ih h)

theorem sound_of_entries {t : FileTree}
    (h : ∀ entry ∈ t.entries, t.get? entry.1.dropLast = some .directory) : t.Sound := by
  intro l n hget
  rw [get?, if_neg (List.concat_ne_nil _ _)] at hget
  obtain ⟨e, he⟩ := Option.ne_none_iff_exists'.1 hget
  have hdir := h _ (mem_of_find he)
  rwa [List.dropLast_concat] at hdir

theorem sound_fresh : FileTree.fresh.Sound := sound_of_entries (by decide)

theorem Sound.put {t : FileTree} (h : t.Sound) {l : Location} {n : String} {e : Entry}
    (hdir : t.get? l = some .directory)
    (hthere : t.get? (l ++ [n]) = some .directory → e = .directory) :
    (t.put (l ++ [n]) e).Sound := by
  have hne : l ++ [n] ≠ [] := List.concat_ne_nil _ _
  intro l' n' hget
  rw [get?_put t hne] at hget ⊢
  have hdir' : t.get? l' = some .directory := by
    by_cases heq : l' ++ [n'] = l ++ [n]
    · rw [List.append_inj_left' heq rfl]
      exact hdir
    · rw [if_neg heq] at hget
      exact h l' n' hget
  by_cases heq : l' = l ++ [n]
  · rw [if_pos heq, hthere (heq ▸ hdir')]
  · rw [if_neg heq, hdir']

theorem Sound.erase {t : FileTree} (h : t.Sound) {place : Location} (hplace : place ≠ [])
    (hnot : t.get? place ≠ some .directory) : (t.erase place).Sound := by
  intro l n hget
  rw [get?_erase t hplace] at hget ⊢
  have hthere : t.get? (l ++ [n]) ≠ none := by
    by_cases heq : l ++ [n] = place
    · simp [heq] at hget
    · rwa [if_neg heq] at hget
  have hdir := h l n hthere
  have hne : l ≠ place := by
    rintro rfl
    exact hnot hdir
  rw [if_neg hne, hdir]

/-- Nothing stands below what is no directory. -/
theorem Sound.below {t : FileTree} (h : t.Sound) {l : Location} (hl : t.get? l ≠ some .directory)
    (n : String) : t.get? (l ++ [n]) = none := by
  by_contra hne
  exact hl (h l n hne)

/-- The root is a directory. -/
theorem ne_nil_of_get? {t : FileTree} {l : Location} (h : t.get? l ≠ some .directory) : l ≠ [] := by
  rintro rfl
  exact h rfl

/-! ## Operations on a place -/

section Operations
variable {t t' : FileTree} {p : Path}

theorem lookUp_cases {s : Slot} {there : Option Entry} (h : t.lookUp s = .ok there) :
    s.last.utf8ByteSize ≤ maxNameBytes ∧ t.get? s.location = there := by
  rw [lookUp] at h
  split at h
  · cases h
  · exact ⟨by omega, Except.ok.inj h⟩

theorem makeDir_cases (h : t.makeDir p = .ok t') : ∃ s, t.slot p = .ok s ∧ s.named = true ∧
    t.get? s.location = none ∧ t' = t.put s.location .directory := by
  rw [makeDir] at h
  obtain ⟨s, hslot, h⟩ := bind_eq_ok.1 h
  cases hnamed : s.named with
  | false => simp [hnamed, fail] at h
  | true =>
    rw [hnamed, Bool.not_true, if_neg Bool.false_ne_true] at h
    obtain ⟨there, hthere, h⟩ := bind_eq_ok.1 h
    cases there with
    | some e => cases h
    | none => exact ⟨s, hslot, hnamed, (lookUp_cases hthere).2, (Except.ok.inj h).symm⟩

/-- Contents go to the place that a path leads to, or into the device there. -/
theorem write_cases {bytes : Bytes} (h : t.write p bytes = .ok t') :
    ∃ place, t.resolve .file p = .ok place ∧ t.get? place ≠ some .directory ∧
      ((∃ kind, t.get? place = some (.device kind)) ∧ t' = t ∨
        (∀ kind, t.get? place ≠ some (.device kind)) ∧ t' = t.put place (.file bytes)) := by
  rw [write] at h
  obtain ⟨place, hresolve, h⟩ := bind_eq_ok.1 h
  refine ⟨place, hresolve, ?_⟩
  cases hget : t.get? place with
  | none =>
    rw [hget] at h
    exact ⟨by simp, .inr ⟨by simp, (Except.ok.inj h).symm⟩⟩
  | some e =>
    rw [hget] at h
    cases e with
    | directory => cases h
    | device kind =>
      refine ⟨by simp, .inl ⟨⟨kind, rfl⟩, ?_⟩⟩
      cases kind with
      | null => exact (Except.ok.inj h).symm
      | full =>
        simp only at h
        split at h
        · exact (Except.ok.inj h).symm
        · cases h
    | _ => exact ⟨by simp, .inr ⟨by simp, (Except.ok.inj h).symm⟩⟩

theorem rename_cases {source destination : Path} (h : t.rename source destination = .ok t') :
    ∃ s d e, t.slot source = .ok s ∧ t.slot destination = .ok d ∧ d.named = true ∧
      d.slash = false ∧ d.last.utf8ByteSize ≤ maxNameBytes ∧ t.get? s.location = some e ∧
      t.get? d.location ≠ some .directory ∧ t' = (t.erase s.location).put d.location e := by
  rw [rename] at h
  obtain ⟨s, hs, h⟩ := bind_eq_ok.1 h
  obtain ⟨d, hd, h⟩ := bind_eq_ok.1 h
  by_cases hnamed : (!s.named || !d.named) = true
  · simp [hnamed, fail] at h
  rw [if_neg hnamed] at h
  obtain ⟨there, hsource, h⟩ := bind_eq_ok.1 h
  have hget := lookUp_cases hsource
  cases there with
  | none => cases h
  | some e =>
    by_cases hdir : e = Entry.directory
    · rw [hdir] at h
      cases h
    have hmove : (do
        let there ← t.lookUp d
        if s.slash || d.slash then fail .notDirectory
        else if there = some Entry.directory then fail .isDirectory
        else .ok ((t.erase s.location).put d.location e)) = .ok t' := by
      cases e with
      | directory => exact absurd rfl hdir
      | _ => exact h
    obtain ⟨old, hold, hmove⟩ := bind_eq_ok.1 hmove
    by_cases hslash : (s.slash || d.slash) = true
    · simp [hslash, fail] at hmove
    rw [if_neg hslash] at hmove
    by_cases hfree : old = some .directory
    · simp [hfree, fail] at hmove
    rw [if_neg hfree, Except.ok.injEq] at hmove
    simp only [Bool.or_eq_true, Bool.not_eq_true', not_or, Bool.not_eq_false] at hnamed hslash
    refine ⟨s, d, e, hs, hd, hnamed.2, Bool.eq_false_iff.2 hslash.2, (lookUp_cases hold).1, hget.2,
      ?_, hmove.symm⟩
    rw [(lookUp_cases hold).2]
    exact hfree

theorem lookUp_of_short {s : Slot} (h : s.last.utf8ByteSize ≤ maxNameBytes) :
    t.lookUp s = .ok (t.get? s.location) := by
  rw [lookUp, if_neg (by omega)]

section MakeDir
variable {s : Slot} (hslot : t.slot p = .ok s) (hnamed : s.named = true)
  (hshort : s.last.utf8ByteSize ≤ maxNameBytes)
include hslot hnamed hshort

theorem makeDir_of_free (hget : t.get? s.location = none) :
    t.makeDir p = .ok (t.put s.location .directory) := by
  simp [makeDir, hslot, hnamed, lookUp_of_short hshort, hget]

theorem makeDir_of_taken {e : Entry} (hget : t.get? s.location = some e) :
    t.makeDir p = .error (.system .alreadyExists) := by
  simp [makeDir, hslot, hnamed, lookUp_of_short hshort, hget, fail]

end MakeDir

/-- What is no directory can be moved to any place where no directory stands. -/
theorem rename_of_slots {source destination : Path} {s d : Slot} {e : Entry}
    (hs : t.slot source = .ok s) (hd : t.slot destination = .ok d)
    (hnamed : s.named = true ∧ d.named = true) (hslash : s.slash = false ∧ d.slash = false)
    (hshort : s.last.utf8ByteSize ≤ maxNameBytes ∧ d.last.utf8ByteSize ≤ maxNameBytes)
    (he : t.get? s.location = some e) (hentry : e ≠ .directory)
    (hfree : t.get? d.location ≠ some .directory) :
    t.rename source destination = .ok ((t.erase s.location).put d.location e) := by
  simp only [rename, hs, hd, ok_bind, hnamed, hslash, lookUp_of_short hshort.1,
    lookUp_of_short hshort.2, he, hfree, Bool.not_true, Bool.or_false, Bool.false_eq_true, if_false]

end Operations
end RateCard.FileTree
