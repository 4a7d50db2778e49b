import RateCard.Artifact.Write
import RateCard.Proofs.FileTree.Parents

/-!
# Staging and moving

What is staged for a path stands at a place of its own, so that a failed attempt changes nothing but
that place, and a successful one that place and the destination.
-/
namespace RateCard.Artifact
open RateCard.FileTree
open RateCard.Text (Bytes)

/-- No link stands where the staging path of `p` leads. -/
def NoStagedLink (t : FileTree) (p : Path) : Prop :=
  ∀ s, t.slot p.staging = .ok s → ∀ target, t.get? s.location ≠ some (.link target)

/-- Nothing but a directory or a file stands where the staging path of `p` leads. -/
def Clear (t : FileTree) (p : Path) : Prop :=
  ∀ s e, t.slot p.staging = .ok s → t.get? s.location = some e →
    e = .directory ∨ ∃ contents, e = .file contents

theorem Clear.noStagedLink {t : FileTree} {p : Path} (h : Clear t p) : NoStagedLink t p := by
  intro s hslot target hget
  rcases h s _ hslot hget with hdir | ⟨contents, hfile⟩
  · cases hdir
  · cases hfile

theorem clear_of_slot {t : FileTree} {p : Path} {s : Slot} (hs : t.slot p.staging = .ok s)
    (h : ∀ e, t.get? s.location = some e → e = .directory ∨ ∃ contents, e = .file contents) :
    Clear t p := by
  intro s' e hs' he
  rw [hs, Except.ok.injEq] at hs'
  subst hs'
  exact h e he

theorem clear_of_none {t : FileTree} {p : Path} {s : Slot} (hs : t.slot p.staging = .ok s)
    (h : t.get? s.location = none) : Clear t p :=
  clear_of_slot hs fun e he => absurd (h.symm.trans he) (by simp)

section Staging
variable {t t' : FileTree} {p : Path} {bytes : Bytes}

theorem write_staging (h : NoStagedLink t p) (bytes : Bytes) :
    t.write p.staging bytes = (do
      let s ← t.slot p.staging
      match ← t.lookUp s with
      | some .directory => fail .isDirectory
      | some (.device .null) => .ok t
      | some (.device .full) => if bytes.isEmpty then .ok t else fail .noSpace
      | _ => .ok (t.put s.location (.file bytes))) := by
  obtain ⟨before, hstaging⟩ := Path.staging_eq p
  have hsegments : p.staging.segments = before ++ [p.fileName?.getD "pricing" ++ ".tmp"] := by
    rw [hstaging]
  rw [FileTree.write, resolve_file hsegments (Path.isName_tmp _) h]
  cases t.slot p.staging with
  | error fault => rfl
  | ok s =>
    simp only [ok_bind]
    cases hthere : t.lookUp s with
    | error fault => rfl
    | ok there =>
      obtain rfl := (lookUp_cases hthere).2
      rfl

/-- What a write to the staging path has done: it filled a place that was free or held a file, or
went to a device. -/
theorem write_staging_cases (h : NoStagedLink t p) {t₁ : FileTree}
    (hwrite : t.write p.staging bytes = .ok t₁) :
    ∃ s, t.slot p.staging = .ok s ∧ s.last.utf8ByteSize ≤ maxNameBytes ∧
      ((∃ kind, t.get? s.location = some (.device kind)) ∧ t₁ = t ∨
        (t.get? s.location = none ∨ ∃ old, t.get? s.location = some (.file old)) ∧
          t₁ = t.put s.location (.file bytes)) := by
  rw [write_staging h] at hwrite
  obtain ⟨s, hslot, hwrite⟩ := bind_eq_ok.1 hwrite
  obtain ⟨there, hthere, hwrite⟩ := bind_eq_ok.1 hwrite
  obtain ⟨hlength, hget⟩ := lookUp_cases hthere
  refine ⟨s, hslot, hlength, ?_⟩
  rw [hget]
  cases there with
  | none => exact .inr ⟨.inl rfl, (Except.ok.inj hwrite).symm⟩
  | some e =>
    cases e with
    | directory => cases hwrite
    | file old => exact .inr ⟨.inr ⟨old, rfl⟩, (Except.ok.inj hwrite).symm⟩
    | link target => exact absurd hget (h s hslot target)
    | device kind =>
      left
      refine ⟨⟨kind, rfl⟩, ?_⟩
      cases kind with
      | null => exact (Except.ok.inj hwrite).symm
      | full =>
        simp only at hwrite
        split at hwrite
        · exact (Except.ok.inj hwrite).symm
        · cases hwrite

/-- What is removed from a staging path is a file, a link or a device. -/
theorem discard_cases (t : FileTree) (p : Path) : discard t p.staging = t ∨
    ∃ s e, t.slot p.staging = .ok s ∧ t.get? s.location = some e ∧ e ≠ .directory ∧
      discard t p.staging = t.erase s.location := by
  rw [discard, remove]
  cases hslot : t.slot p.staging with
  | error fault => exact .inl rfl
  | ok s =>
    simp only [ok_bind, named_staging hslot, Bool.not_true, Bool.false_eq_true, if_false]
    cases hthere : t.lookUp s with
    | error fault => exact .inl rfl
    | ok there =>
      have hget := (lookUp_cases hthere).2
      cases there with
      | none => exact .inl rfl
      | some e =>
        cases e with
        | directory => exact .inl rfl
        | _ =>
          rw [(slot_staging hslot).2]
          exact .inr ⟨s, _, rfl, hget, by simp, rfl⟩

/-- A staged file is removed. -/
theorem discard_staged {s : Slot} (hslot : t.slot p.staging = .ok s)
    (hlength : s.last.utf8ByteSize ≤ maxNameBytes) {contents : Bytes}
    (hget : t.get? s.location = some (.file contents)) :
    discard t p.staging = t.erase s.location := by
  have hthere : t.lookUp s = .ok (some (.file contents)) := by
    rw [lookUp_of_short hlength, hget]
  rw [discard, remove]
  simp only [hslot, hthere, ok_bind, named_staging hslot, (slot_staging hslot).2]
  rfl

/-! ## Attempts -/

/-- One tree is another one but for what stood at the staging place of `p`. -/
def Cleared (t t' : FileTree) (p : Path) : Prop :=
  t'.workDir = t.workDir ∧ ∀ l, t'.get? l = t.get? l ∨
    t'.get? l = none ∧ (∃ s, t.slot p.staging = .ok s ∧ s.location = l) ∧
      ∃ e, t.get? l = some e ∧ e.passes = false

theorem Cleared.refl (t : FileTree) (p : Path) : Cleared t t p := ⟨rfl, fun _ => .inl rfl⟩

theorem Cleared.keeps (h : Cleared t t' p) : Keeps t t' := by
  refine ⟨h.1, fun l e he hl => ?_⟩
  rcases h.2 l with heq | ⟨-, -, e', hl', he'⟩
  · rw [heq, hl]
  · rw [hl, Option.some.injEq] at hl'
    rw [hl', he'] at he
    cases he

theorem Cleared.get?_of_some (h : Cleared t t' p) {l : Location} {e : Entry}
    (hl : t'.get? l = some e) : t.get? l = some e := by
  rcases h.2 l with heq | ⟨hnone, -⟩
  · rw [← heq, hl]
  · cases hnone.symm.trans hl

theorem Cleared.keeps_symm (h : Cleared t t' p) : Keeps t' t :=
  ⟨h.1.symm, fun _ _ _ hl => h.get?_of_some hl⟩

theorem cleared_discard (h : NoStagedLink t p) : Cleared t (discard t p.staging) p := by
  rcases discard_cases t p with heq | ⟨s, e, hslot, hget, hdir, heq⟩
  · rw [heq]
    exact .refl t p
  · have hpasses : e.passes = false := by
      cases e with
      | directory => exact absurd rfl hdir
      | link target => exact absurd hget (h s hslot target)
      | _ => rfl
    rw [heq]
    refine ⟨rfl, fun l => ?_⟩
    rw [get?_erase t (location_ne_nil s)]
    by_cases hl : l = s.location
    · subst hl
      exact .inr ⟨if_pos rfl, ⟨s, hslot, rfl⟩, e, hget, hpasses⟩
    · exact .inl (if_neg hl)

/-! ## Attempts that stage a file -/

section Staged
variable {s : Slot} (hslot : t.slot p.staging = .ok s)
  (hfree : t.get? s.location = none ∨ ∃ old, t.get? s.location = some (.file old))
include hfree

theorem keeps_staged (bytes : Bytes) : Keeps t (t.put s.location (.file bytes)) := by
  refine .put (location_ne_nil s) (fun e he => ?_) _
  rcases hfree with hnone | ⟨old, hold⟩
  · rw [hnone] at he
    cases he
  · rw [hold, Option.some.injEq] at he
    rw [← he]
    rfl

include hslot

theorem cleared_staged (hlength : s.last.utf8ByteSize ≤ maxNameBytes) (bytes : Bytes) :
    Cleared t (discard (t.put s.location (.file bytes)) p.staging) p := by
  have hplace := location_ne_nil s
  have hget : (t.put s.location (.file bytes)).get? s.location = some (.file bytes) := by
    rw [get?_put t hplace, if_pos rfl]
  rw [discard_staged (slot_keeps (keeps_staged hfree bytes) hslot) hlength hget]
  refine ⟨rfl, fun l => ?_⟩
  rw [get?_erase _ hplace, get?_put t hplace]
  by_cases hl : l = s.location
  · subst hl
    rcases hfree with hnone | ⟨old, hold⟩
    · exact .inl (by rw [if_pos rfl, hnone])
    · exact .inr ⟨if_pos rfl, ⟨s, hslot, rfl⟩, .file old, hold, rfl⟩
  · exact .inl (by rw [if_neg hl, if_neg hl])

end Staged

theorem place_error (h : NoStagedLink t p) {failure : Failure}
    (hplace : place t p bytes = (.error failure, t')) :
    (∃ q fault, failure = .io q fault) ∧ Cleared t t' p := by
  rw [place] at hplace
  split at hplace
  · obtain ⟨hfailure, rfl⟩ := Prod.mk.inj hplace
    exact ⟨⟨_, _, (Except.error.inj hfailure).symm⟩, cleared_discard h⟩
  · rename_i t₁ hwrite
    split at hplace
    · obtain ⟨hfailure, rfl⟩ := Prod.mk.inj hplace
      refine ⟨⟨_, _, (Except.error.inj hfailure).symm⟩, ?_⟩
      obtain ⟨s, hslot, hlength, ⟨-, rfl⟩ | ⟨hfree, rfl⟩⟩ := write_staging_cases h hwrite
      · exact cleared_discard h
      · exact cleared_staged hslot hfree hlength bytes
    · cases hplace

/-- One tree is another one with a file moved from the staging place `s` of `p` to its place `d`. -/
structure Placed (t t' : FileTree) (p : Path) (bytes : Bytes) (s d : Slot) : Prop where
  staged : t.slot p.staging = .ok s
  slot : t.slot p = .ok d
  named : d.named = true
  slash : d.slash = false
  short : d.last.utf8ByteSize ≤ maxNameBytes
  free : t.get? s.location = none ∨ ∃ old, t.get? s.location = some (.file old)
  notDirectory : t.get? d.location ≠ some .directory
  workDir : t'.workDir = t.workDir
  destination : t'.get? d.location = some (.file bytes)
  staging : t'.get? s.location = none
  elsewhere : ∀ l, l ≠ d.location → l ≠ s.location → t'.get? l = t.get? l

theorem place_ok (h : Clear t p) (hplace : place t p bytes = (.ok (), t')) :
    ∃ s d, Placed t t' p bytes s d := by
  rw [place] at hplace
  split at hplace
  · cases hplace
  rename_i t₁ hwrite
  split at hplace
  · cases hplace
  rename_i t₂ hrename
  obtain ⟨-, rfl⟩ := Prod.mk.inj hplace
  obtain ⟨s, hslot, hlength, ⟨⟨kind, hdevice⟩, -⟩ | ⟨hfree, rfl⟩⟩ :=
    write_staging_cases h.noStagedLink hwrite
  · rcases h s _ hslot hdevice with hdir | ⟨contents, hfile⟩
    · cases hdir
    · cases hfile
  have hslot' := slot_keeps (keeps_staged hfree bytes) hslot
  obtain ⟨s', d, e, hs', hd', hnamed, hslash, hshort, he, hdir, rfl⟩ := rename_cases hrename
  obtain rfl : s' = s := by
    rw [hslot', Except.ok.injEq] at hs'
    exact hs'.symm
  have hne := staging_ne hslot' hd'
  have hs := location_ne_nil s'
  have hd := location_ne_nil d
  rw [get?_put t hs, if_pos rfl, Option.some.injEq] at he
  subst he
  rw [get?_put t hs, if_neg hne.symm] at hdir
  refine ⟨s', d, hslot, slot_keeps (.of_put hs rfl) hd', hnamed, hslash, hshort, hfree, hdir, rfl,
    ?_, ?_, fun l hl hl' => ?_⟩
  · rw [get?_put _ hd, if_pos rfl]
  · rw [get?_put _ hd, if_neg hne, get?_erase _ hs, if_pos rfl]
  · rw [get?_put _ hd, if_neg hl, get?_erase _ hs, if_neg hl', get?_put t hs, if_neg hl']

namespace Placed
variable {s d : Slot} (h : Placed t t' p bytes s d)
include h

/-- What ways pass through does not stand at the staging place. -/
theorem ne_staging {l : Location} {e : Entry} (he : e.passes = true) (hl : t.get? l = some e) :
    l ≠ s.location := by
  rintro rfl
  rcases h.free with hnone | ⟨old, hold⟩
  · rw [hnone] at hl
    cases hl
  · rw [hold, Option.some.injEq] at hl
    rw [← hl] at he
    cases he

theorem keeps_erase : Keeps (t.erase d.location) t' := by
  refine ⟨h.workDir, fun l e he hl => ?_⟩
  rw [get?_erase t (location_ne_nil d)] at hl
  by_cases hd : l = d.location
  · simp [hd] at hl
  · rw [if_neg hd] at hl
    rw [h.elsewhere l hd (h.ne_staging he hl), hl]

theorem keeps_symm : Keeps t' (t.erase d.location) := by
  refine ⟨h.workDir.symm, fun l e he hl => ?_⟩
  have hd : l ≠ d.location := by
    rintro rfl
    rw [h.destination, Option.some.injEq] at hl
    rw [← hl] at he
    cases he
  have hs : l ≠ s.location := by
    rintro rfl
    rw [h.staging] at hl
    cases hl
  rw [get?_erase t (location_ne_nil d), if_neg hd, ← h.elsewhere l hd hs, hl]

/-- No way is lost unless a link was replaced. -/
theorem keeps (hlink : ∀ target, t.get? d.location ≠ some (.link target)) : Keeps t t' := by
  refine Keeps.trans (.erase (location_ne_nil d) fun e he => ?_) h.keeps_erase
  cases e with
  | directory => exact absurd he h.notDirectory
  | link target => exact absurd he (hlink target)
  | _ => rfl

theorem slot_of_slot {q : Path} {s' : Slot} (hq : t'.slot q = .ok s') : t.slot q = .ok s' :=
  slot_keeps (h.keeps_symm.trans (.of_erase t (location_ne_nil d))) hq

/-- Nothing is left where the staging path led. -/
theorem staging_none {s' : Slot} (hs' : t.slot p.staging = .ok s') :
    t'.get? s'.location = none := by
  rw [h.staged, Except.ok.injEq] at hs'
  rw [← hs', h.staging]

/-- The destination is still named by its path if the way there does not pass what was replaced. -/
theorem slot_iff : t'.slot p = .ok d ↔ (t.erase d.location).slot p = .ok d :=
  ⟨slot_keeps h.keeps_symm, slot_keeps h.keeps_erase⟩

theorem read_ok (hslot : t'.slot p = .ok d) : t'.read p = .ok bytes :=
  read_of_slot hslot h.named h.slash h.short h.destination

theorem standing_ok (hslot : t'.slot p = .ok d) : t'.standing p = some (.file bytes) := by
  rw [standing_of_slot hslot h.named, h.destination]

theorem slot_of_read {bytes' : Bytes} (hread : t'.read p = .ok bytes') : t'.slot p = .ok d := by
  obtain ⟨place, hresolve, -⟩ := bind_eq_ok.1 hread
  obtain ⟨d', hd'⟩ := slot_of_resolve hresolve
  have heq := h.slot_of_slot hd'
  rw [h.slot, Except.ok.injEq] at heq
  rw [hd', heq]

theorem sound (ht : t.Sound) : t'.Sound := by
  obtain ⟨-, -, -, -, -, -, hdir⟩ := slot_named h.slot h.named
  have hkept {l : Location} (hl : t.get? l = some .directory) : t'.get? l = some .directory := by
    have hd : l ≠ d.location := by
      rintro rfl
      exact h.notDirectory hl
    rw [h.elsewhere l hd (h.ne_staging rfl hl), hl]
  intro l n hget
  by_cases hd : l ++ [n] = d.location
  · rw [List.append_inj_left' hd rfl]
    exact hkept hdir
  by_cases hs : l ++ [n] = s.location
  · rw [hs, h.staging] at hget
    exact absurd rfl hget
  · rw [h.elsewhere _ hd hs] at hget
    exact hkept (ht l n hget)

end Placed
end Staging
end RateCard.Artifact
