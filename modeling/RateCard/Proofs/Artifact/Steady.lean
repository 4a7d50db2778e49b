import RateCard.Proofs.Artifact.Write

/-!
# What a write leaves of the destination

Where nothing but a file stands at a plain destination, a write that fails leaves what stands there,
at each of its three stages, and one that succeeds leaves the printed prices. Either way the next
write finds the tree in the same good order.
-/
namespace RateCard.Artifact
open RateCard.FileTree
open RateCard.Text (Bytes)

/-- What a write relies on: at most a file stands at the destination, and what stands at the staging
place is no link. -/
structure Steady (t : FileTree) (p : Path) : Prop where
  sound : t.Sound
  destination : t.standing p = none ∨ ∃ bytes, t.standing p = some (.file bytes)
  clear : Clear t p

variable {t t' : FileTree} {p : Path}

/-! ## Making parents -/

/-- Nothing stands yet at the last name of a path behind new parents. -/
theorem makeParents_free (hp : p.Plain) (ht : t.Sound) {q : Path} (hq : q = p ∨ q = p.staging)
    {d : Slot} (hd : (makeParents t p).2.slot q = .ok d) :
    (makeParents t p).2 = t ∨ (makeParents t p).2.get? d.location = none := by
  rcases makeParents_cases t p with heq | ⟨parent, hparent, hmakes⟩
  · exact .inl heq
  obtain ⟨before, n, slashes, hsegments, hn, hslashes, hup⟩ := hp
  obtain ⟨init, hinit, hstaging, hbefore⟩ := Path.staging_of_name hsegments hn hslashes
  obtain rfl := Option.some.inj (hparent.symm.trans hinit)
  rcases hq with rfl | rfl
  · exact free_of_makes hmakes ht hsegments hn hslashes hup rfl hbefore hd
  · have htmp : p.staging.segments = init ++ (n ++ ".tmp") :: [] := by rw [hstaging]
    have hrooted : p.rooted = p.staging.rooted := by rw [hstaging]
    exact free_of_makes hmakes ht htmp (Path.isName_tmp n) (by simp)
      (fun hmem => hup (hbefore.subset hmem)) hrooted List.prefix_rfl hd

theorem named_of_plain (hp : p.Plain) {d : Slot} (hd : t.slot p = .ok d) : d.named = true := by
  obtain ⟨before, n, slashes, hsegments, hn, hslashes, -⟩ := hp
  obtain ⟨directory, rfl, -⟩ :=
    slot_ok_of_last hsegments (Path.ne_empty_of_isName hn) hslashes hd
  exact named_of_isName hn

theorem standing_makeParents (hp : p.Plain) (ht : t.Sound) :
    (makeParents t p).2.standing p = t.standing p := by
  have hmakes := makes_makeParents t p
  cases hslot : t.slot p with
  | ok d =>
    have hslot' := slot_keeps hmakes.keeps hslot
    have hnamed := named_of_plain hp hslot
    rw [standing_of_slot hslot hnamed, standing_of_slot hslot' hnamed]
    cases hget : t.get? d.location with
    | some e => exact hmakes.get?_of_some hget
    | none =>
      rcases makeParents_free hp ht (.inl rfl) hslot' with heq | hnone
      · rw [heq, hget]
      · exact hnone
  | error fault =>
    rw [standing_of_fault hslot]
    cases hslot' : (makeParents t p).2.slot p with
    | error fault' => exact standing_of_fault hslot'
    | ok d =>
      rcases makeParents_free hp ht (.inl rfl) hslot' with heq | hnone
      · rw [heq, hslot] at hslot'
        cases hslot'
      · rw [standing_of_slot hslot' (named_of_plain hp hslot'), hnone]

theorem Steady.makeParents (hp : p.Plain) (h : Steady t p) : Steady (makeParents t p).2 p := by
  refine ⟨(makes_makeParents t p).sound h.sound, ?_, fun s e hs he => ?_⟩
  · rw [standing_makeParents hp h.sound]
    exact h.destination
  · rcases makeParents_free hp h.sound (.inr rfl) hs with heq | hnone
    · rw [heq] at hs he
      exact h.clear s e hs he
    · rw [hnone] at he
      cases he

/-! ## Failed attempts -/

theorem standing_cleared (h : Cleared t t' p) : t'.standing p = t.standing p := by
  refine standing_congr h.keeps h.keeps_symm fun d hd => ?_
  rcases h.2 d.location with heq | ⟨-, ⟨s, hs, hplace⟩, -⟩
  · exact heq
  · exact absurd hplace (staging_ne hs hd)

theorem Steady.cleared (h : Steady t p) (hcleared : Cleared t t' p) : Steady t' p := by
  refine ⟨fun l n hget => ?_, ?_, fun s e hs he => ?_⟩
  · obtain ⟨e, he⟩ := Option.ne_none_iff_exists'.1 hget
    have hdir := h.sound l n (by simp [hcleared.get?_of_some he])
    exact hcleared.keeps.2 l .directory rfl hdir
  · rw [standing_cleared hcleared]
    exact h.destination
  · exact h.clear s e (slot_keeps hcleared.keeps_symm hs) (hcleared.get?_of_some he)

/-! ## Successful attempts -/

/-- A path that can lead to a file: it has no slash at its end and no last name that is too long. -/
def Fits (p : Path) : Prop :=
  ∃ t s, slot t p = .ok s ∧ s.slash = false ∧ s.last.utf8ByteSize ≤ maxNameBytes

theorem Fits.read (h : Fits p) (hp : p.Plain) {bytes : Bytes}
    (hstanding : t.standing p = some (.file bytes)) : t.read p = .ok bytes := by
  obtain ⟨t₀, s₀, hs₀, hslash, hshort⟩ := h
  cases hslot : t.slot p with
  | error fault => cases (standing_of_fault hslot).symm.trans hstanding
  | ok s =>
    have hnamed := named_of_plain hp hslot
    obtain ⟨hlast, hsame⟩ := slot_same hs₀ hslot
    rw [standing_of_slot hslot hnamed] at hstanding
    rw [← hlast] at hshort
    exact read_of_slot hslot hnamed (hsame.trans hslash) hshort hstanding

theorem Steady.placed (h : Steady t p) {bytes : Bytes} {s d : Slot}
    (hplaced : Placed t t' p bytes s d) :
    Steady t' p ∧ t'.standing p = some (.file bytes) ∧ Fits p := by
  have hlink : ∀ target, t.get? d.location ≠ some (.link target) := by
    intro target hget
    rw [← standing_of_slot hplaced.slot hplaced.named] at hget
    rcases h.destination with hnone | ⟨old, hold⟩
    · cases hnone.symm.trans hget
    · cases hold.symm.trans hget
  have hstanding := hplaced.standing_ok (slot_keeps (hplaced.keeps hlink) hplaced.slot)
  refine ⟨⟨hplaced.sound h.sound, .inr ⟨bytes, hstanding⟩, fun s' e hs' he => ?_⟩, hstanding, t, d,
    hplaced.slot, hplaced.slash, hplaced.short⟩
  rw [hplaced.staging_none (hplaced.slot_of_slot hs')] at he
  cases he

/-- One write: what stands at the destination afterwards is decided by its result. -/
theorem Steady.write (hp : p.Plain) (h : Steady t p) (prices : PriceList) :
    Steady (write t prices p).2 p ∧
      match (write t prices p).1 with
      | .ok _ => (write t prices p).2.standing p = some (.file (contents prices)) ∧ Fits p
      | .error _ => (write t prices p).2.standing p = t.standing p := by
  have hparents := h.makeParents hp
  cases hwrite : Artifact.write t prices p with
  | mk result t' =>
    cases result with
    | ok summary =>
      obtain ⟨-, s, d, hplaced⟩ := write_ok hparents.clear hwrite
      exact hparents.placed hplaced
    | error failure =>
      obtain ⟨-, hcleared⟩ := write_error hparents.clear.noStagedLink hwrite
      refine ⟨hparents.cleared hcleared, ?_⟩
      exact (standing_cleared hcleared).trans (standing_makeParents hp h.sound)

end RateCard.Artifact
