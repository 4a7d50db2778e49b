import RateCard.Proofs.Artifact.Atomic
import RateCard.Proofs.FileTree.Ends

/-!
# What a write touches

A write changes what stands at its destination and at its staging place. A link at the destination
is replaced, and what it leads to is left alone. A link at the staging place is the exception: the
prices go where it leads, and it is the link that is moved to the destination.
-/
namespace RateCard.Artifact
open RateCard.FileTree
open RateCard.Text (Bytes)

/-- The place that `p` names, or the one that its staging path names. -/
def IsOwn (t : FileTree) (p : Path) (l : Location) : Prop :=
  (∃ d, t.slot p = .ok d ∧ d.location = l) ∨ ∃ s, t.slot p.staging = .ok s ∧ s.location = l

/-- The place that a link at the staging place leads to. -/
def IsBehind (t : FileTree) (p : Path) (l : Location) : Prop :=
  t.resolve .file p.staging = .ok l ∧
    ∃ s target, t.slot p.staging = .ok s ∧ t.get? s.location = some (.link target)

/-- What stands at the staging place when bytes have gone to the staging path: a link stays, and so
does a device. -/
def staged (there : Option Entry) (bytes : Bytes) : Entry :=
  match there with
  | some (.link target) => .link target
  | some (.device kind) => .device kind
  | _ => .file bytes

variable {t t' : FileTree} {p : Path} {bytes : Bytes} {l : Location}

/-! ## The way of the staging path -/

/-- The staging path leads to its own place, unless a link stands there. -/
theorem staging_way (h : t.resolve .file p.staging = .ok l) : ∃ s, t.slot p.staging = .ok s ∧
    (l = s.location ∨ ∃ target, t.get? s.location = some (.link target)) := by
  obtain ⟨s, hslot⟩ := slot_of_resolve h
  refine ⟨s, hslot, ?_⟩
  by_cases hlink : ∃ target, t.get? s.location = some (.link target)
  · exact .inr hlink
  · left
    obtain ⟨before, hstaging⟩ := Path.staging_eq p
    have hsegments : p.staging.segments = before ++ [p.fileName?.getD "pricing" ++ ".tmp"] := by
      rw [hstaging]
    rw [resolve_file hsegments (Path.isName_tmp _), hslot, ok_bind] at h
    · obtain ⟨there, -, h⟩ := bind_eq_ok.1 h
      exact (Except.ok.inj h).symm
    · intro s' hs' target htarget
      rw [hslot, Except.ok.injEq] at hs'
      exact hlink ⟨target, hs' ▸ htarget⟩

/-! ## One attempt -/

theorem discard_outside (h : ∀ s, t.slot p.staging = .ok s → s.location ≠ l) :
    (discard t p.staging).get? l = t.get? l := by
  rcases discard_cases t p with heq | ⟨s, e, hslot, -, -, heq⟩
  · rw [heq]
  · rw [heq, get?_erase t (location_ne_nil s), if_neg (h s hslot).symm]

/-- Writing to the staging path fills the one place that it leads to. -/
theorem write_staging_outside (ht : t.Sound) {t₁ : FileTree}
    (h : t.write p.staging bytes = .ok t₁) (hl : ¬ IsOwn t p l) :
    t₁.get? l = t.get? l ∨ IsBehind t p l ∧ t₁.get? l = some (.file bytes) ∧
      ∀ e, t.get? l = some e → ∃ old, e = .file old := by
  obtain ⟨place, hresolve, hdir, ⟨-, rfl⟩ | ⟨hkind, rfl⟩⟩ := write_cases h
  · exact .inl rfl
  rw [get?_put t (ne_nil_of_get? hdir)]
  by_cases heq : l = place
  · subst heq
    right
    obtain ⟨s, hslot, hsame | ⟨target, hlink⟩⟩ := staging_way hresolve
    · exact absurd (.inr ⟨s, hslot, hsame.symm⟩) hl
    · refine ⟨⟨hresolve, s, target, hslot, hlink⟩, if_pos rfl, fun e he => ?_⟩
      cases e with
      | directory => exact absurd he hdir
      | file old => exact ⟨old, rfl⟩
      | link target => exact absurd he (not_link_of_resolve ht hresolve target)
      | device kind => exact absurd he (hkind kind)
  · exact .inl (if_neg heq)

/-- A path names no other place once bytes have gone to the staging path. -/
theorem slot_of_written {t₁ : FileTree} (h : t.write p.staging bytes = .ok t₁) {q : Path} {s : Slot}
    (hslot : t₁.slot q = .ok s) : t.slot q = .ok s := by
  obtain ⟨place, -, hdir, ⟨-, rfl⟩ | ⟨-, rfl⟩⟩ := write_cases h
  · exact hslot
  · exact slot_keeps (.of_put (ne_nil_of_get? hdir) rfl) hslot

/-- Whether an attempt succeeds or fails, no other place changes than those that the path and its
staging path name, and the one that a link at the staging place leads to. -/
theorem place_outside (ht : t.Sound) (bytes : Bytes) (hl : ¬ IsOwn t p l) :
    (place t p bytes).2.get? l = t.get? l ∨ IsBehind t p l ∧
      (place t p bytes).2.get? l = some (.file bytes) ∧
        ∀ e, t.get? l = some e → ∃ old, e = .file old := by
  rw [place]
  split
  · exact .inl (discard_outside fun s hs heq => hl (.inr ⟨s, hs, heq⟩))
  next t₁ hwrite =>
  have hwritten := write_staging_outside ht hwrite hl
  have hown (q : Path) (hq : q = p ∨ q = p.staging) (s : Slot) (hs : t₁.slot q = .ok s) :
      s.location ≠ l := by
    rintro rfl
    have hslot := slot_of_written hwrite hs
    rcases hq with rfl | rfl
    · exact hl (.inl ⟨s, hslot, rfl⟩)
    · exact hl (.inr ⟨s, hslot, rfl⟩)
  split
  · rwa [discard_outside (hown _ (.inr rfl))]
  next t₂ hrename =>
  obtain ⟨s, d, e, hs, hd, -, -, -, -, -, rfl⟩ := rename_cases hrename
  rwa [get?_put _ (location_ne_nil d), if_neg (hown _ (.inl rfl) d hd).symm,
    get?_erase _ (location_ne_nil s), if_neg (hown _ (.inr rfl) s hs).symm]

/-- A successful attempt leaves nothing at the staging place, and moves what stood there to the
destination. -/
theorem place_moved (ht : t.Sound) (h : place t p bytes = (.ok (), t')) :
    ∃ s d, t.slot p.staging = .ok s ∧ t.slot p = .ok d ∧ t'.get? s.location = none ∧
      t'.get? d.location = some (staged (t.get? s.location) bytes) := by
  rw [place] at h
  split at h
  · cases h
  next t₁ hwrite =>
  split at h
  · cases h
  next t₂ hrename =>
  obtain ⟨-, rfl⟩ := Prod.mk.inj h
  obtain ⟨s, d, e, hs, hd, -, -, -, he, -, rfl⟩ := rename_cases hrename
  have hne := staging_ne hs hd
  have hslot := slot_of_written hwrite hs
  refine ⟨s, d, hslot, slot_of_written hwrite hd, ?_, ?_⟩
  · rw [get?_put _ (location_ne_nil d), if_neg hne, get?_erase _ (location_ne_nil s), if_pos rfl]
  rw [get?_put _ (location_ne_nil d), if_pos rfl]
  obtain ⟨place, hresolve, hdir, hwritten⟩ := write_cases hwrite
  have hlink := not_link_of_resolve ht hresolve
  obtain ⟨s', hs', hway⟩ := staging_way hresolve
  obtain rfl := Except.ok.inj (hslot.symm.trans hs')
  rcases hway with rfl | ⟨target, htarget⟩
  · rcases hwritten with ⟨⟨kind, hkind⟩, rfl⟩ | ⟨hkind, rfl⟩
    · rw [hkind, Option.some.injEq] at he
      rw [hkind, ← he, staged]
    · rw [get?_put t (location_ne_nil s), if_pos rfl, Option.some.injEq] at he
      rw [← he]
      cases hget : t.get? s.location with
      | none => rfl
      | some old =>
        cases old with
        | link target => exact absurd hget (hlink target)
        | device kind => exact absurd hget (hkind kind)
        | _ => rfl
  · have hplace : s.location ≠ place := by
      rintro rfl
      exact hlink target htarget
    have hsame : t₁.get? s.location = t.get? s.location := by
      rcases hwritten with ⟨-, rfl⟩ | ⟨-, rfl⟩
      · rfl
      · rw [get?_put t (ne_nil_of_get? hdir), if_neg hplace]
    rw [hsame, htarget, Option.some.injEq] at he
    rw [htarget, ← he, staged]

/-! ## Writes -/

/-- Whatever links stand in the tree, a write changes no other places than its own, beside making
directories and filling the file that a link at its staging place leads to. If it succeeds, the
destination holds the printed prices, or the very link that stood at the staging place. -/
theorem write_touches {prices : PriceList} {result : Except Failure Summary} (ht : t.Sound)
    (h : write t prices p = (result, t')) :
    (∀ l, t'.get? l = t.get? l ∨
      NewParent t (makeParents t p).2 p l ∧ t'.get? l = some .directory ∨
      IsOwn (makeParents t p).2 p l ∨
      IsBehind (makeParents t p).2 p l ∧ t'.get? l = some (.file (contents prices)) ∧
        ∀ e, t.get? l = some e → ∃ old, e = .file old) ∧
      ∀ summary, result = .ok summary → ∃ s d, (makeParents t p).2.slot p.staging = .ok s ∧
        (makeParents t p).2.slot p = .ok d ∧ t'.get? s.location = none ∧
        t'.get? d.location =
          some (staged ((makeParents t p).2.get? s.location) (contents prices)) := by
  have hmakes := makes_makeParents t p
  have ht₁ := hmakes.sound ht
  constructor
  · intro l
    by_cases hown : IsOwn (makeParents t p).2 p l
    · exact .inr (.inr (.inl hown))
    have htree : t'.get? l = (makeParents t p).2.get? l ∨ IsBehind (makeParents t p).2 p l ∧
        t'.get? l = some (.file (contents prices)) ∧
          ∀ e, (makeParents t p).2.get? l = some e → ∃ old, e = .file old := by
      have hwrite := write_tree t prices p
      rw [h] at hwrite
      rcases hwrite with rfl | rfl
      · exact .inl rfl
      · exact place_outside ht₁ (contents prices) hown
    rcases htree with heq | ⟨hbehind, hfile, hold⟩
    · rw [heq]
      rcases makeParents_entry t p l with hsame | hnew
      · exact .inl hsame
      · exact .inr (.inl ⟨hnew, hnew.2.1⟩)
    · exact .inr (.inr (.inr ⟨hbehind, hfile, fun e he => hold e (hmakes.get?_of_some he)⟩))
  · rintro summary rfl
    exact place_moved ht₁ (place_of_write h).2

/-- A file with contents of its own, and a link to it. -/
def linked (link : String) : FileTree :=
  (FileTree.fresh.put ["tmp", "scratch", "work", "kept.json"] (.file [91, 93])).put
    ["tmp", "scratch", "work", link] (.link ⟨false, ["kept.json"]⟩)

/-- A link at the destination is replaced, and the file that it leads to is left alone. -/
theorem write_touches_linked :
    let p : Path := ⟨false, ["out.json"]⟩
    (linked "out.json").Sound ∧ ∃ t', write (linked "out.json") ⟨[[]]⟩ p = (.ok ⟨1, p⟩, t') ∧
      t'.get? ["tmp", "scratch", "work", "kept.json"] = some (.file [91, 93]) ∧
      t'.get? ["tmp", "scratch", "work", "out.json"] = some (.file (contents ⟨[[]]⟩)) := by
  intro p
  have hsound : (linked "out.json").Sound := sound_of_entries (by decide +kernel)
  have hwritten : (write (linked "out.json") ⟨[[]]⟩ p).1 = .ok ⟨1, p⟩ := by decide +kernel
  have hwrite : write (linked "out.json") ⟨[[]]⟩ p =
      (.ok ⟨1, p⟩, (write (linked "out.json") ⟨[[]]⟩ p).2) := Prod.ext hwritten rfl
  have hparents : (makeParents (linked "out.json") p).2 = linked "out.json" := by decide +kernel
  have hslot : (linked "out.json").slot p =
      .ok ⟨["tmp", "scratch", "work"], "out.json", false⟩ := by decide +kernel
  have hstaging : (linked "out.json").slot p.staging =
      .ok ⟨["tmp", "scratch", "work"], "out.json.tmp", false⟩ := by decide +kernel
  have hfree : (linked "out.json").get?
      (⟨["tmp", "scratch", "work"], "out.json.tmp", false⟩ : Slot).location = none := by
    decide +kernel
  have hkept : (linked "out.json").get? ["tmp", "scratch", "work", "kept.json"] =
      some (.file [91, 93]) := by decide +kernel
  obtain ⟨htouched, hmoved⟩ := write_touches hsound hwrite
  rw [hparents] at htouched hmoved
  obtain ⟨s, d, hs, hd, -, hdestination⟩ := hmoved _ rfl
  cases hslot.symm.trans hd
  cases hstaging.symm.trans hs
  rw [hfree] at hdestination
  refine ⟨hsound, _, hwrite, ?_, hdestination⟩
  rcases htouched ["tmp", "scratch", "work", "kept.json"] with
    heq | ⟨⟨hnone, -⟩, -⟩ | (⟨d, hd, hplace⟩ | ⟨s, hs, hplace⟩) | ⟨⟨-, s, target, hs, hlink⟩, -⟩
  · rw [heq, hkept]
  · cases hkept.symm.trans hnone
  · cases hslot.symm.trans hd
    exact absurd hplace (by decide)
  · cases hstaging.symm.trans hs
    exact absurd hplace (by decide)
  · cases hstaging.symm.trans hs
    cases hfree.symm.trans hlink

/-- A link at the staging place takes the prices to the file that it leads to, and stands at the
destination afterwards. If it leads to the destination, even a write that fails has overwritten
what was there. -/
theorem write_overLink :
    (let p : Path := ⟨false, ["out.json"]⟩
      ∃ t', write (linked "out.json.tmp") ⟨[[]]⟩ p = (.ok ⟨1, p⟩, t') ∧
        (linked "out.json.tmp").get? ["tmp", "scratch", "work", "kept.json"] =
          some (.file [91, 93]) ∧
        t'.get? ["tmp", "scratch", "work", "kept.json"] = some (.file (contents ⟨[[]]⟩)) ∧
        t'.get? ["tmp", "scratch", "work", "out.json"] = some (.link ⟨false, ["kept.json"]⟩)) ∧
      let p : Path := ⟨false, ["kept.json", ""]⟩
      ∃ t', write (linked "kept.json.tmp") ⟨[[]]⟩ p =
          (.error (.io p (.system .notDirectory)), t') ∧
        t'.get? ["tmp", "scratch", "work", "kept.json"] = some (.file (contents ⟨[[]]⟩)) := by
  constructor
  · intro p
    exact ⟨(write (linked "out.json.tmp") ⟨[[]]⟩ p).2, by decide +kernel⟩
  · intro p
    exact ⟨(write (linked "kept.json.tmp") ⟨[[]]⟩ p).2, by decide +kernel⟩

end RateCard.Artifact
