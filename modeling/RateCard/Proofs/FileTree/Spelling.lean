import RateCard.Proofs.FileTree.Down
import RateCard.Proofs.Path.Spelling

/-!
# Ways that paths spell

A way does not depend on the segments that name nothing, except at its end. So spellings of one path
lead to the same place, and all operations treat them alike, as long as none is too long to be
accepted.
-/
namespace RateCard.FileTree
open RateCard.Path (Alike naming)
open RateCard.Text (Bytes)

/-! ## Walks -/

section Walk
variable {t : FileTree} {goal : Goal} {links : Nat} {rest : List String} (hrest : GoesOn rest)
include hrest

/-- A segment that names nothing wants a directory, as does the segment behind it. -/
theorem walk_past_void {s : String} (hs : Path.isVoid s = true) (here : Location) :
    t.walk goal links here (s :: rest) = t.walk goal links here rest := by
  by_cases hdir : t.get? here = some .directory
  · exact walk_void hdir goal links hs rest
  · obtain ⟨s', rest, rfl⟩ := List.exists_cons_of_ne_nil hrest.ne_nil
    rw [walk_notDirectory hdir, walk_notDirectory hdir]

/-- Over segments without regard to what links do. -/
theorem walk_naming_segments
    (hlink : ∀ here segments, t.overLink goal links here (segments ++ rest) =
      t.overLink goal links here (naming segments ++ rest)) (here : Location)
    (segments : List String) :
    t.walk goal links here (segments ++ rest) =
      t.walk goal links here (naming segments ++ rest) := by
  induction segments generalizing here with
  | nil => rfl
  | cons s segments ih =>
    cases hvoid : Path.isVoid s with
    | true =>
      rw [List.cons_append, walk_past_void (hrest.append segments) hvoid, ih, naming, naming,
        List.filter_cons_of_neg (by simp [hvoid])]
    | false =>
      rw [Path.naming_cons hvoid, List.cons_append, List.cons_append]
      by_cases hdir : t.get? here = some .directory
      case neg => rw [walk_notDirectory hdir, walk_notDirectory hdir]
      by_cases hup : s = ".."
      · subst hup
        rw [walk_up hdir, walk_up hdir, ih]
      rw [walk_name hdir goal links hvoid hup (.inr (.inr (hrest.append segments))),
        walk_name hdir goal links hvoid hup (.inr (.inr (hrest.append (naming segments)))), ih]
      -- the segments of a link go in front of those that are left
      have hover (target : List String) (here : Location) :
          t.overLink goal links here (target ++ (segments ++ rest)) =
            t.overLink goal links here (target ++ (naming segments ++ rest)) := by
        have htwice : naming (naming segments) = naming segments := by simp [naming]
        rw [← List.append_assoc, ← List.append_assoc, hlink, hlink here (target ++ naming segments),
          Path.naming_append, Path.naming_append, htwice]
      have hlast (segments : List String) : ¬ (goal = .file ∧ segments ++ rest = []) :=
        fun h => (hrest.append segments).ne_nil h.2
      simp only [hover, hlast, if_false]

theorem walk_naming (here : Location) (segments : List String) :
    t.walk goal links here (segments ++ rest) =
      t.walk goal links here (naming segments ++ rest) := by
  induction links generalizing here segments with
  | zero => exact walk_naming_segments hrest (fun _ _ => rfl) here segments
  | succ links ih =>
    have hlink (here : Location) (segments : List String) :
        t.overLink goal (links + 1) here (segments ++ rest) =
          t.overLink goal (links + 1) here (naming segments ++ rest) := ih here segments
    exact walk_naming_segments hrest hlink here segments

end Walk

/-! ## Places -/

/-- Short enough to be accepted. -/
def ShortPath (p : Path) : Prop := p.text.utf8ByteSize < maxPathBytes

instance (p : Path) : Decidable (ShortPath p) := inferInstanceAs (Decidable (_ < _))

theorem ShortPath.parent {p parent : Path} (h : ShortPath p) (hparent : p.parent? = some parent) :
    ShortPath parent := by
  obtain ⟨hrooted, hsegments⟩ := Path.parent_eq hparent
  exact (Path.size_text_of_prefix hrooted hsegments).trans_lt h

/-- Paths that lead to the same places in every tree. -/
structure SameWay (p q : Path) : Prop where
  isEmpty : p.isEmpty = q.isEmpty
  slot : ∀ t : FileTree, t.slot p = t.slot q
  resolve : ∀ (t : FileTree) goal, t.resolve goal p = t.resolve goal q

theorem sameWay {p q : Path} (h : Alike p q) (hp : ShortPath p) (hq : ShortPath q) :
    SameWay p q := by
  rcases h.split with rfl | ⟨here, before, before', last, hrooted, hbody, hbody', hlast, hnaming⟩
  · exact ⟨rfl, fun _ => rfl, fun _ _ => rfl⟩
  have hne : last ≠ "" := by
    rintro rfl
    cases hlast
  have hpos : 0 < last.utf8ByteSize :=
    Nat.pos_of_ne_zero fun h => hne (String.utf8ByteSize_eq_zero_iff.1 h)
  have hsegments := (Path.splitHere_eq_iff.1 hbody).1
  have hsegments' := (Path.splitHere_eq_iff.1 hbody').1
  rw [← List.append_assoc] at hsegments hsegments'
  have hempty : p.isEmpty = false :=
    isEmpty_of_size_pos (hpos.trans_le (Path.size_last_le hsegments))
  have hempty' : q.isEmpty = false :=
    isEmpty_of_size_pos (hpos.trans_le (Path.size_last_le hsegments'))
  have hrefused : refused? p = refused? q := by
    rw [refused?, refused?, h.hasNul, hempty, hempty', if_neg (Nat.not_le.2 hp),
      if_neg (Nat.not_le.2 hq)]
  have hfollow {rest : List String} (hrest : GoesOn rest) (t : FileTree) (goal : Goal) :
      t.follow goal (t.start p) (here ++ before ++ rest) =
        t.follow goal (t.start q) (here ++ before' ++ rest) := by
    rw [start, start, hrooted, follow, follow, walk_naming hrest, walk_naming hrest _
      (here ++ before'), Path.naming_append, Path.naming_append, hnaming]
  refine ⟨hempty.trans hempty'.symm, fun t => ?_, fun t goal => ?_⟩
  · cases hcase : refused? q with
    | some fault => rw [slot, slot, hrefused, hcase]
    | none =>
      rw [slot_of_last (hrefused.trans hcase) hsegments hne (by simp),
        slot_of_last hcase hsegments' hne (by simp), hfollow goesOn_here]
  · rw [resolve, resolve, hrefused, hsegments, hsegments', hfollow ⟨last, by simp, hne⟩]

/-! ## Operations -/

namespace SameWay
variable {p q : Path} (h : SameWay p q) (t : FileTree)
include h

theorem read : t.read p = t.read q := by
  simp only [FileTree.read, h.resolve]

theorem isDir : t.isDir p = t.isDir q := by
  simp only [FileTree.isDir, h.resolve]

theorem write (bytes : Bytes) : t.write p bytes = t.write q bytes := by
  simp only [FileTree.write, h.resolve]

theorem makeDir : t.makeDir p = t.makeDir q := by
  simp only [FileTree.makeDir, h.slot]

theorem remove : t.remove p = t.remove q := by
  simp only [FileTree.remove, h.slot]

theorem rename {p' q' : Path} (h' : SameWay p' q') : t.rename p p' = t.rename q q' := by
  simp only [FileTree.rename, h.slot, h'.slot]

end SameWay

/-- The parents of spellings are spellings too, up to the first one that is there. -/
theorem makeDirsIn_alike {p q : Path} (h : Alike p q) (hp : ShortPath p) (hq : ShortPath q)
    (steps : Nat) (t : FileTree) : makeDirsIn steps t p = makeDirsIn steps t q := by
  induction steps generalizing p q t with
  | zero => rfl
  | succ steps ih =>
    have hway := sameWay h hp hq
    rw [makeDirsIn, makeDirsIn, hway.isEmpty, hway.makeDir]
    simp only [hway.isDir]
    rcases h.parent with ⟨hparent, hparent'⟩ | ⟨parent, parent', hparent, hparent', habove⟩
    · rw [hparent, hparent']
    · rw [hparent, hparent']
      simp only [ih habove (hp.parent hparent) (hq.parent hparent'), hway.makeDir]

theorem makeDirs_alike {p q : Path} (h : Alike p q) (hp : ShortPath p) (hq : ShortPath q)
    (t : FileTree) : t.makeDirs p = t.makeDirs q := by
  rw [makeDirs, makeDirs, eq_of_beq h.same, makeDirsIn_alike h hp hq]

end RateCard.FileTree
