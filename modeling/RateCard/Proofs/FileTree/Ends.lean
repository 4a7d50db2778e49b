import RateCard.Proofs.FileTree.Change

/-!
# Where ways end

A way is followed step by step: past what names nothing, up, down or over a link, each of which uses
up one. It ends at its last entry, at a fault, or where nothing stands. That nothing stands there is
said by a relation of its own, which the walk that is wanted for an entry decides.
-/
namespace RateCard.FileTree
open RateCard.Path (IsName)
open RateCard.Text (Bytes)

/-- What holds at the ends of ways and is kept by each step holds of all ways. The faults that are
not about a missing name are one case. -/
theorem walk_induction (t : FileTree) (goal : Goal) {motive : Nat → Location → List String → Prop}
    (nil : ∀ links here, motive links here [])
    (fails : ∀ links here s rest e, t.walk goal links here (s :: rest) = .error e → e ≠ .noEntry →
      motive links here (s :: rest))
    (missing : ∀ links here s rest, t.get? here = some .directory → IsName s →
      s.utf8ByteSize ≤ maxNameBytes → t.get? (here ++ [s]) = none →
      t.walk goal links here (s :: rest) =
        (if goal = .file ∧ rest = [] then .ok (here ++ [s]) else .error .noEntry) →
      motive links here (s :: rest))
    (void : ∀ links here s rest, t.get? here = some .directory → Path.isVoid s = true →
      t.walk goal links here (s :: rest) = t.walk goal links here rest → motive links here rest →
      motive links here (s :: rest))
    (up : ∀ links here rest, t.get? here = some .directory →
      t.walk goal links here (".." :: rest) = t.walk goal links here.dropLast rest →
      motive links here.dropLast rest → motive links here (".." :: rest))
    (down : ∀ links here s rest e, t.get? here = some .directory → IsName s →
      s.utf8ByteSize ≤ maxNameBytes → t.get? (here ++ [s]) = some e →
      (∀ target, e ≠ .link target) →
      t.walk goal links here (s :: rest) = t.walk goal links (here ++ [s]) rest →
      motive links (here ++ [s]) rest → motive links here (s :: rest))
    (link : ∀ links here s rest target, t.get? here = some .directory → IsName s →
      s.utf8ByteSize ≤ maxNameBytes → t.get? (here ++ [s]) = some (.link target) →
      t.walk goal (links + 1) here (s :: rest) =
        t.walk goal links (if target.rooted then [] else here) (target.segments ++ rest) →
      motive links (if target.rooted then [] else here) (target.segments ++ rest) →
      motive (links + 1) here (s :: rest))
    (links : Nat) (here : Location) (segments : List String) : motive links here segments := by
  induction links using Nat.strong_induction_on generalizing here segments with
  | _ links ihLinks =>
  induction segments generalizing here with
  | nil => exact nil links here
  | cons s rest ih =>
    by_cases hdir : t.get? here = some .directory
    case neg => exact fails _ _ _ _ _ (walk_notDirectory hdir goal links s rest) (by decide)
    by_cases hvoid : Path.isVoid s = true
    · exact void _ _ _ _ hdir hvoid (walk_void hdir goal links hvoid rest) (ih here)
    rw [Bool.not_eq_true] at hvoid
    by_cases hup : s = ".."
    · subst hup
      exact up _ _ _ hdir (walk_up hdir goal links rest) (ih here.dropLast)
    by_cases hslashes : goal = .file ∧ rest ≠ [] ∧ rest.all (· == "") = true
    · refine fails _ _ _ _ .isDirectory ?_ (by decide)
      rw [walk_eq, walkWith, if_neg (not_not.2 hdir), if_neg (by simp [hvoid]), if_neg hup,
        if_pos hslashes]
    have hrest : goal = .existing ∨ rest = [] ∨ ∃ r ∈ rest, r ≠ "" := by
      cases goal with
      | existing => exact .inl rfl
      | file =>
        right
        by_contra hnone
        push Not at hnone
        exact hslashes ⟨rfl, hnone.1, by simpa using hnone.2⟩
    have hwalk := walk_name hdir goal links hvoid hup hrest
    have hname : IsName s := ⟨hvoid, hup⟩
    by_cases hlong : maxNameBytes < s.utf8ByteSize
    · rw [if_pos hlong] at hwalk
      exact fails _ _ _ _ _ hwalk (by decide)
    rw [if_neg hlong] at hwalk
    have hshort : s.utf8ByteSize ≤ maxNameBytes := by omega
    cases hget : t.get? (here ++ [s]) with
    | none =>
      rw [hget] at hwalk
      exact missing _ _ _ _ hdir hname hshort hget hwalk
    | some e =>
      rw [hget] at hwalk
      cases e with
      | link target =>
        cases links with
        | zero => exact fails _ _ _ _ _ hwalk (by decide)
        | succ links =>
          exact link _ _ _ _ _ hdir hname hshort hget hwalk (ihLinks links (by omega) _ _)
      | _ => exact down _ _ _ _ _ hdir hname hshort hget (by simp) hwalk (ih (here ++ [s]))

/-! ## Ways that end -/

theorem Sound.above {t : FileTree} (h : t.Sound) {l : Location} (hl : t.get? l = some .directory) :
    t.get? l.dropLast = some .directory := by
  rcases List.eq_nil_or_concat l with rfl | ⟨above, n, rfl⟩
  · exact hl
  · rw [List.concat_eq_append] at hl ⊢
    rw [List.dropLast_concat]
    exact h above n (by simp [hl])

/-- A way does not end at a link, which would have been followed, and it ends at a free place only
if a file is to be put there. -/
theorem entry_of_walk {t : FileTree} (ht : t.Sound) {goal : Goal} {links : Nat}
    {here place : Location} {segments : List String} (hhere : t.get? here = some .directory)
    (h : t.walk goal links here segments = .ok place) :
    goal = .file ∧ t.get? place = none ∨
      ∃ e, t.get? place = some e ∧ ∀ target, e ≠ .link target := by
  have hends : (∃ e, t.get? here = some e ∧ ∀ target, e ≠ .link target) :=
    ⟨.directory, hhere, by simp⟩
  clear hhere
  induction links, here, segments using walk_induction t goal with
  | nil links here =>
    rw [walk_nil, Except.ok.injEq] at h
    exact .inr (h ▸ hends)
  | fails links here s rest e hwalk =>
    rw [hwalk] at h
    cases h
  | missing links here s rest hdir hname hshort hget hwalk =>
    rw [hwalk] at h
    split at h
    next hgoal =>
      cases h
      exact .inl ⟨hgoal.1, hget⟩
    · cases h
  | void links here s rest hdir hvoid hwalk ih =>
    rw [hwalk] at h
    exact ih h hends
  | up links here rest hdir hwalk ih =>
    rw [hwalk] at h
    exact ih h ⟨.directory, ht.above hdir, by simp⟩
  | down links here s rest e hdir hname hshort hget hlink hwalk ih =>
    rw [hwalk] at h
    exact ih h ⟨e, hget, hlink⟩
  | link links here s rest target' hdir hname hshort hget hwalk ih =>
    rw [hwalk] at h
    refine ih h ⟨.directory, ?_, by simp⟩
    split
    · rfl
    · exact hdir

/-- What a path leads to is no link, and it is free only if a file is to be put there. -/
theorem entry_of_resolve {t : FileTree} (ht : t.Sound) {goal : Goal} {p : Path} {place : Location}
    (h : t.resolve goal p = .ok place) : goal = .file ∧ t.get? place = none ∨
      ∃ e, t.get? place = some e ∧ ∀ target, e ≠ .link target := by
  rw [resolve] at h
  split at h
  · cases h
  next hrefused =>
  rw [follow_eq_ok] at h
  refine entry_of_walk ht ?_ h
  cases hsegments : p.segments with
  | nil =>
    have hrooted : p.rooted = true := by
      by_contra hrelative
      simp [refused?, Path.hasNul, Path.isEmpty, Path.text, hsegments, hrelative] at hrefused
    rw [start, if_pos hrooted]
    rfl
  | cons s rest =>
    by_contra hne
    rw [hsegments, walk_notDirectory hne] at h
    cases h

theorem not_link_of_resolve {t : FileTree} (ht : t.Sound) {goal : Goal} {p : Path}
    {place : Location} (h : t.resolve goal p = .ok place) (target : Path) :
    t.get? place ≠ some (.link target) := by
  intro htarget
  rcases entry_of_resolve ht h with ⟨-, hnone⟩ | ⟨e, he, hlink⟩
  · cases htarget.symm.trans hnone
  · exact hlink target (Option.some.inj (he.symm.trans htarget))

/-! ## Ways that end where nothing stands -/

/-- A way, over at most so many links, that comes to a name that nothing bears. A link on the way is
followed, so that one that dangles leads nowhere too. -/
inductive LeadsNowhere (t : FileTree) : Nat → Location → List String → Prop where
  | missing {links : Nat} {here : Location} {s : String} {rest : List String} :
      t.get? here = some .directory → IsName s → s.utf8ByteSize ≤ maxNameBytes →
      t.get? (here ++ [s]) = none → LeadsNowhere t links here (s :: rest)
  | void {links : Nat} {here : Location} {s : String} {rest : List String} :
      t.get? here = some .directory → Path.isVoid s = true → LeadsNowhere t links here rest →
      LeadsNowhere t links here (s :: rest)
  | up {links : Nat} {here : Location} {rest : List String} :
      t.get? here = some .directory → LeadsNowhere t links here.dropLast rest →
      LeadsNowhere t links here (".." :: rest)
  | down {links : Nat} {here : Location} {s : String} {rest : List String} {e : Entry} :
      t.get? here = some .directory → IsName s → s.utf8ByteSize ≤ maxNameBytes →
      t.get? (here ++ [s]) = some e → (∀ target, e ≠ .link target) →
      LeadsNowhere t links (here ++ [s]) rest → LeadsNowhere t links here (s :: rest)
  | link {links : Nat} {here : Location} {s : String} {rest : List String} {target : Path} :
      t.get? here = some .directory → IsName s → s.utf8ByteSize ≤ maxNameBytes →
      t.get? (here ++ [s]) = some (.link target) →
      LeadsNowhere t links (if target.rooted then [] else here) (target.segments ++ rest) →
      LeadsNowhere t (links + 1) here (s :: rest)

section Names
variable {t : FileTree} {here : Location} {s : String} (hdir : t.get? here = some .directory)
  (hname : IsName s) (hshort : s.utf8ByteSize ≤ maxNameBytes) (links : Nat) (rest : List String)
include hdir hname hshort

/-- A short name is looked up by a walk that wants an entry. -/
theorem walk_isName : t.walk .existing links here (s :: rest) =
    match t.get? (here ++ [s]) with
    | none => .error .noEntry
    | some (.link target) =>
      t.overLink .existing links (if target.rooted then [] else here) (target.segments ++ rest)
    | some _ => t.walk .existing links (here ++ [s]) rest := by
  rw [walk_name hdir .existing links hname.1 hname.2 (.inl rfl), if_neg (by omega)]
  cases t.get? (here ++ [s]) with
  | none => rfl
  | some e => rfl

theorem walk_missing (hget : t.get? (here ++ [s]) = none) :
    t.walk .existing links here (s :: rest) = .error .noEntry := by
  rw [walk_isName hdir hname hshort, hget]

theorem walk_past {e : Entry} (hget : t.get? (here ++ [s]) = some e)
    (hlink : ∀ target, e ≠ .link target) :
    t.walk .existing links here (s :: rest) = t.walk .existing links (here ++ [s]) rest := by
  rw [walk_isName hdir hname hshort, hget]
  cases e with
  | link target => exact absurd rfl (hlink target)
  | _ => rfl

end Names

theorem walk_of_leadsNowhere {t : FileTree} {links : Nat} {here : Location}
    {segments : List String} (h : LeadsNowhere t links here segments) :
    t.walk .existing links here segments = .error .noEntry := by
  induction h with
  | missing hdir hname hshort hget => exact walk_missing hdir hname hshort _ _ hget
  | void hdir hvoid _ ih => rw [walk_void hdir .existing _ hvoid, ih]
  | up hdir _ ih => rw [walk_up hdir, ih]
  | down hdir hname hshort hget hlink _ ih => rw [walk_past hdir hname hshort _ _ hget hlink, ih]
  | link hdir hname hshort hget _ ih =>
    rw [walk_isName hdir hname hshort, hget]
    exact ih

/-- A walk misses an entry exactly on a way that leads nowhere. -/
theorem walk_noEntry_iff {t : FileTree} {links : Nat} {here : Location} {segments : List String} :
    t.walk .existing links here segments = .error .noEntry ↔
      LeadsNowhere t links here segments := by
  refine ⟨fun h => ?_, walk_of_leadsNowhere⟩
  induction links, here, segments using walk_induction t .existing with
  | nil links here => simp at h
  | fails links here s rest e hwalk hne =>
    rw [hwalk] at h
    exact absurd (Except.error.inj h) hne
  | missing links here s rest hdir hname hshort hget => exact .missing hdir hname hshort hget
  | void links here s rest hdir hvoid hwalk ih => exact .void hdir hvoid (ih (hwalk ▸ h))
  | up links here rest hdir hwalk ih => exact .up hdir (ih (hwalk ▸ h))
  | down links here s rest e hdir hname hshort hget hlink hwalk ih =>
    exact .down hdir hname hshort hget hlink (ih (hwalk ▸ h))
  | link links here s rest target hdir hname hshort hget hwalk ih =>
    exact .link hdir hname hshort hget (ih (hwalk ▸ h))

/-- Nothing is where the path leads. An empty path leads nowhere. -/
def Absent (t : FileTree) (p : Path) : Prop :=
  refused? p = some (.system .noEntry) ∨
    refused? p = none ∧ LeadsNowhere t maxLinks (t.start p) p.segments

theorem resolve_noEntry_iff {t : FileTree} {p : Path} :
    t.resolve .existing p = .error (.system .noEntry) ↔ t.Absent p := by
  rw [resolve, Absent]
  cases hrefused : refused? p with
  | some fault => simp
  | none =>
    simp only [reduceCtorEq, false_or, true_and]
    rw [← walk_noEntry_iff, follow]
    cases t.walk .existing maxLinks (t.start p) p.segments <;> simp

/-- What a read comes to is decided by where the path leads. -/
theorem read_cases {t : FileTree} (ht : t.Sound) (p : Path) :
    (∃ fault, t.resolve .existing p = .error fault ∧ t.read p = .error fault) ∨
      ∃ l, t.resolve .existing p = .ok l ∧
        (t.get? l = some .directory ∧ t.read p = .error (.system .isDirectory) ∨
          t.get? l = some (.device .full) ∧ t.read p = .error (.system .outOfMemory) ∨
          t.get? l = some (.device .null) ∧ t.read p = .ok [] ∨
          ∃ bytes, t.get? l = some (.file bytes) ∧ t.read p = .ok bytes) := by
  rw [read]
  cases hresolve : t.resolve .existing p with
  | error fault => exact .inl ⟨fault, rfl, rfl⟩
  | ok l =>
    refine .inr ⟨l, rfl, ?_⟩
    rcases entry_of_resolve ht hresolve with ⟨hgoal, -⟩ | ⟨e, he, hlink⟩
    · cases hgoal
    rw [ok_bind, he]
    cases e with
    | directory => exact .inl ⟨rfl, rfl⟩
    | file bytes => exact .inr (.inr (.inr ⟨bytes, rfl, rfl⟩))
    | link target => exact absurd rfl (hlink target)
    | device kind =>
      cases kind with
      | null => exact .inr (.inr (.inl ⟨rfl, rfl⟩))
      | full => exact .inr (.inl ⟨rfl, rfl⟩)

theorem read_noEntry_iff {t : FileTree} (ht : t.Sound) (p : Path) :
    t.read p = .error (.system .noEntry) ↔ t.Absent p := by
  rw [← resolve_noEntry_iff]
  rcases read_cases ht p with ⟨fault, hresolve, hread⟩ |
    ⟨l, hresolve, ⟨-, hread⟩ | ⟨-, hread⟩ | ⟨-, hread⟩ | ⟨bytes, -, hread⟩⟩ <;>
    simp [hresolve, hread, Errno.isDirectory, Errno.outOfMemory, Errno.noEntry]

/-- The path leads to what cannot be read, or cannot be followed although no name is missing. -/
def Unreadable (t : FileTree) (p : Path) : Prop :=
  (∃ fault, t.resolve .existing p = .error fault ∧ fault ≠ .system .noEntry) ∨
    ∃ l, t.resolve .existing p = .ok l ∧
      (t.get? l = some .directory ∨ t.get? l = some (.device .full))

theorem read_fault_iff {t : FileTree} (ht : t.Sound) (p : Path) :
    (∃ fault, t.read p = .error fault ∧ fault ≠ .system .noEntry) ↔ t.Unreadable p := by
  rw [Unreadable]
  rcases read_cases ht p with ⟨fault, hresolve, hread⟩ |
    ⟨l, hresolve, ⟨hl, hread⟩ | ⟨hl, hread⟩ | ⟨hl, hread⟩ | ⟨bytes, hl, hread⟩⟩
  · simp [hresolve, hread]
  · simp [hresolve, hread, hl, Errno.isDirectory, Errno.noEntry]
  · simp [hresolve, hread, hl, Errno.outOfMemory, Errno.noEntry]
  · simp [hresolve, hread, hl]
  · simp [hresolve, hread, hl]

end RateCard.FileTree
