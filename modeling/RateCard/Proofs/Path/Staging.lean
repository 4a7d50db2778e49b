import Mathlib.Data.List.TakeWhile
import Mathlib.Tactic
import RateCard.Path.Basic

/-!
# Parents and staging paths

The parent of a path starts with segments of the path, and the staging path ends with a name that is
not the last name of the path.
-/
namespace RateCard.Path

/-- A segment that wants an entry of its own. -/
def IsName (segment : String) : Prop := isVoid segment = false ∧ segment ≠ ".."

instance (segment : String) : Decidable (IsName segment) := inferInstanceAs (Decidable (_ ∧ _))

theorem component_of_isName {n : String} (h : IsName n) : component? n = some (.name n) := by
  rw [component?, if_neg (by simp [h.1]), if_neg h.2]

theorem ne_here_of_isName {n : String} (h : IsName n) : n ≠ "." := by
  rintro rfl
  exact absurd h.1 (by decide)

theorem ne_empty_of_isName {n : String} (h : IsName n) : n ≠ "" := by
  rintro rfl
  exact absurd h.1 (by decide)

theorem isName_tmp (n : String) : IsName (n ++ ".tmp") := by
  have hsize : 4 ≤ (n ++ ".tmp").utf8ByteSize := by
    rw [String.utf8ByteSize_append]
    exact Nat.le_add_left _ _
  have hne (s : String) (hs : s.utf8ByteSize < 4) : n ++ ".tmp" ≠ s := by
    intro h
    rw [h] at hsize
    exact absurd hs (by omega)
  refine ⟨?_, hne ".." (by decide)⟩
  rw [isVoid, beq_eq_false_iff_ne.2 (hne "" (by decide)),
    beq_eq_false_iff_ne.2 (hne "." (by decide))]
  rfl

theorem tmp_ne (n : String) : n ++ ".tmp" ≠ n := by
  intro h
  have hsize := congrArg String.utf8ByteSize h
  rw [String.utf8ByteSize_append] at hsize
  have : ".tmp".utf8ByteSize = 4 := by decide
  omega

/-! ## Parents -/

theorem splitHere_append (p : Path) : p.splitHere.1 ++ p.splitHere.2 = p.segments := by
  unfold splitHere
  split <;> rename_i h
  · exact h.symm
  · rfl

theorem rooted_of_splitHere {p : Path} (h : p.splitHere.1 ≠ []) : p.rooted = false := by
  unfold splitHere at h
  split at h
  · assumption
  · exact absurd rfl h

theorem trimVoid_spec (segments : List String) :
    ∃ voids, segments = trimVoid segments ++ voids ∧ ∀ s ∈ voids, isVoid s = true := by
  refine ⟨(segments.reverse.takeWhile isVoid).reverse, ?_, fun s hs => ?_⟩
  · rw [trimVoid, ← List.reverse_append, List.takeWhile_append_dropWhile, List.reverse_reverse]
  · exact List.all_eq_true.1 List.all_takeWhile s (List.mem_reverse.1 hs)

/-- Trimming leaves a last segment that names something, if it leaves any. -/
theorem isVoid_of_getLast_trimVoid {segments : List String} {s : String}
    (h : (trimVoid segments).getLast? = some s) : isVoid s = false := by
  have hfirst := List.head?_dropWhile_not isVoid segments.reverse
  rw [trimVoid, List.getLast?_reverse] at h
  rwa [h] at hfirst

theorem parent_eq {p q : Path} (h : p.parent? = some q) :
    q.rooted = p.rooted ∧ q.segments <+: p.segments := by
  obtain ⟨voids, hvoids, -⟩ := trimVoid_spec p.splitHere.2
  rw [← splitHere_append p]
  simp only [parent?] at h
  cases hbody : trimVoid p.splitHere.2 with
  | nil =>
    by_cases hhere : p.splitHere.1 = []
    · simp [hbody, hhere] at h
    · simp only [hbody, List.isEmpty_iff, hhere, if_false, Option.some.injEq] at h
      subst h
      exact ⟨(rooted_of_splitHere hhere).symm, List.nil_prefix⟩
  | cons s rest =>
    rw [hbody] at h hvoids
    obtain rfl := Option.some.inj h
    obtain ⟨voids', hvoids', -⟩ := trimVoid_spec (s :: rest).dropLast
    have hinit : trimVoid (s :: rest).dropLast <+: s :: rest :=
      List.IsPrefix.trans ⟨voids', hvoids'.symm⟩ (List.dropLast_prefix _)
    refine ⟨rfl, (List.prefix_append_right_inj _).2 ?_⟩
    rw [hvoids]
    exact hinit.trans (List.prefix_append _ _)

/-- The parent ends in front of the last segment that names something, and is trimmed itself. -/
theorem parent_of_trim {p : Path} {here body init : List String} {last : String}
    (h : p.splitHere = (here, body)) (htrim : trimVoid body = init ++ [last]) :
    p.parent? = some ⟨p.rooted, here ++ trimVoid init⟩ := by
  simp only [parent?, h, htrim]
  cases init with
  | nil => simp
  | cons s rest =>
    simp only [List.cons_append]
    rw [← List.cons_append, List.dropLast_concat]

/-! ## Staging paths -/

theorem push_eq (p : Path) (name : String) :
    ∃ before, p.push name = ⟨p.rooted, before ++ [name]⟩ := by
  unfold push
  split <;> exact ⟨_, rfl⟩

theorem push_of_getLast_ne {p : Path} (h : p.segments.getLast? ≠ some "") (name : String) :
    p.push name = ⟨p.rooted, p.segments ++ [name]⟩ := by
  unfold push
  split
  · contradiction
  · rfl

theorem staging_eq (p : Path) :
    ∃ before, p.staging = ⟨p.rooted, before ++ [p.fileName?.getD "pricing" ++ ".tmp"]⟩ := by
  unfold staging withFileName
  split
  · rename_i hparent
    rw [← (parent_eq hparent).1]
    exact push_eq _ _
  · exact push_eq _ _

/-! ## Paths with a last name -/

section LastName
variable {p : Path} {before slashes : List String} {n : String}
  (h : p.segments = before ++ n :: slashes) (hn : IsName n)
include h hn

theorem splitHere_of_name : ∃ here body, p.splitHere = (here, body ++ n :: slashes) ∧
    before = here ++ body ∧ ∀ s ∈ here, s = "." := by
  unfold splitHere
  split
  · rename_i rest hrooted hsegments
    cases before with
    | nil => exact absurd (List.cons.inj (h.symm.trans hsegments)).1 (ne_here_of_isName hn)
    | cons s before =>
      obtain ⟨rfl, rfl⟩ := List.cons.inj (h.symm.trans hsegments)
      exact ⟨["."], before, rfl, rfl, by simp⟩
  · exact ⟨[], before, by rw [h], rfl, by simp⟩

variable (hslashes : ∀ s ∈ slashes, s = "")
include hslashes

theorem fileName_of_name : p.fileName? = some n := by
  obtain ⟨here, body, hsplit, -, -⟩ := splitHere_of_name h hn
  have hvoid : slashes.filterMap component? = [] := by
    rw [List.filterMap_eq_nil_iff]
    intro s hs
    rw [hslashes s hs]
    rfl
  have hlast : p.components.getLast? = some (.name n) := by
    simp only [components, hsplit, List.filterMap_append, List.filterMap_cons,
      component_of_isName hn, hvoid]
    simp
  rw [fileName?, hlast]

/-- The parent and the staging path of a path with a last name share their way. -/
theorem staging_of_name : ∃ init, p.parent? = some ⟨p.rooted, init⟩ ∧
    p.staging = ⟨p.rooted, init ++ [n ++ ".tmp"]⟩ ∧ init <+: before := by
  obtain ⟨here, body, hsplit, hbefore, hhere⟩ := splitHere_of_name h hn
  have htrim : trimVoid (body ++ n :: slashes) = body ++ [n] := by
    have hdrop : slashes.reverse.dropWhile isVoid = [] := by
      rw [List.dropWhile_eq_nil_iff]
      intro s hs
      rw [hslashes s (List.mem_reverse.1 hs)]
      rfl
    rw [trimVoid, List.reverse_append, List.reverse_cons, List.append_assoc, List.dropWhile_append,
      hdrop]
    simp [hn.1]
  have hparent := parent_of_trim hsplit htrim
  refine ⟨here ++ trimVoid body, hparent, ?_, ?_⟩
  · rw [staging, withFileName, fileName_of_name h hn hslashes, hparent]
    have hlast : (here ++ trimVoid body).getLast? ≠ some "" := by
      intro hempty
      rw [List.getLast?_append] at hempty
      cases htail : (trimVoid body).getLast? with
      | none =>
        rw [htail, Option.none_or] at hempty
        exact absurd (hhere "" (List.mem_of_getLast? hempty)) (by decide)
      | some s =>
        rw [htail, Option.some_or] at hempty
        rw [Option.some.inj hempty] at htail
        exact absurd (isVoid_of_getLast_trimVoid htail) (by decide)
    exact push_of_getLast_ne hlast _
  · obtain ⟨voids, hvoids, -⟩ := trimVoid_spec body
    rw [hbefore, List.prefix_append_right_inj]
    exact ⟨voids, hvoids.symm⟩

end LastName

/-! ## Relative paths of names -/

/-- A path from the working directory. -/
abbrev relative (segments : List String) : Path := ⟨false, segments⟩

section Names
variable {names before : List String} {n : String}

theorem splitHere_of_names (h : ∀ s ∈ names, IsName s) :
    (relative names).splitHere = ([], names) := by
  unfold splitHere
  split
  · rename_i rest _ hsegments
    obtain rfl : names = "." :: rest := hsegments
    exact absurd rfl (ne_here_of_isName (h "." List.mem_cons_self))
  · rfl

theorem trimVoid_of_names (h : ∀ s ∈ names, IsName s) : trimVoid names = names := by
  obtain ⟨voids, hvoids, hall⟩ := trimVoid_spec names
  have hnone : voids = [] := by
    rw [List.eq_nil_iff_forall_not_mem]
    intro s hs
    have hname := h s (hvoids ▸ List.mem_append_right _ hs)
    exact absurd (hall s hs) (by simp [hname.1])
  rw [hnone, List.append_nil] at hvoids
  exact hvoids.symm

theorem length_components_of_names (h : ∀ s ∈ names, IsName s) :
    (relative names).components.length = names.length := by
  have hall : names.filterMap component? = names.map .name := by
    rw [← List.filterMap_eq_map]
    exact List.filterMap_congr fun s hs => component_of_isName (h s hs)
  simp [components, splitHere_of_names h, hall]

theorem parent_of_names (h : ∀ s ∈ before ++ [n], IsName s) :
    (relative (before ++ [n])).parent? = some (relative before) := by
  have hbefore : trimVoid before = before :=
    trimVoid_of_names fun s hs => h s (List.mem_append_left _ hs)
  rw [parent_of_trim (splitHere_of_names h) (trimVoid_of_names h), hbefore]
  rfl

theorem staging_of_names (h : ∀ s ∈ before ++ [n], IsName s) :
    (relative (before ++ [n])).staging = relative (before ++ [n ++ ".tmp"]) := by
  have hn : IsName n := h n (by simp)
  obtain ⟨init, hparent, hstaging, -⟩ := staging_of_name (p := relative (before ++ [n])) rfl hn
    (by simp)
  rw [parent_of_names h, Option.some.injEq, Path.mk.injEq] at hparent
  rw [hstaging, ← hparent.2]

theorem size_text_concat (before : List String) (n : String) :
    (relative (before ++ [n])).text.utf8ByteSize =
      (relative before).text.utf8ByteSize + (if before = [] then 0 else 1) + n.utf8ByteSize := by
  by_cases hbefore : before = []
  · simp [hbefore, text]
  · have hslash : "/".utf8ByteSize = 1 := by decide
    simp [text, hbefore, String.intercalate_append_of_ne_nil, String.utf8ByteSize_append, hslash]

theorem hasNul_tmp (before : List String) (n : String) :
    (relative (before ++ [n ++ ".tmp"])).hasNul = (relative (before ++ [n])).hasNul := by
  simp [hasNul, String.toList_append]

end Names

/-- A path that goes down by names to a last name, with or without slashes behind it. -/
def Plain (p : Path) : Prop :=
  ∃ before n slashes, p.segments = before ++ n :: slashes ∧ IsName n ∧
    (∀ s ∈ slashes, s = "") ∧ ".." ∉ before

end RateCard.Path
