import RateCard.Proofs.Artifact.Spelling
import RateCard.Proofs.Refresh.EndToEnd

/-!
# Refreshes with equal settings

Settings are equal if their output paths have the same components. Refreshes with equal settings
have the same outcome and leave the same tree, unless the path of one of them is too long to be
accepted.
-/
namespace RateCard
open RateCard.Artifact (inspect write_alike inspect_alike)
open RateCard.FileTree (ShortPath maxPathBytes refused?)
open RateCard.Path (EndsNamed alike_ofString)

/-- The same outcome, for paths with the same components. -/
inductive Outcome.Alike : Outcome → Outcome → Prop where
  | written {s s' : Summary} : s.Alike s' → Outcome.Alike (.written s) (.written s')
  | empty : Outcome.Alike .empty .empty

theorem refreshFrom_alike {a b : Settings} (h : a.output.Alike b.output)
    (ha : ShortPath a.output) (hb : ShortPath b.output) (ha' : ShortPath a.output.staging)
    (hb' : ShortPath b.output.staging) (tree : FileTree) (listing : Json) :
    Respelt Outcome.Alike (refreshFrom tree a listing).1.1 (refreshFrom tree b listing).1.1 ∧
      (refreshFrom tree a listing).1.2 = (refreshFrom tree b listing).1.2 := by
  rw [refreshFrom, refreshFrom]
  simp only
  split
  · exact ⟨.ok .empty, rfl⟩
  · obtain ⟨hresult, htree⟩ := write_alike h ha hb tree ha' hb' (PriceList.ofListing listing).1
    exact ⟨hresult.map fun _ _ => .written, htree⟩

/-- Equal settings whose output paths do not end in a slash or in a segment `.` do the same in the
same time, and what is found at the two paths is the same, as long as no path is too long to be
accepted. -/
theorem refresh_alike (network : Network) (tree : FileTree) {a b : Settings} {x y : String}
    (hsame : a.same b = true) (ha : a.output = Path.ofString x) (hb : b.output = Path.ofString y)
    (hx : EndsNamed x) (hy : EndsNamed y)
    (hshort : x.utf8ByteSize < maxPathBytes ∧ y.utf8ByteSize < maxPathBytes)
    (hstaging : ShortPath a.output.staging ∧ ShortPath b.output.staging) :
    let r := refresh network tree a
    let r' := refresh network tree b
    Respelt Outcome.Alike r.result.1 r'.result.1 ∧ r.result.2 = r'.result.2 ∧
      r.requests = r'.requests ∧ r.waitedMs = r'.waitedMs ∧
      Respelt Artifact.Status.Alike (inspect tree a.output) (inspect tree b.output) := by
  rw [Settings.same, Bool.and_eq_true, Bool.and_eq_true, beq_iff_eq] at hsame
  obtain ⟨⟨hendpoint, hpaths⟩, htimeout⟩ := hsame
  rw [beq_iff_eq] at htimeout
  have hx' : ShortPath a.output := by rw [ShortPath, ha, Path.text_ofString]; exact hshort.1
  have hy' : ShortPath b.output := by rw [ShortPath, hb, Path.text_ofString]; exact hshort.2
  have halike : a.output.Alike b.output := by
    rw [ha, hb] at hpaths ⊢
    exact alike_ofString hpaths hx hy
  have hinspect := inspect_alike halike hx' hy' tree
  intro r r'
  have hwaited : r.waitedMs = r'.waitedMs := by
    rw [waitedMs_refresh, waitedMs_refresh, hendpoint, htimeout]
  suffices hrun : Respelt Outcome.Alike r.result.1 r'.result.1 ∧ r.result.2 = r'.result.2 ∧
      r.requests = r'.requests from ⟨hrun.1, hrun.2.1, hrun.2.2, hwaited, hinspect⟩
  simp only [r, r', refresh, hendpoint, htimeout]
  split
  · exact ⟨.error (.same _), rfl, rfl⟩
  next listing _ =>
    obtain ⟨hresult, htree⟩ :=
      refreshFrom_alike halike hx' hy' hstaging.1 hstaging.2 tree listing
    exact ⟨hresult, htree, rfl⟩

/-- A file in a directory. -/
def filed : FileTree :=
  (FileTree.fresh.put ["tmp", "scratch", "work", "d"] .directory).put
    ["tmp", "scratch", "work", "d", "b"] (.file [91, 123, 125, 93])

/-- Two spellings of a path to a file that is there and whose directory has a link on its way. -/
theorem refresh_alike_dots :
    let tree := filed.put ["tmp", "scratch", "work", "to"] (.link ⟨false, [".", "d", ""]⟩)
    let x := "./to//.//b"
    let y := "./to/b"
    let a : Settings := ⟨"http://[::1]/", Path.ofString x, 20000⟩
    let b : Settings := ⟨"http://[::1]/", Path.ofString y, 20000⟩
    a ≠ b ∧ a.same b = true ∧ EndsNamed x ∧ EndsNamed y ∧
      (refresh oneEntry tree b).result.1 = .ok (.written ⟨1, b.output⟩) ∧
      Respelt Outcome.Alike (refresh oneEntry tree a).result.1 (refresh oneEntry tree b).result.1 ∧
      (refresh oneEntry tree a).result.2 = (refresh oneEntry tree b).result.2 := by
  intro tree x y a b
  have hsame : a.same b = true := by decide +kernel
  have hx : EndsNamed x := by decide
  have hy : EndsNamed y := by decide
  obtain ⟨hresult, htree, -⟩ := refresh_alike oneEntry tree hsame rfl rfl hx hy
    (by decide +kernel) (by decide +kernel)
  exact ⟨by decide +kernel, hsame, hx, hy, by decide +kernel, hresult, htree⟩

/-! ## Long spellings -/

/-- The path of `d/b` with this many slashes more. -/
def stretched (n : Nat) : String := String.ofList ('d' :: '/' :: (List.replicate n '/' ++ ['b']))

theorem ofString_stretched (n : Nat) :
    Path.ofString (stretched n) = ⟨false, "d" :: (List.replicate n "" ++ ["b"])⟩ := by
  have hslashes : Path.splitSlashes (List.replicate n '/' ++ ['b']) =
      List.replicate n [] ++ [['b']] := by
    induction n with
    | zero => rfl
    | succ n ih =>
      rw [List.replicate_succ, List.cons_append, Path.splitSlashes, if_pos rfl, ih]
      rfl
  simp [Path.ofString, stretched, Path.splitSlashes, hslashes]

theorem same_stretched (n : Nat) :
    (Path.ofString "d/b").same (Path.ofString (stretched n)) = true := by
  have hsplit : (Path.ofString (stretched n)).splitHere =
      ([], "d" :: (List.replicate n "" ++ ["b"])) := by
    rw [ofString_stretched, Path.splitHere_eq_iff]
    exact ⟨rfl, .inr ⟨rfl, fun _ => by simp⟩⟩
  have hnaming : Path.naming ("d" :: (List.replicate n "" ++ ["b"])) = ["d", "b"] := by
    have hvoid : Path.naming (List.replicate n "") = [] :=
      Path.naming_of_void fun s hs => by rw [List.eq_of_mem_replicate hs]; rfl
    rw [Path.naming_cons (by decide), Path.naming_append, hvoid]
    rfl
  rw [Path.same_iff, hsplit, hnaming, ofString_stretched]
  exact ⟨rfl, rfl, by decide⟩

theorem endsNamed_stretched (n : Nat) : EndsNamed (stretched n) := by
  have htext : (stretched n).toList = 'd' :: '/' :: List.replicate n '/' ++ ['b'] := by
    simp [stretched]
  have hlast (chars : List Char) (c : Char) (h : chars ++ [c] <:+ (stretched n).toList) :
      c = 'b' := by
    obtain ⟨front, hfront⟩ := h
    rw [htext, ← List.append_assoc] at hfront
    exact List.singleton_inj.1 (List.append_inj' hfront rfl).2
  refine ⟨fun h => ?_, fun h => ?_⟩
  · exact absurd (hlast [] '/' h) (by decide)
  · exact absurd (hlast ['/'] '.' h) (by decide)

theorem le_size_stretched (n : Nat) : n ≤ (stretched n).utf8ByteSize := by
  have hslashes : (String.ofList (List.replicate n '/')).utf8ByteSize = n := by
    induction n with
    | zero => rfl
    | succ n ih =>
      rw [List.replicate_succ, String.ofList_cons, String.utf8ByteSize_append, ih, Nat.add_comm]
      rfl
  have htext : stretched n = "d/" ++ String.ofList (List.replicate n '/') ++ "b" := by
    simp [stretched, ← String.toList_inj]
  rw [htext, String.utf8ByteSize_append, String.utf8ByteSize_append, hslashes]
  omega

/-- Enough slashes make a path too long, though they name nothing. -/
theorem inspect_of_long {n : Nat} (h : maxPathBytes ≤ n) (tree : FileTree) :
    inspect tree (Path.ofString (stretched n)) =
      .error (.io (Path.ofString (stretched n)) (.system .nameTooLong)) := by
  generalize hp : Path.ofString (stretched n) = p
  have hsize : maxPathBytes ≤ p.text.utf8ByteSize := by
    rw [← hp, Path.text_ofString]
    exact h.trans (le_size_stretched n)
  have hnul : p.hasNul = false := by
    simp [← hp, ofString_stretched, Path.hasNul]
  have hempty : p.isEmpty = false :=
    FileTree.isEmpty_of_size_pos ((by decide : 0 < maxPathBytes).trans_le hsize)
  have hrefused : refused? p = some (.system .nameTooLong) := by
    rw [refused?, hnul, hempty, if_pos hsize]
    rfl
  have hread : tree.read p = .error (.system .nameTooLong) := by
    rw [FileTree.read, FileTree.resolve, hrefused]
    rfl
  rw [inspect, hread]
  rfl

/-- Of two equal settings, one finds the file and the other one does not. -/
theorem inspect_stretched :
    Settings.same ⟨"http://[::1]/", Path.ofString "d/b", 20000⟩
        ⟨"http://[::1]/", Path.ofString (stretched 4096), 20000⟩ = true ∧
      EndsNamed "d/b" ∧ EndsNamed (stretched 4096) ∧
      inspect filed (Path.ofString "d/b") = .ok ⟨1, Path.ofString "d/b"⟩ ∧
      inspect filed (Path.ofString (stretched 4096)) =
        .error (.io (Path.ofString (stretched 4096)) (.system .nameTooLong)) := by
  have hfound : inspect filed (Path.ofString "d/b") = .ok ⟨1, Path.ofString "d/b"⟩ := by
    decide +kernel
  have hlong : maxPathBytes ≤ 4096 := by decide
  generalize 4096 = n at hlong ⊢
  refine ⟨?_, by decide, endsNamed_stretched n, hfound, inspect_of_long hlong filed⟩
  simp [Settings.same, same_stretched]

end RateCard
