import RateCard.Proofs.Artifact.Accepted
import RateCard.Proofs.CommandLine.ExitCode
import RateCard.Proofs.FileTree.Ends
import RateCard.Proofs.Json.Encoded

/-!
# What a check makes of a path

A path that leads nowhere is a missing artifact. A file is judged by its bytes: they are usable,
or they are a text that is of no use, or no text at all, which is told as a failure to read it.
-/
namespace RateCard.Artifact
open RateCard.FileTree
open RateCard.Json.Grammar (Document isText_document)
open RateCard.Text
open RateCard.Text.Utf8 (IsText isNone_decode_iff)

/-- The bytes spell an array of objects only, `n` of them and at least one. -/
def Usable (bytes : Bytes) (n : Nat) : Prop :=
  ∃ records : List PriceRecord, Document (.array (records.map .object)) bytes ∧
    records.length = n ∧ 1 ≤ n

theorem Usable.isText {bytes : Bytes} {n : Nat} (h : Usable bytes n) : IsText bytes := by
  obtain ⟨records, hdocument, -⟩ := h
  exact isText_document hdocument

theorem usable_iff {bytes : Bytes} {n : Nat} :
    Usable bytes n ↔ ∃ xs, itemsOf bytes = .ok xs ∧ xs.length = n := by
  simp only [itemsOf_eq_ok_iff, Json.decode_eq_ok_iff]
  constructor
  · rintro ⟨records, hdocument, rfl, hpos⟩
    exact ⟨_, ⟨⟨records⟩, hdocument, List.length_pos_iff.1 hpos, rfl⟩, List.length_map _⟩
  · rintro ⟨xs, ⟨⟨records⟩, hdocument, hne, rfl⟩, rfl⟩
    exact ⟨records, hdocument, (List.length_map _).symm,
      by rw [List.length_map]; exact List.length_pos_iff.2 hne⟩

variable {t : FileTree} {p : Path} {bytes : Bytes}

/-! ## Single checks -/

theorem inspect_of_fault {fault : IoFault} (h : t.read p = .error fault) :
    inspect t p =
      if fault = .system .noEntry then .error (.missingArtifact p) else .error (.io p fault) := by
  rw [inspect, h]
  cases fault with
  | system errno => simp
  | _ => rfl

theorem inspect_of_bytes (h : t.read p = .ok bytes) :
    inspect t p =
      if (Utf8.decode bytes).isNone then .error (.io p .notText)
      else
        match itemsOf bytes with
        | .error flaw => .error (.invalidArtifact p flaw)
        | .ok items => .ok ⟨items.length, p⟩ := by
  cases hitems : itemsOf bytes <;> simp only [inspect, h, hitems]

/-- What a check makes of bytes that it can read. -/
structure Judges (t : FileTree) (p : Path) (bytes : Bytes) : Prop where
  usable : ∀ n, inspect t p = .ok ⟨n, p⟩ ↔ Usable bytes n
  invalid : (∃ flaw, inspect t p = .error (.invalidArtifact p flaw)) ↔
    IsText bytes ∧ ∀ n, ¬ Usable bytes n
  notText : inspect t p = .error (.io p .notText) ↔ ¬ IsText bytes

theorem judges_of_read (h : t.read p = .ok bytes) : Judges t p bytes := by
  have hinspect := inspect_of_bytes h
  by_cases htext : IsText bytes
  · rw [if_neg (fun hnone => isNone_decode_iff.1 hnone htext)] at hinspect
    cases hitems : itemsOf bytes with
    | error flaw =>
      rw [hitems] at hinspect
      constructor <;> simp [hinspect, usable_iff, hitems, htext]
    | ok xs =>
      rw [hitems] at hinspect
      constructor <;> simp [hinspect, usable_iff, hitems, htext]
  · rw [if_pos (isNone_decode_iff.2 htext)] at hinspect
    have hnot (n : Nat) : ¬ Usable bytes n := fun husable => htext husable.isText
    constructor <;> simp [hinspect, htext, hnot]

/-! ## All checks -/

theorem missing_iff (ht : t.Sound) (p : Path) :
    inspect t p = .error (.missingArtifact p) ↔ t.Absent p := by
  rw [← read_noEntry_iff ht p]
  cases hread : t.read p with
  | error fault =>
    rw [inspect_of_fault hread]
    by_cases hfault : fault = .system .noEntry <;> simp [hfault]
  | ok bytes =>
    simp only [inspect_of_bytes hread, reduceCtorEq, iff_false]
    split
    · simp
    · split <;> simp

theorem io_iff (ht : t.Sound) (p : Path) : (∃ fault, inspect t p = .error (.io p fault)) ↔
    t.Unreadable p ∨ ∃ bytes, t.read p = .ok bytes ∧ ¬ IsText bytes := by
  rw [← read_fault_iff ht p]
  cases hread : t.read p with
  | error fault =>
    rw [inspect_of_fault hread]
    by_cases hfault : fault = .system .noEntry <;> simp [hfault]
  | ok bytes =>
    simp only [inspect_of_bytes hread, reduceCtorEq, false_and, exists_false, false_or,
      Except.ok.injEq, exists_eq_left', ← isNone_decode_iff]
    split
    · simp [*]
    · split <;> simp [*]

theorem invalid_iff (t : FileTree) (p : Path) :
    (∃ flaw, inspect t p = .error (.invalidArtifact p flaw)) ↔
      ∃ bytes, t.read p = .ok bytes ∧ IsText bytes ∧ ∀ n, ¬ Usable bytes n := by
  cases hread : t.read p with
  | error fault =>
    rw [inspect_of_fault hread]
    by_cases hfault : fault = .system .noEntry <;> simp [hfault]
  | ok bytes =>
    simp only [(judges_of_read hread).invalid, Except.ok.injEq, exists_eq_left']

/-- A file is judged by its bytes. The artifact is missing exactly if nothing is where its path
leads, and the check fails with an error of the system exactly if the path leads to what cannot be
read, or to bytes that are no text. A run of the check ends with the code of a failed check exactly
if the artifact is missing or a text of no use. -/
theorem inspect_classifies (ht : t.Sound) (p : Path) :
    (∀ l bytes, t.resolve .existing p = .ok l → t.get? l = some (.file bytes) →
      Judges t p bytes) ∧
      (inspect t p = .error (.missingArtifact p) ↔ t.Absent p) ∧
      ((∃ fault, inspect t p = .error (.io p fault)) ↔
        t.Unreadable p ∨ ∃ bytes, t.read p = .ok bytes ∧ ¬ IsText bytes) ∧
      ∀ env (i : CommandLine.Invocation), i.settings.output = p →
        ((CommandLine.verifyRun env t i).exit.code = 5 ↔ t.Absent p ∨
          ∃ bytes, t.read p = .ok bytes ∧ IsText bytes ∧ ∀ n, ¬ Usable bytes n) := by
  refine ⟨fun l bytes hresolve hget => judges_of_read ?_, missing_iff ht p, io_iff ht p, ?_⟩
  · rw [FileTree.read, hresolve, ok_bind, hget]
  · rintro env i rfl
    rw [(CommandLine.tellsVerify env t i).unusable, missing_iff ht, invalid_iff]

/-- A link that dangles, and a file behind another one, whose bytes are no text. -/
def uneven : FileTree :=
  ((FileTree.fresh.put ["tmp", "scratch", "work", "out.json"] (.file [91, 255, 93])).put
    ["tmp", "scratch", "work", "lost"] (.link ⟨false, ["gone", "out.json"]⟩)).put
    ["tmp", "scratch", "work", "found"] (.link ⟨false, ["out.json"]⟩)

/-- The check follows both links: it misses what the first one leads to, and refuses the second. -/
theorem inspect_classifies_links : uneven.Sound ∧
    inspect uneven ⟨false, ["lost"]⟩ = .error (.missingArtifact ⟨false, ["lost"]⟩) ∧
    ∃ fault, inspect uneven ⟨false, ["found"]⟩ = .error (.io ⟨false, ["found"]⟩ fault) := by
  have hsound : uneven.Sound := sound_of_entries (by decide +kernel)
  obtain ⟨-, hmissing, -⟩ := inspect_classifies hsound ⟨false, ["lost"]⟩
  obtain ⟨-, -, hio, -⟩ := inspect_classifies hsound ⟨false, ["found"]⟩
  have hlost : uneven.Absent ⟨false, ["lost"]⟩ := resolve_noEntry_iff.1 (by decide +kernel)
  have hfound : uneven.read ⟨false, ["found"]⟩ = .ok [91, 255, 93] := by decide +kernel
  have htext : ¬ IsText [91, 255, 93] := isNone_decode_iff.1 (by decide +kernel)
  exact ⟨hsound, hmissing.2 hlost, hio.2 (.inr ⟨_, hfound, htext⟩)⟩

/-- A file whose bytes are no text, and so spell no document, is not told to be an artifact of no
use. -/
theorem inspect_noText :
    let p : Path := ⟨false, ["out.json"]⟩
    let t := FileTree.fresh.put ["tmp", "scratch", "work", "out.json"] (.file [255])
    t.resolve .existing p = .ok ["tmp", "scratch", "work", "out.json"] ∧
      t.get? ["tmp", "scratch", "work", "out.json"] = some (.file [255]) ∧
      (Json.decode [255]).isOk = false ∧ inspect t p = .error (.io p .notText) := by
  decide +kernel

end RateCard.Artifact
