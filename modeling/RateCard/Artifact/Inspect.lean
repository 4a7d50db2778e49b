import RateCard.Failure
import RateCard.FileTree.Change
import RateCard.Json.Decode

/-!
# Checking the artifact

An artifact is usable if it is a text that holds an array of objects, at least one.
-/
namespace RateCard.Artifact
open RateCard.Text

/-- What a usable artifact holds. -/
structure Status where
  entries : Nat
  path : Path
  deriving DecidableEq, Repr

/-- The index of the first item that is no object. -/
def firstNonObject? : List Json → Option Nat
  | [] => none
  | .object _ :: rest => (firstNonObject? rest).map (· + 1)
  | _ :: _ => some 0

/-- The items of a document that is a usable artifact. -/
def items : Json → Except Flaw (List Json)
  | .array [] => .error .noEntries
  | .array items =>
    match firstNonObject? items with
    | some index => .error (.entryNotObject index)
    | none => .ok items
  | _ => .error .notArray

def itemsOf (text : Bytes) : Except Flaw (List Json) :=
  match Json.decode text with
  | .error fault => .error (.malformed fault)
  | .ok document => items document

/-- Checks the artifact at a path. -/
def inspect (t : FileTree) (p : Path) : Except Failure Status :=
  match t.read p with
  | .error (.system errno) =>
    if errno = .noEntry then .error (.missingArtifact p) else .error (.io p (.system errno))
  | .error fault => .error (.io p fault)
  | .ok bytes =>
    if (Utf8.decode bytes).isNone then .error (.io p .notText)
    else
      match itemsOf bytes with
      | .error flaw => .error (.invalidArtifact p flaw)
      | .ok items => .ok ⟨items.length, p⟩

end RateCard.Artifact
