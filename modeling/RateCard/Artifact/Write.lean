import RateCard.Failure
import RateCard.FileTree.Change
import RateCard.Log.Event
import RateCard.PriceList.Basic

/-!
# Writing the artifact

The prices are written beside the destination and moved into its place, so that a failed write
leaves what was there. What is left of a failed attempt beside the destination is removed.
-/
namespace RateCard
open RateCard.Text

/-- What a write put in place. -/
structure Summary where
  count : Nat
  path : Path
  deriving DecidableEq, Repr

def Summary.message (s : Summary) : String :=
  "Wrote " ++ toString s.count ++ " pricing entries to " ++ s.path.text

namespace Artifact

def contents (prices : PriceList) : Bytes := Utf8.ofString prices.pretty

/-- The tree without what is at a path, if that can be removed. -/
def discard (t : FileTree) (p : Path) : FileTree := (t.remove p).toOption.getD t

/-- Makes the directories above a path. -/
def makeParents (t : FileTree) (p : Path) : Except Failure Unit × FileTree :=
  match p.parent? with
  | none => (.ok (), t)
  | some parent =>
    match t.makeDirs parent with
    | (none, t) => (.ok (), t)
    | (some fault, t) => (.error (.io parent fault), t)

/-- Writes contents to the staging path of `p` and moves them to `p`. -/
def place (t : FileTree) (p : Path) (bytes : Bytes) : Except Failure Unit × FileTree :=
  match t.write p.staging bytes with
  | .error fault => (.error (.io p.staging fault), discard t p.staging)
  | .ok t =>
    match t.rename p.staging p with
    | .error fault => (.error (.io p fault), discard t p.staging)
    | .ok t => (.ok (), t)

/-- Writes a price list to a path. -/
def write (t : FileTree) (prices : PriceList) (p : Path) : Except Failure Summary × FileTree :=
  match makeParents t p with
  | (.error failure, t) => (.error failure, t)
  | (.ok (), t) =>
    match place t p (contents prices) with
    | (.error failure, t) => (.error failure, t)
    | (.ok (), t) => (.ok ⟨prices.size, p⟩, t)

/-- What is reported of a write. -/
def events : Except Failure Summary → List Log.Event
  | .ok s => [.written s.path.text s.count]
  | .error _ => []

end Artifact
end RateCard
