import RateCard.CommandLine.Run

/-!
# The program

Takes a picture of what the output path leads to, runs on it, and prints what the run says. The run
has no network: it can verify an artifact, and a refresh ends where it would connect. Either way the
tree of the run is the picture itself, so nothing is written back.
-/
namespace RateCard.Picture

/-- The ways along a path, the shortest first. -/
def ways (p : Path) : List Path :=
  (List.range p.segments.length).map fun n => ⟨p.rooted, p.segments.take (n + 1)⟩

/-- Where a path leads if none of its names is a link. -/
def place (workDir : Location) (p : Path) : Location :=
  p.components.foldl (fun here component =>
    match component with
    | .root => []
    | .here => here
    | .up => here.dropLast
    | .name n => here ++ [n]) workDir

/-- What a path leads to, links followed. -/
def entryAt (text : String) : IO (Option Entry) := do
  let file := (← IO.currentDir) / text
  if ← file.isDir then return some .directory
  else
    match ← (IO.FS.readBinFile file).toBaseIO with
    | .ok contents => return some (.file contents.toList)
    | .error _ => return none

/-- The working directory with all that stands along a path. -/
def take (p : Path) : IO FileTree := do
  let workDir := place [] (Path.ofString (← IO.currentDir).toString)
  let above := (List.range workDir.length).map fun n => (workDir.take (n + 1), Entry.directory)
  let mut tree : FileTree := ⟨above, workDir⟩
  for way in ways p do
    if !way.isEmpty && !way.hasNul then
      let here := place workDir way
      if let some entry ← entryAt way.text then
        if here ≠ [] then
          tree := tree.put here entry
  return tree

end RateCard.Picture

open RateCard CommandLine in
def main (arguments : List String) : IO UInt32 := do
  let environment : Environment :=
    ⟨← IO.getEnv "NO_COLOR", ← IO.getEnv "CLICOLOR_FORCE", ← IO.getEnv "RUST_LOG"⟩
  let tree ← match parse arguments with
    | .ok invocation => Picture.take invocation.settings.output
    | .error _ => pure FileTree.fresh
  let ended := run environment .unreachable tree arguments
  IO.print ended.output
  IO.eprint ended.errors
  return UInt32.ofNat ended.exit.code
