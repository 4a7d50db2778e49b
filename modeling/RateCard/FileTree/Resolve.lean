import RateCard.FileTree.Basic

/-!
# Following paths

Where a path leads in a tree. Every segment wants a directory to be looked up in, so that a slash
behind a path wants one too; links are followed, at most `maxLinks` of them on one way.
-/
namespace RateCard.FileTree

/-- What a path is followed for: an entry that is there, or a place to put a file. -/
inductive Goal where
  | existing
  | file
  deriving DecidableEq, Repr

def maxNameBytes : Nat := 255

def maxPathBytes : Nat := 4096

def maxLinks : Nat := 40

/-- Follows segments from a place up to the next link, which `onLink` follows. -/
def walkWith (t : FileTree) (goal : Goal)
    (onLink : Location → List String → Except Errno Location) :
    Location → List String → Except Errno Location
  | here, [] => .ok here
  | here, s :: rest =>
    if t.get? here ≠ some .directory then .error .notDirectory
    else if Path.isVoid s then walkWith t goal onLink here rest
    else if s = ".." then walkWith t goal onLink here.dropLast rest
    else if goal = .file ∧ rest ≠ [] ∧ rest.all (· == "") then .error .isDirectory
    else if maxNameBytes < s.utf8ByteSize then .error .nameTooLong
    else
      match t.get? (here ++ [s]) with
      | none => if goal = .file ∧ rest = [] then .ok (here ++ [s]) else .error .noEntry
      | some (.link target) =>
        onLink (if target.rooted then [] else here) (target.segments ++ rest)
      | some _ => walkWith t goal onLink (here ++ [s]) rest

/-- Follows segments over at most this many links. -/
def walk (t : FileTree) (goal : Goal) : Nat → Location → List String → Except Errno Location
  | 0 => walkWith t goal fun _ _ => .error .tooManyLinks
  | links + 1 => walkWith t goal (walk t goal links)

def start (t : FileTree) (p : Path) : Location := if p.rooted then [] else t.workDir

/-- What no operation accepts as a path; a NUL is told before anything else. -/
def refused? (p : Path) : Option IoFault :=
  if p.hasNul then some .nulInName
  else if p.isEmpty then some (.system .noEntry)
  else if maxPathBytes ≤ p.text.utf8ByteSize then some (.system .nameTooLong)
  else none

def follow (t : FileTree) (goal : Goal) (here : Location) (segments : List String) :
    Except IoFault Location :=
  (walk t goal maxLinks here segments).mapError .system

/-- Where a path leads, over a link at its end too. -/
def resolve (t : FileTree) (goal : Goal) (p : Path) : Except IoFault Location :=
  match refused? p with
  | some fault => .error fault
  | none => t.follow goal (t.start p) p.segments

/-- A place in a directory, by the last segment of a path that is not empty. Nothing is known of
what is there. -/
structure Slot where
  directory : Location
  last : String
  /-- Whether slashes follow. -/
  slash : Bool
  deriving DecidableEq, Repr

namespace Slot

/-- Whether the last segment is a name: not `.`, `..` or that of the root. -/
def named (s : Slot) : Bool := !(Path.isVoid s.last || s.last == "..")

def location (s : Slot) : Location := s.directory ++ [s.last]

end Slot

/-- The place that a path names, a link there not followed. -/
def slot (t : FileTree) (p : Path) : Except IoFault Slot :=
  match refused? p with
  | some fault => .error fault
  | none =>
    match p.segments.reverse.dropWhile (· == "") with
    | [] => .ok ⟨t.start p, "", true⟩
    | last :: before => do
      let directory ← t.follow .existing (t.start p) (before.reverse ++ ["."])
      .ok ⟨directory, last, p.segments.getLast? == some ""⟩

/-- What stands at a named place. -/
def lookUp (t : FileTree) (s : Slot) : Except IoFault (Option Entry) :=
  if maxNameBytes < s.last.utf8ByteSize then .error (.system .nameTooLong)
  else .ok (t.get? s.location)

end RateCard.FileTree
