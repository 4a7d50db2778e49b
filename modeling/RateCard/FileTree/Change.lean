import RateCard.FileTree.Resolve

/-!
# File operations

What the operations of the system do to a tree. An operation that fails leaves the tree as it was;
`makeDirs` alone makes several changes and keeps those made before it failed.
-/
namespace RateCard.FileTree
open RateCard.Text (Bytes)

def fail {α : Type} (errno : Errno) : Except IoFault α := .error (.system errno)

/-- The contents of a file. -/
def read (t : FileTree) (p : Path) : Except IoFault Bytes := do
  let here ← t.resolve .existing p
  match t.get? here with
  | some (.file contents) => .ok contents
  | some .directory => fail .isDirectory
  | some (.device .null) => .ok []
  | some (.device .full) => fail .outOfMemory
  | _ => fail .noEntry

def isDir (t : FileTree) (p : Path) : Bool :=
  match t.resolve .existing p with
  | .ok here => t.get? here == some .directory
  | .error _ => false

/-- Puts contents into the file that a path leads to, which is made if it is not there. -/
def write (t : FileTree) (p : Path) (contents : Bytes) : Except IoFault FileTree := do
  let here ← t.resolve .file p
  match t.get? here with
  | some .directory => fail .isDirectory
  | some (.device .null) => .ok t
  | some (.device .full) => if contents.isEmpty then .ok t else fail .noSpace
  | _ => .ok (t.put here (.file contents))

/-- Makes one directory. -/
def makeDir (t : FileTree) (p : Path) : Except IoFault FileTree := do
  let s ← t.slot p
  if !s.named then fail .alreadyExists
  else
    match ← t.lookUp s with
    | some _ => fail .alreadyExists
    | none => .ok (t.put s.location .directory)

/-- Makes the directory and those above it that are missing; one that is there is no fault. The
steps bound the number of parents. -/
def makeDirsIn : Nat → FileTree → Path → Option IoFault × FileTree
  | 0, t, _ => (none, t)
  | steps + 1, t, p =>
    if p.isEmpty then (none, t)
    else
      match t.makeDir p with
      | .ok t => (none, t)
      | .error fault =>
        if fault ≠ .system .noEntry then (if t.isDir p then none else some fault, t)
        else
          match p.parent? with
          | none => (some fault, t)
          | some parent =>
            match makeDirsIn steps t parent with
            | (some fault, t) => (some fault, t)
            | (none, t) =>
              match t.makeDir p with
              | .ok t => (none, t)
              | .error fault => (if t.isDir p then none else some fault, t)

def makeDirs (t : FileTree) (p : Path) : Option IoFault × FileTree :=
  makeDirsIn (p.components.length + 1) t p

/-- Removes a file or link. -/
def remove (t : FileTree) (p : Path) : Except IoFault FileTree := do
  let s ← t.slot p
  if !s.named then fail .isDirectory
  else
    match ← t.lookUp s with
    | none => fail .noEntry
    | some .directory => fail .isDirectory
    | some _ => if s.slash then fail .notDirectory else .ok (t.erase s.location)

/-- Moves a file or link to another place, over a file or link that is there. -/
def rename (t : FileTree) (source destination : Path) : Except IoFault FileTree := do
  let s ← t.slot source
  let d ← t.slot destination
  if !s.named || !d.named then fail .busy
  else
    match ← t.lookUp s with
    | none => fail .noEntry
    | some .directory => fail .isDirectory
    | some e =>
      let there ← t.lookUp d
      if s.slash || d.slash then fail .notDirectory
      else if there = some .directory then fail .isDirectory
      else .ok ((t.erase s.location).put d.location e)

/-- Makes a symbolic link. The target must be a text that can be a path, which is judged before the
place of the link unless that holds a NUL. -/
def makeLink (t : FileTree) (p target : Path) : Except IoFault FileTree :=
  if p.hasNul then .error .nulInName
  else
    match refused? target with
    | some fault => .error fault
    | none => do
      let s ← t.slot p
      if !s.named then fail .alreadyExists
      else
        match ← t.lookUp s with
        | some _ => fail .alreadyExists
        | none =>
          if s.slash then fail .noEntry else .ok (t.put s.location (.link target))

/-- Whether a place is another one or lies below it. -/
def isWithin (outer inner : Location) : Bool := outer.isPrefixOf inner

/-- Removes whatever is at a path, a directory with all it holds. -/
def removeAll (t : FileTree) (p : Path) : Except IoFault FileTree := do
  let s ← t.slot p
  if !s.named then fail .busy
  else
    match ← t.lookUp s with
    | none => fail .noEntry
    | some .directory =>
      .ok { t with entries := t.entries.filter fun e => !isWithin s.location e.1 }
    | some _ => if s.slash then fail .notDirectory else .ok (t.erase s.location)

end RateCard.FileTree
