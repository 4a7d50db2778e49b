import RateCard.FileTree.Basic

/-!
# Listing trees

What stands in the working directory, in the order of the bytes of its paths, with what has
appeared beside the working directory.
-/
namespace RateCard.FileTree

/-- An entry under its path from the working directory. -/
inductive Shown where
  | inside (path : String) (entry : Entry)
  | beside (path : String)

def Shown.path : Shown → String
  | .inside path _ | .beside path => path

/-- The names behind a place on the way to another one. -/
def below? : Location → Location → Option Location
  | [], rest => some rest
  | n :: outer, m :: inner => if n = m then below? outer inner else none
  | _ :: _, [] => none

def shown? (t : FileTree) (place : Location) (entry : Entry) : Option Shown :=
  match below? t.workDir place with
  | some [] => none
  | some names => some (.inside ("/".intercalate names) entry)
  | none =>
    match below? t.workDir.dropLast place with
    | some [name] => some (.beside ("../" ++ name))
    | _ => none

def contents (t : FileTree) : List Shown :=
  (t.entries.filterMap fun (place, entry) => t.shown? place entry).mergeSort fun a b =>
    !(b.path < a.path)

end RateCard.FileTree
