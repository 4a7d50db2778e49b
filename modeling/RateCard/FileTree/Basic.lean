import RateCard.Path.Basic
import RateCard.Text.Utf8
import RateCard.FileTree.Errno

/-!
# File trees

A tree of directories, files, symbolic links and devices, as a finite map from places to entries. A
place is the list of names from the root down to the entry. `get?` is the view through which
operations are described: `put` and `erase` change it at one place.
-/
namespace RateCard
open RateCard.Text (Bytes)

abbrev Location := List String

/-- `null` takes everything and holds nothing, `full` takes nothing. -/
inductive Device where
  | null
  | full
  deriving DecidableEq, Repr

inductive Entry where
  | directory
  | file (contents : Bytes)
  | link (target : Path)
  | device (kind : Device)
  deriving DecidableEq, Repr

structure FileTree where
  entries : List (Location × Entry)
  /-- Where relative paths start. -/
  workDir : Location
  deriving DecidableEq, Repr

namespace FileTree

def find (at_ : Location) : List (Location × Entry) → Option Entry
  | [] => none
  | (l, e) :: rest => if l = at_ then some e else find at_ rest

/-- The root is always a directory. -/
def get? (t : FileTree) (at_ : Location) : Option Entry :=
  if at_ = [] then some .directory else find at_ t.entries

def without (at_ : Location) (entries : List (Location × Entry)) : List (Location × Entry) :=
  entries.filter fun e => e.1 ≠ at_

def put (t : FileTree) (at_ : Location) (e : Entry) : FileTree :=
  { t with entries := (at_, e) :: without at_ t.entries }

def erase (t : FileTree) (at_ : Location) : FileTree :=
  { t with entries := without at_ t.entries }

theorem find_without_self (at_ : Location) (es : List (Location × Entry)) :
    find at_ (without at_ es) = none := by
  induction es with
  | nil => rfl
  | cons e es ih => by_cases h : e.1 = at_ <;> simp_all [without, find]

theorem find_without_ne {at_ l : Location} (h : l ≠ at_) (es : List (Location × Entry)) :
    find l (without at_ es) = find l es := by
  induction es with
  | nil => rfl
  | cons e es ih =>
    by_cases he : e.1 = at_
    · have : e.1 ≠ l := fun hl => h (hl.symm.trans he)
      simp_all [without, find]
    · by_cases hl : e.1 = l <;> simp_all [without, find]

theorem get?_put (t : FileTree) {at_ : Location} (h : at_ ≠ []) (e : Entry) (l : Location) :
    (t.put at_ e).get? l = if l = at_ then some e else t.get? l := by
  by_cases hl : l = at_
  · simp [get?, put, find, hl, h]
  · by_cases h0 : l = []
    · simp [get?, h0, h0 ▸ hl]
    · simp [get?, put, find, hl, h0, Ne.symm hl, find_without_ne hl]

theorem get?_erase (t : FileTree) {at_ : Location} (h : at_ ≠ []) (l : Location) :
    (t.erase at_).get? l = if l = at_ then none else t.get? l := by
  by_cases hl : l = at_
  · simp [get?, erase, hl, h, find_without_self]
  · by_cases h0 : l = []
    · simp [get?, h0, h0 ▸ hl]
    · simp [get?, erase, hl, h0, find_without_ne hl]

/-- The root holds nothing but an empty working directory and the two devices. -/
def fresh : FileTree :=
  { entries :=
      [(["dev"], .directory),
       (["dev", "null"], .device .null),
       (["dev", "full"], .device .full),
       (["tmp"], .directory),
       (["tmp", "scratch"], .directory),
       (["tmp", "scratch", "work"], .directory)]
    workDir := ["tmp", "scratch", "work"] }

end FileTree
end RateCard
