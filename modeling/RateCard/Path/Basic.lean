/-!
# Paths

A path keeps the text between its slashes as written, so that messages show it unchanged. What it
means is its list of components: repeated slashes and inner `.` name nothing.
-/
namespace RateCard

structure Path where
  rooted : Bool
  segments : List String
  deriving DecidableEq, Repr

inductive Component where
  | root
  | here
  | up
  | name (text : String)
  deriving DecidableEq, Repr

namespace Path

def splitSlashes : List Char → List (List Char)
  | [] => [[]]
  | c :: cs =>
    if c = '/' then [] :: splitSlashes cs
    else
      match splitSlashes cs with
      | [] => [[c]]
      | s :: rest => (c :: s) :: rest

def ofString (text : String) : Path :=
  match text.toList with
  | '/' :: rest => ⟨true, (splitSlashes rest).map String.ofList⟩
  | chars => ⟨false, (splitSlashes chars).map String.ofList⟩

def text (p : Path) : String := (if p.rooted then "/" else "") ++ "/".intercalate p.segments

def isEmpty (p : Path) : Bool := p.text.isEmpty

def hasNul (p : Path) : Bool := p.segments.any fun s => s.toList.contains '\x00'

/-- Segments that name nothing behind the first one. -/
def isVoid (segment : String) : Bool := segment == "" || segment == "."

def component? (segment : String) : Option Component :=
  if isVoid segment then none else if segment = ".." then some .up else some (.name segment)

/-- The leading `.` of a relative path, and the other segments. -/
def splitHere (p : Path) : List String × List String :=
  match p.rooted, p.segments with
  | false, "." :: rest => (["."], rest)
  | _, segments => ([], segments)

def components (p : Path) : List Component :=
  let (here, body) := p.splitHere
  (if p.rooted then [.root] else []) ++ here.map (fun _ => .here) ++ body.filterMap component?

/-- Two paths are the same if they have the same components. -/
def same (p q : Path) : Bool := p.components == q.components

def fileName? (p : Path) : Option String :=
  match p.components.getLast? with
  | some (.name n) => some n
  | _ => none

def trimVoid (segments : List String) : List String :=
  (segments.reverse.dropWhile isVoid).reverse

/-- The path without its last component, if it has one that is not the root. -/
def parent? (p : Path) : Option Path :=
  let (here, body) := p.splitHere
  match trimVoid body with
  | [] => if here.isEmpty then none else some ⟨false, []⟩
  | s :: rest => some ⟨p.rooted, here ++ trimVoid (s :: rest).dropLast⟩

/-- One more component behind the path. -/
def push (p : Path) (name : String) : Path :=
  match p.segments.getLast? with
  | some "" => ⟨p.rooted, p.segments.dropLast ++ [name]⟩
  | _ => ⟨p.rooted, p.segments ++ [name]⟩

/-- Another last component in place of a plain last name, or behind what is no plain name. -/
def withFileName (p : Path) (name : String) : Path :=
  match p.fileName?, p.parent? with
  | some _, some parent => parent.push name
  | _, _ => p.push name

/-- Where the contents of a path are put before they take its place. -/
def staging (p : Path) : Path :=
  p.withFileName ((p.fileName?.getD "pricing") ++ ".tmp")

end Path
end RateCard
