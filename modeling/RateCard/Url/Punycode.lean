/-!
# Punycode

Texts in ASCII. The characters outside ASCII are written behind the others, in increasing order, as
distances in digits of base 36.
-/
namespace RateCard.Url.Punycode

def digit (d : Nat) : Char := Char.ofNat (if d < 26 then 97 + d else 22 + d)

/-- How far a digit at this place counts before the number ends. -/
def threshold (place bias : Nat) : Nat := min 26 (max 1 (place - bias))

/-- Divides until little is left, in at most this many steps. -/
def shrink : Nat → Nat → Nat → Nat × Nat
  | 0, delta, k => (delta, k)
  | steps + 1, delta, k => if delta > 455 then shrink steps (delta / 35) (k + 36) else (delta, k)

def adapt (delta count : Nat) (first : Bool) : Nat :=
  let delta := if first then delta / 700 else delta / 2
  let delta := delta + delta / count
  let (delta, k) := shrink 64 delta 0
  k + 36 * delta / (delta + 38)

/-- A distance as digits, in at most this many steps. -/
def number : Nat → Nat → Nat → Nat → List Char
  | 0, _, _, _ => []
  | steps + 1, q, place, bias =>
    let t := threshold place bias
    if q < t then [digit q]
    else digit (t + (q - t) % (36 - t)) :: number steps ((q - t) / (36 - t)) (place + 36) bias

structure State where
  delta : Nat
  bias : Nat
  done : Nat
  out : List Char

/-- Passes over the label once and writes each occurrence of `point`. -/
def insertPoint (basic point : Nat) (s : State) (c : Nat) : State :=
  if c < point then { s with delta := s.delta + 1 }
  else if c = point then
    { delta := 0
      bias := adapt s.delta (s.done + 1) (s.done == basic)
      done := s.done + 1
      out := s.out ++ number 64 s.delta 36 s.bias }
  else s

/-- Writes the code points above those before `point`, in increasing order. -/
def insertPoints (label : List Nat) (basic : Nat) : List Nat → Nat → State → State
  | [], _, s => s
  | point :: points, previous, s =>
    let s := { s with delta := s.delta + (point - previous) * (s.done + 1) }
    let s := label.foldl (insertPoint basic point) s
    insertPoints label basic points (point + 1) { s with delta := s.delta + 1 }

def encode (label : List Char) : List Char :=
  let plain := label.filter (·.toNat < 128)
  let points := ((label.map Char.toNat).filter (128 ≤ ·)).eraseDups.mergeSort
  let out := if plain.isEmpty then [] else plain ++ ['-']
  (insertPoints (label.map Char.toNat) plain.length points 128 ⟨0, 72, plain.length, out⟩).out

/-! ## Decoding -/

/-- What the numbers that are read must stay below. -/
def limit : Nat := 4294967296

def digitValue? (c : Char) : Option Nat :=
  if 'a' ≤ c ∧ c ≤ 'z' then some (c.toNat - 97)
  else if 'A' ≤ c ∧ c ≤ 'Z' then some (c.toNat - 65)
  else if c.isDigit then some (c.toNat - 22)
  else none

/-- A label that is being read: the characters so far, the code point and the distance that are
reached, and how the next digit counts. -/
structure Reading where
  out : List Char
  point : Nat
  distance : Nat
  /-- The distance where the number began that is being read. -/
  start : Nat
  bias : Nat
  weight : Nat
  /-- The place of the next digit, 36 if it begins a number. -/
  place : Nat

/-- Puts in the character that a number leads to. -/
def Reading.insert (s : Reading) : Option Reading :=
  let count := s.out.length + 1
  let point := s.point + s.distance / count
  let index := s.distance % count
  if point.isValidChar then
    some {
      out := s.out.take index ++ Char.ofNat point :: s.out.drop index
      point
      distance := index + 1
      start := index + 1
      bias := adapt (s.distance - s.start) count (s.start == 0)
      weight := 1
      place := 36 }
  else none

def Reading.step (s : Reading) (c : Char) : Option Reading := do
  let d ← digitValue? c
  let t := threshold s.place s.bias
  let s := { s with distance := s.distance + d * s.weight }
  if limit ≤ s.distance then none
  else if d < t then s.insert
  else
    let weight := s.weight * (36 - t)
    if limit ≤ weight then none else some { s with weight, place := s.place + 36 }

/-- The label that a text encodes. -/
def decode (text : List Char) : Option (List Char) :=
  let digits := (text.reverse.takeWhile (· ≠ '-')).reverse
  let plain := text.take (text.length - digits.length - 1)
  let digits := if plain.isEmpty then text else digits
  match digits.foldlM Reading.step ⟨plain, 128, 0, 0, 72, 1, 36⟩ with
  | some s => if s.place = 36 then some s.out else none
  | none => none

end RateCard.Url.Punycode
