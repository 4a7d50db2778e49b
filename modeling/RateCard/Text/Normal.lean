import RateCard.Text.CombiningClass
import RateCard.Text.Composition

/-!
# Normal texts

The normal form of a text: characters are taken apart, marks are put into the order of their
classes, and what can be composed is composed. Characters that no composition gives are left as
they are.
-/
namespace RateCard.Text.Normal

/-- How often a character can be taken apart. -/
def maxDepth : Nat := 3

/-- Takes a character apart, and what comes of it so many times again. -/
def apart : Nat → Char → List Char
  | 0, c => [c]
  | depth + 1, c =>
    match Composition.decompose? c with
    | some (a, b) => apart depth a ++ apart depth b
    | none => [c]

/-- Puts a mark in front of those of greater classes that it comes behind. The text is reversed. -/
def sink (c : Char) : List Char → List Char
  | [] => [c]
  | d :: rest =>
    if 0 < combiningClass c ∧ combiningClass c < combiningClass d then d :: sink c rest
    else c :: d :: rest

/-- The text with its marks in order. -/
def ordered (text : List Char) : List Char :=
  (text.foldl (fun done c => sink c done) []).reverse

/-- A text that is being composed: what is done, the last character that marks stand on, and the
marks that stay on it, both lists reversed. -/
structure Composing where
  done : List Char
  base : Option Char
  marks : List Char
  deriving DecidableEq, Repr

namespace Composing

def start : Composing := ⟨[], none, []⟩

def flushed (s : Composing) : List Char := s.marks ++ s.base.toList ++ s.done

/-- Whether nothing stands between the base and a character that keeps them apart. -/
def reaches (s : Composing) (c : Char) : Bool :=
  s.marks.head?.all fun mark => combiningClass mark < combiningClass c

def step (s : Composing) (c : Char) : Composing :=
  let composed? := if s.reaches c then s.base.bind (Composition.compose? · c) else none
  match composed? with
  | some composed => { s with base := some composed }
  | none =>
    if combiningClass c = 0 then ⟨s.flushed, some c, []⟩ else { s with marks := c :: s.marks }

end Composing

/-- The text with composed characters in the place of their parts. -/
def composed (text : List Char) : List Char :=
  (text.foldl Composing.step .start).flushed.reverse

end Normal

/-- The normal form of a text. -/
def normalized (text : List Char) : List Char :=
  Normal.composed (Normal.ordered (text.flatMap (Normal.apart Normal.maxDepth)))

end RateCard.Text
