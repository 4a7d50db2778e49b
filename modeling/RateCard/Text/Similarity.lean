/-!
# Similarity of words

The Jaro similarity: how many characters two words share at nearly the same place, and how many of
those stand in another order. It picks the names that an unknown word may have meant.
-/
namespace RateCard.Text.Similarity

/-- Takes the first free equal character of a stretch of the other word. -/
def claim (c : Char) (low high : Nat) (free : Nat → Bool) (word : List Char) : Option Nat :=
  (word.zipIdx.find? fun (d, j) => low ≤ j && j < high && d == c && free j).map (·.2)

/-- The places in both words of the characters that they share, in the order of the first word. -/
def matched (reach : Nat) (b : List Char) : Nat → List Char → List Nat → List (Nat × Nat)
  | _, [], _ => []
  | i, c :: rest, taken =>
    match claim c (i - reach) (i + reach + 1) (!taken.contains ·) b with
    | some j => (i, j) :: matched reach b (i + 1) rest (j :: taken)
    | none => matched reach b (i + 1) rest taken

/-- Between 0 and 1. -/
def jaro (a b : List Char) : Float :=
  if a.isEmpty && b.isEmpty then 1
  else if a.isEmpty || b.isEmpty then 0
  else
    let pairs := matched (max a.length b.length / 2 - 1) b 0 a []
    let shared := pairs.length
    if shared = 0 then 0
    else
      let inFirst := pairs.filterMap fun p => a[p.1]?
      let inSecond := ((pairs.map (·.2)).mergeSort).filterMap fun j => b[j]?
      let moved := ((inFirst.zip inSecond).filter fun p => p.1 != p.2).length / 2
      let n := Float.ofNat
      (n shared / n a.length + n shared / n b.length + n (shared - moved) / n shared) / 3

/-- The names that a word may have meant, the most similar one last. -/
def similar {α : Type} (name : α → String) (word : String) (candidates : List α) : List α :=
  let scored := candidates.map fun x => (jaro word.toList (name x).toList, x)
  ((scored.filter fun p => p.1 > 0.7).mergeSort fun p q => p.1 ≤ q.1).map (·.2)

def closest {α : Type} (name : α → String) (word : String) (candidates : List α) : Option α :=
  (similar name word candidates).getLast?

end RateCard.Text.Similarity
