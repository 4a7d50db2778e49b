/-!
# Splitting texts

The parts of a text between separators.
-/
namespace RateCard.Text

/-- The parts between separators, one more than there are separators. -/
def splitOn (separator : Char) : List Char → List (List Char)
  | [] => [[]]
  | c :: cs =>
    if c = separator then [] :: splitOn separator cs
    else
      match splitOn separator cs with
      | [] => [[c]]
      | part :: parts => (c :: part) :: parts

end RateCard.Text
