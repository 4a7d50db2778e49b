/-!
# Tables of code points

A table of code points as lines of text: rows between commas, in each row hexadecimal numbers
between blanks.
-/
namespace RateCard.Text.CodePoints

def digit (c : Char) : Nat := if c.isDigit then c.toNat - 48 else c.toNat - 55

def number (text : String) : Nat := text.toList.foldl (fun n c => n * 16 + digit c) 0

def row (text : String) : List Nat := (text.splitOn " ").map number

/-- The rows of a table. -/
def rows (lines : List String) : List (List Nat) :=
  lines.flatMap fun line => (line.splitOn ",").map row

end RateCard.Text.CodePoints
