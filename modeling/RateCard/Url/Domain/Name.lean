import RateCard.Text.Split
import RateCard.Url.Domain.Label

/-!
# Domain names

A domain name as it is typed, brought to the form in ASCII in which it is looked up.
-/
namespace RateCard.Url.Domain
open RateCard.Text

/-- What a domain name must not hold in the end. -/
def isForbidden (c : Char) : Bool :=
  c.toNat ≤ 32 || c.toNat == 127 || "#/:<>?@[\\]^|%".toList.contains c

/-- The characters that count, in normal form. -/
def plain? (text : List Char) : Option (List Char) :=
  (text.mapM read?).map fun parts => normalized parts.flatten

/-- The labels of a domain name; if one of them is written from the right, all keep directions. -/
def labels? (text : List Char) : Option (List Label) := do
  let labels ← (splitOn '.' (← plain? text)).mapM Label.ofChars?
  if labels.any (isFromRight ·.chars) && !labels.all (keepsDirection ·.chars) then none
  else some labels

/-- The form of a domain name in ASCII. -/
def written? (text : List Char) : Option (List Char) := do
  let labels ← labels? text
  let written := ['.'].intercalate (labels.map (·.written))
  if written.any isForbidden then none else some written

end RateCard.Url.Domain
