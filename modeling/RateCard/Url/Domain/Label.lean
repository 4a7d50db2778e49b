import RateCard.Text.Direction
import RateCard.Text.Joining
import RateCard.Text.Mark
import RateCard.Text.Normal
import RateCard.Url.Domain.Mapping
import RateCard.Url.Punycode

/-!
# Labels

The parts of a domain name between its points. A label that is not in ASCII is written in ASCII
behind the tag `xn--`, and one with that tag must be the written form of a label. Marks, joiners and
letters that are written from the right must stand where they make sense.
-/
namespace RateCard.Url.Domain
open RateCard.Text

structure Label where
  chars : List Char
  /-- The label in ASCII. -/
  written : List Char
  deriving DecidableEq, Repr

def isAscii (text : List Char) : Bool := text.all (·.toNat < 128)

def tag : List Char := ['x', 'n', '-', '-']

/-! ## Joiners -/

/-- Whether the first character that takes part in joining is of a wanted type. -/
def meets (wanted : List Joining) : List Char → Bool
  | [] => false
  | c :: rest =>
    let joining := Joining.ofChar c
    wanted.contains joining || (joining == .transparent && meets wanted rest)

/-- The combining class of the signs that take the vowel from a letter. -/
def viramaClass : Nat := 9

/-- Whether a character may stand between others, of which those before it are reversed: a joiner
stands behind a virama, and a non-joiner there or between letters that would join. -/
def fits (before : List Char) (c : Char) (behind : List Char) : Bool :=
  if c = '\u200C' || c = '\u200D' then
    before.head?.any (combiningClass · == viramaClass) ||
      (c == '\u200C' && meets [.left, .dual] before && meets [.right, .dual] behind)
  else true

def joinersFit (before : List Char) : List Char → Bool
  | [] => true
  | c :: rest => fits before c rest && joinersFit (c :: before) rest

/-! ## Directions -/

/-- Whether a label makes its domain one that must care for directions. -/
def isFromRight (chars : List Char) : Bool :=
  chars.any fun c => [.right, .arabic, .arabicNumber].contains (Direction.ofChar c)

/-- What may stand in labels of both directions. -/
def common : List Direction :=
  [.european, .sign, .separator, .terminator, .neutral, .boundary, .mark]

/-- Whether what stands behind the first character of a label suits its direction: `inside` may
stand anywhere, and `last` at the end before any marks. -/
def suits (inside last : List Direction) (rest : List Direction) : Bool :=
  rest.all inside.contains &&
    ((rest.reverse.dropWhile (· == .mark)).head?).all last.contains

/-- Whether a label starts with a letter and keeps the direction of that. Digits of two kinds do not
stand in one label from the right. -/
def keepsDirection (chars : List Char) : Bool :=
  match chars.map Direction.ofChar with
  | [] => true
  | .left :: rest => suits (.left :: common) [.left, .european] rest
  | .right :: rest | .arabic :: rest =>
    suits (.right :: .arabic :: .arabicNumber :: common)
        [.right, .arabic, .european, .arabicNumber] rest &&
      !(rest.contains .european && rest.contains .arabicNumber)
  | _ => false

/-! ## Labels of texts -/

/-- The greatest length of a label that is encoded, and of one that is decoded. -/
def maxEncoded : Nat := 1000

def maxDecoded : Nat := 2000

def isWellFormed (chars : List Char) : Bool :=
  !chars.head?.any isMark && joinersFit [] chars

/-- The characters of a written label behind its tag. They must be those of a label that stands for
itself, and not all in ASCII. -/
def decoded? (written : List Char) : Option (List Char) :=
  if !isAscii written || written.getLast? == some '-' || maxDecoded < written.length then none
  else
    match Punycode.decode written with
    | none => none
    | some chars =>
      if !chars.isEmpty && chars.all isKept && normalized chars == chars &&
          !tag.isPrefixOf chars then
        some chars
      else none

/-- The label of characters in normal form. -/
def Label.ofChars? (chars : List Char) : Option Label :=
  let label? : Option Label :=
    if tag.isPrefixOf chars then
      (decoded? (chars.drop tag.length)).map fun shown => ⟨shown, chars⟩
    else if isAscii chars then some ⟨chars, chars⟩
    else if maxEncoded < chars.length then none
    else some ⟨chars, tag ++ Punycode.encode chars⟩
  label?.filter fun label => isWellFormed label.chars

end RateCard.Url.Domain
