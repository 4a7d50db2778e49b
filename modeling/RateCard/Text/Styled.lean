/-!
# Styled texts

Texts for a terminal: pieces with a style each, shown with or without the codes of their styles.
-/
namespace RateCard.Text

inductive Style where
  | plain
  | bold
  | title
  | alarm
  | wrong
  | right
  | dim
  | italic
  | red
  | green
  | yellow
  | blue
  | magenta
  | palette (number : Nat)
  deriving DecidableEq, Repr

/-- The codes that a style starts with. -/
def Style.codes : Style → List String
  | .plain => []
  | .bold => ["1"]
  | .title => ["1", "4"]
  | .alarm => ["1", "31"]
  | .wrong => ["33"]
  | .right => ["32"]
  | .dim => ["2"]
  | .italic => ["3"]
  | .red => ["31"]
  | .green => ["32"]
  | .yellow => ["33"]
  | .blue => ["34"]
  | .magenta => ["35"]
  | .palette number => ["38;5;" ++ toString number]

def Style.paint (s : Style) (text : String) : String :=
  match s.codes with
  | [] => text
  | codes => String.join (codes.map fun c => "\x1b[" ++ c ++ "m") ++ text ++ "\x1b[0m"

abbrev Styled := List (Style × String)

def Styled.show (colour : Bool) (pieces : Styled) : String :=
  String.join (pieces.map fun (style, text) => if colour then style.paint text else text)

end RateCard.Text
