import RateCard.Text.Utf8

/-!
# Number literals

A number is its literal, not a value: sign, digits, fraction digits and exponent as written. Only
the exponent has one spelling, a small `e` and an explicit sign.
-/
namespace RateCard.Json
open RateCard.Text

abbrev Digit := Fin 10

def Digit.char (d : Digit) : Char := Char.ofNat (48 + d.val)

def digit? (b : UInt8) : Option Digit :=
  if h : 48 ≤ b.toNat ∧ b.toNat < 58 then some ⟨b.toNat - 48, by omega⟩ else none

/-- The digits before the point, with no needless zero in front. `leading d ds` starts with the
digit `d + 1`. -/
inductive Whole where
  | zero
  | leading (first : Fin 9) (more : List Digit)
  deriving DecidableEq, Repr

def Whole.digits : Whole → List Digit
  | .zero => [0]
  | .leading first more => first.succ :: more

structure Exponent where
  negative : Bool
  first : Digit
  more : List Digit
  deriving DecidableEq, Repr

/-- A number literal; no fraction digits means no point. -/
structure Numeral where
  negative : Bool
  whole : Whole
  fraction : List Digit
  exponent : Option Exponent
  deriving DecidableEq, Repr

namespace Numeral

def signChars (negative : Bool) : List Char := if negative then ['-'] else []

def fractionChars : List Digit → List Char
  | [] => []
  | ds => '.' :: ds.map Digit.char

def exponentChars : Option Exponent → List Char
  | none => []
  | some e => 'e' :: (if e.negative then '-' else '+') :: (e.first :: e.more).map Digit.char

def chars (n : Numeral) : List Char :=
  signChars n.negative ++ n.whole.digits.map Digit.char ++ fractionChars n.fraction ++
    exponentChars n.exponent

def valueOf (ds : List Digit) : Nat := ds.foldl (fun n d => n * 10 + d.val) 0

/-- How many numbers a word of 64 bits can hold. -/
def wordSize : Nat := 18446744073709551616

/-- Whether the literal is a whole number of 64 bits, unsigned if it has no sign. Zero with a sign
is none. -/
def isInteger (n : Numeral) : Bool :=
  n.fraction.isEmpty && n.exponent.isNone &&
    if n.negative then n.whole ≠ .zero && valueOf n.whole.digits ≤ wordSize / 2
    else valueOf n.whole.digits < wordSize

end Numeral
end RateCard.Json
