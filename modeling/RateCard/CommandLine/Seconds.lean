import RateCard.CommandLine.Refusal

/-!
# Numbers of seconds

A number of seconds is written in decimal digits, with a plus sign in front or not, and lies between
1 and the greatest 64-bit number.
-/
namespace RateCard.CommandLine.Seconds

/-- Reads digits behind those of `n`. The first character that is wrong decides: no digit, or a
digit that makes the number too large. -/
def readFrom (n : Nat) : List Char → Except SecondsFault Nat
  | [] => .ok n
  | c :: rest =>
    if !c.isDigit then .error .badDigit
    else
      let more := n * 10 + (c.toNat - '0'.toNat)
      if maxSeconds < more then .error .tooLarge else readFrom more rest

def read : List Char → Except SecondsFault Nat
  | [] => .error .empty
  | ['+'] => .error .badDigit
  | '+' :: digits => readFrom 0 digits
  | digits => readFrom 0 digits

def ofString (text : String) : Except SecondsFault Nat :=
  match read text.toList with
  | .error fault => .error fault
  | .ok 0 => .error .zero
  | .ok n => .ok n

end RateCard.CommandLine.Seconds
