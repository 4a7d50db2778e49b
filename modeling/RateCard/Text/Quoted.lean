import RateCard.Text.Invisible

/-!
# Quoted texts

A text between quotes, on one line. The quote, the backslash and the four short controls get a
backslash form, every other invisible character its code point in hexadecimal.
-/
namespace RateCard.Text.Quoted

def hex (n : Nat) : List Char := Nat.toDigits 16 n

def escape (c : Char) : List Char :=
  if c = '\x00' then ['\\', '0']
  else if c = '\t' then ['\\', 't']
  else if c = '\n' then ['\\', 'n']
  else if c = '\r' then ['\\', 'r']
  else if c = '"' then ['\\', '"']
  else if c = '\\' then ['\\', '\\']
  else if isInvisible c then ['\\', 'u', '\x7b'] ++ hex c.toNat ++ ['\x7d']
  else [c]

def quote (text : List Char) : List Char := '"' :: text.flatMap escape ++ ['"']

def quoteString (text : String) : String := String.ofList (quote text.toList)

end RateCard.Text.Quoted
