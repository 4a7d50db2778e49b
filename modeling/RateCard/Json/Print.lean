import RateCard.Json.Basic

/-!
# Printing documents

Two layouts of the same tokens: `compact` without blanks, `pretty` with every element and member on
a line of its own, two blanks deeper than what holds it.
-/
namespace RateCard.Json

def hexChar (n : Nat) : Char := Nat.digitChar n

/-- The quote, the backslash and the controls are escaped, nothing else. -/
def escapeChar (c : Char) : List Char :=
  if c = '"' then ['\\', '"']
  else if c = '\\' then ['\\', '\\']
  else if c = '\x08' then ['\\', 'b']
  else if c = '\x0c' then ['\\', 'f']
  else if c = '\n' then ['\\', 'n']
  else if c = '\r' then ['\\', 'r']
  else if c = '\t' then ['\\', 't']
  else if c.toNat < 32 then
    ['\\', 'u', '0', '0', hexChar (c.toNat / 16), hexChar (c.toNat % 16)]
  else [c]

def stringChars (text : String) : List Char :=
  '"' :: text.toList.flatMap escapeChar ++ ['"']

def scalarChars : Json → List Char
  | .null => ['n', 'u', 'l', 'l']
  | .bool true => ['t', 'r', 'u', 'e']
  | .bool false => ['f', 'a', 'l', 's', 'e']
  | .number n => n.chars
  | .string s => stringChars s
  | .array _ => ['[', ']']
  | .object _ => ['\x7b', '\x7d']

mutual

def compactChars : Json → List Char
  | .array (x :: xs) => '[' :: compactChars x ++ compactItems xs ++ [']']
  | .object (m :: ms) => '\x7b' :: compactMember m ++ compactMembers ms ++ ['\x7d']
  | leaf => scalarChars leaf

def compactItems : List Json → List Char
  | [] => []
  | x :: xs => ',' :: compactChars x ++ compactItems xs

def compactMember : String × Json → List Char
  | (key, x) => stringChars key ++ ':' :: compactChars x

def compactMembers : List (String × Json) → List Char
  | [] => []
  | m :: ms => ',' :: compactMember m ++ compactMembers ms

end

/-- A new line and the indentation of its depth. -/
def lineBreak (depth : Nat) : List Char := '\n' :: List.replicate (2 * depth) ' '

mutual

def prettyChars (depth : Nat) : Json → List Char
  | .array (x :: xs) =>
    '[' :: lineBreak (depth + 1) ++ prettyChars (depth + 1) x ++ prettyItems (depth + 1) xs ++
      lineBreak depth ++ [']']
  | .object (m :: ms) =>
    '\x7b' :: lineBreak (depth + 1) ++ prettyMember (depth + 1) m ++ prettyMembers (depth + 1) ms ++
      lineBreak depth ++ ['\x7d']
  | leaf => scalarChars leaf

def prettyItems (depth : Nat) : List Json → List Char
  | [] => []
  | x :: xs => ',' :: lineBreak depth ++ prettyChars depth x ++ prettyItems depth xs

def prettyMember (depth : Nat) : String × Json → List Char
  | (key, x) => stringChars key ++ ':' :: ' ' :: prettyChars depth x

def prettyMembers (depth : Nat) : List (String × Json) → List Char
  | [] => []
  | m :: ms => ',' :: lineBreak depth ++ prettyMember depth m ++ prettyMembers depth ms

end

def compact (x : Json) : String := String.ofList (compactChars x)

def pretty (x : Json) : String := String.ofList (prettyChars 0 x)

end RateCard.Json
