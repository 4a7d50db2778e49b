import RateCard.Text.Utf8

/-!
# Percent encoding

A byte outside a set of safe ones is written as a percent sign and two hexadecimal digits. The sets
of the parts of an address differ.
-/
namespace RateCard.Url.Percent
open RateCard.Text

def hexDigit (n : Nat) : Char := Char.ofNat (if n < 10 then 48 + n else 55 + n)

def encodeByte (b : UInt8) : List Char := ['%', hexDigit (b.toNat / 16), hexDigit (b.toNat % 16)]

def isControl (b : UInt8) : Bool := b < 0x20 || 0x7E < b

def inFragment (b : UInt8) : Bool :=
  isControl b || b == 32 || b == 34 || b == 60 || b == 62 || b == 96

def inPath (b : UInt8) : Bool := inFragment b || b == 35 || b == 63 || b == 123 || b == 125

def inCredentials (b : UInt8) : Bool :=
  inPath b || b == 47 || b == 58 || b == 59 || b == 61 || b == 64 || (91 ≤ b && b ≤ 94) ||
    b == 124

def inQuery (b : UInt8) : Bool := isControl b || b == 32 || b == 34 || b == 35 || b == 60 || b == 62

def inSpecialQuery (b : UInt8) : Bool := inQuery b || b == 39

/-- Encodes the bytes that are in a set. -/
def encode (set : UInt8 → Bool) (text : List Char) : String :=
  String.ofList <| (Utf8.encode text).flatMap fun b =>
    if set b then encodeByte b else [Char.ofNat b.toNat]

def hexValue? (c : Char) : Option Nat :=
  if '0' ≤ c ∧ c ≤ '9' then some (c.toNat - 48)
  else if 'a' ≤ c ∧ c ≤ 'f' then some (c.toNat - 87)
  else if 'A' ≤ c ∧ c ≤ 'F' then some (c.toNat - 55)
  else none

/-- The byte of an escape behind its percent sign, if two digits follow. -/
def escaped? : List Char → Option UInt8
  | a :: b :: _ => do
    let x ← hexValue? a
    let y ← hexValue? b
    some (x * 16 + y).toUInt8
  | _ => none

/-- The bytes of a text; `skip` characters in front belong to an escape that is done. -/
def decodeFrom : Nat → List Char → Bytes
  | _, [] => []
  | skip + 1, _ :: cs => decodeFrom skip cs
  | 0, c :: cs =>
    match (if c = '%' then escaped? cs else none) with
    | some b => b :: decodeFrom 2 cs
    | none => String.utf8EncodeChar c ++ decodeFrom 0 cs

def decode (text : List Char) : Bytes := decodeFrom 0 text

/-- The text whose bytes a text encodes. -/
def decodeText? (text : String) : Option String :=
  (Utf8.decode (decode text.toList)).map String.ofList

end RateCard.Url.Percent
