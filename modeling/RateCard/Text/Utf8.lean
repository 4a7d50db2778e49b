/-!
# UTF-8

Texts as bytes and bytes as texts. One reader of single bytes serves both directions of use:
`decode` refuses bytes that are not well-formed, `decodeLossy` puts one U+FFFD in the place of
each longest ill-formed beginning of a character.
-/
namespace RateCard.Text

abbrev Bytes := List UInt8

namespace Utf8

def encode (text : List Char) : Bytes := text.flatMap String.utf8EncodeChar

def ofString (text : String) : Bytes := encode text.toList

/-- A character of which some bytes are read: its bits so far, the bytes that may follow next,
and how many continuation bytes are due after that one. -/
structure Pending where
  bits : Nat
  low : UInt8
  high : UInt8
  due : Nat
  deriving DecidableEq, Repr

/-- What one byte makes of a reader. -/
inductive Step where
  | done (c : Char)
  | more (p : Pending)
  | refuse
  deriving DecidableEq, Repr

/-- The first byte of a character. The narrow ranges after `E0`, `ED`, `F0` and `F4` leave out
overlong forms, surrogates and what lies above U+10FFFF. -/
def start (b : UInt8) : Step :=
  if b < 0x80 then .done (Char.ofNat b.toNat)
  else if b < 0xC2 then .refuse
  else if b < 0xE0 then .more ⟨b.toNat - 0xC0, 0x80, 0xBF, 0⟩
  else if b = 0xE0 then .more ⟨0, 0xA0, 0xBF, 1⟩
  else if b = 0xED then .more ⟨0xD, 0x80, 0x9F, 1⟩
  else if b < 0xF0 then .more ⟨b.toNat - 0xE0, 0x80, 0xBF, 1⟩
  else if b = 0xF0 then .more ⟨0, 0x90, 0xBF, 2⟩
  else if b < 0xF4 then .more ⟨b.toNat - 0xF0, 0x80, 0xBF, 2⟩
  else if b = 0xF4 then .more ⟨4, 0x80, 0x8F, 2⟩
  else .refuse

def Pending.feed (p : Pending) (b : UInt8) : Step :=
  if p.low ≤ b ∧ b ≤ p.high then
    let bits := p.bits * 64 + (b.toNat - 0x80)
    match p.due with
    | 0 => .done (Char.ofNat bits)
    | due + 1 => .more ⟨bits, 0x80, 0xBF, due⟩
  else .refuse

def feed : Option Pending → UInt8 → Step
  | none, b => start b
  | some p, b => p.feed b

def decodeFrom : Option Pending → Bytes → Option (List Char)
  | none, [] => some []
  | some _, [] => none
  | state, b :: rest =>
    match feed state b with
    | .done c => (decodeFrom none rest).map (c :: ·)
    | .more p => decodeFrom (some p) rest
    | .refuse => none

/-- The text of well-formed bytes. -/
def decode (bytes : Bytes) : Option (List Char) := decodeFrom none bytes

/-- The bytes from the first ill-formed character on; `held` starts with the bytes of the character
that is being read. -/
def illFormedFrom : Bytes → Option Pending → Bytes → Bytes
  | _, none, [] => []
  | held, some _, [] => held
  | held, state, b :: rest =>
    match feed state b with
    | .done _ => illFormedFrom rest none rest
    | .more p => illFormedFrom held (some p) rest
    | .refuse => held

/-- What is left of bytes behind the longest text that they start with. -/
def illFormed (bytes : Bytes) : Bytes := illFormedFrom bytes none bytes

def replacement : Char := '\uFFFD'

/-- A byte that cannot continue a character ends it there and is read as the first byte of the
next one. -/
def decodeLossyFrom : Option Pending → Bytes → List Char
  | none, [] => []
  | some _, [] => [replacement]
  | none, b :: rest =>
    match start b with
    | .done c => c :: decodeLossyFrom none rest
    | .more p => decodeLossyFrom (some p) rest
    | .refuse => replacement :: decodeLossyFrom none rest
  | some p, b :: rest =>
    match p.feed b with
    | .done c => c :: decodeLossyFrom none rest
    | .more q => decodeLossyFrom (some q) rest
    | .refuse =>
      match start b with
      | .done c => replacement :: c :: decodeLossyFrom none rest
      | .more q => replacement :: decodeLossyFrom (some q) rest
      | .refuse => replacement :: replacement :: decodeLossyFrom none rest

/-- The text of any bytes. -/
def decodeLossy (bytes : Bytes) : List Char := decodeLossyFrom none bytes

end Utf8
end RateCard.Text
