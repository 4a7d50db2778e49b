import RateCard.Json.Fault

/-!
# Reading the parts of a document

Readers take the bytes that are left and give what they read with the bytes left after it. A
reader that stops says how many bytes were left where the fault lies; the fault of a byte that is
only looked at lies behind that byte.
-/
namespace RateCard.Json.Scan
open RateCard.Text

/-- Where a fault lies: in front of the last bytes of the text, behind the first of these, or at a
position in a text inside the text. -/
inductive Place where
  | left (bytes : Nat)
  | past (bytes : Nat)
  | inner (position : Position)
  deriving DecidableEq, Repr

structure Stop where
  reason : Reason
  place : Place
  deriving DecidableEq, Repr

def Place.resolve (text : Bytes) : Place → Position
  | .left n => Position.after (text.take (text.length - n))
  | .past n => Position.after (text.take (text.length - (n - 1)))
  | .inner p => p

/-- How many bytes of the text are not read. -/
def Place.unread : Place → Nat
  | .left n | .past n => n
  | .inner _ => 0

def Stop.fault (text : Bytes) (s : Stop) : Fault := ⟨s.reason, s.place.resolve text⟩

abbrev Reader (α : Type) := Bytes → Except Stop (α × Bytes)

/-- Stops in front of the bytes that are left. -/
def stopAt {α : Type} (reason : Reason) (rest : Bytes) : Except Stop α :=
  .error ⟨reason, .left rest.length⟩

/-- Stops behind the next byte, if there is one. -/
def stopPast {α : Type} (reason : Reason) (rest : Bytes) : Except Stop α :=
  .error ⟨reason, .past rest.length⟩

def isBlank (b : UInt8) : Bool := b == 32 || b == 10 || b == 9 || b == 13

def skipBlanks (s : Bytes) : Bytes := s.dropWhile isBlank

/-- The rest of a literal name, of which the first letter is read. -/
def literal : Bytes → Bytes → Except Stop Bytes
  | [], s => .ok s
  | _ :: _, [] => stopAt .endInValue []
  | w :: word, b :: s => if b = w then literal word s else stopAt .literalExpected s

/-! ## Numbers -/

def digits : Bytes → List Digit × Bytes
  | [] => ([], [])
  | b :: s =>
    match digit? b with
    | some d => let (ds, rest) := digits s; (d :: ds, rest)
    | none => ([], b :: s)

def wholePart : Reader Whole
  | [] => stopAt .endInValue []
  | b :: s =>
    match digit? b with
    | none => stopAt .badNumber s
    | some ⟨0, _⟩ =>
      match s with
      | [] => .ok (.zero, s)
      | c :: _ => if (digit? c).isSome then stopPast .badNumber s else .ok (.zero, s)
    | some ⟨n + 1, h⟩ =>
      let (ds, rest) := digits s
      .ok (.leading ⟨n, Nat.lt_of_succ_lt_succ h⟩ ds, rest)

def fractionPart : Reader (List Digit)
  | [] => .ok ([], [])
  | b :: s =>
    if b = 46 then
      match digits s with
      | ([], []) => stopAt .endInValue []
      | ([], rest) => stopPast .badNumber rest
      | (ds, rest) => .ok (ds, rest)
    else .ok ([], b :: s)

/-- The sign of an exponent, which may be left out. -/
def exponentSign : Bytes → Bool × Bytes
  | [] => (false, [])
  | b :: s => if b = 45 then (true, s) else if b = 43 then (false, s) else (false, b :: s)

def exponentPart : Reader (Option Exponent)
  | [] => .ok (none, [])
  | b :: s =>
    if b = 101 ∨ b = 69 then
      let (negative, s) := exponentSign s
      match s with
      | [] => stopAt .endInValue []
      | c :: s =>
        match digit? c with
        | none => stopAt .badNumber s
        | some d => let (ds, rest) := digits s; .ok (some ⟨negative, d, ds⟩, rest)
    else .ok (none, b :: s)

def unsigned (negative : Bool) : Reader Numeral := fun s => do
  let (whole, s) ← wholePart s
  let (fraction, s) ← fractionPart s
  let (exponent, s) ← exponentPart s
  .ok (⟨negative, whole, fraction, exponent⟩, s)

def startsNumeral (b : UInt8) : Bool := b == 45 || (digit? b).isSome

/-- A number that starts with these bytes. -/
def numeral : Reader Numeral
  | [] => stopAt .endInValue []
  | b :: s => if b = 45 then unsigned true s else unsigned false (b :: s)

/-! ## Strings -/

def hexDigit? (b : UInt8) : Option Nat :=
  if 48 ≤ b ∧ b ≤ 57 then some (b.toNat - 48)
  else if 97 ≤ b ∧ b ≤ 102 then some (b.toNat - 87)
  else if 65 ≤ b ∧ b ≤ 70 then some (b.toNat - 55)
  else none

/-- Four hexadecimal digits. All four bytes are taken before they are looked at. -/
def hexUnit : Reader Nat
  | a :: b :: c :: d :: s =>
    match hexDigit? a, hexDigit? b, hexDigit? c, hexDigit? d with
    | some a, some b, some c, some d => .ok (((a * 16 + b) * 16 + c) * 16 + d, s)
    | _, _, _, _ => stopAt .badEscape s
  | _ => stopAt .endInString []

def isTrailUnit (u : Nat) : Bool := 0xDC00 ≤ u && u < 0xE000

def isLeadUnit (u : Nat) : Bool := 0xD800 ≤ u && u < 0xDC00

/-- The character of a lead unit and the trail unit that must follow it in a second escape. -/
def surrogatePair (lead : Nat) : Reader Char
  | [] => stopAt .endInString []
  | b :: s =>
    if b = 92 then
      match s with
      | [] => stopAt .endInString []
      | c :: s =>
        if c = 117 then do
          let (trail, s) ← hexUnit s
          if isTrailUnit trail then
            .ok (Char.ofNat (0x10000 + (lead - 0xD800) * 0x400 + (trail - 0xDC00)), s)
          else stopAt .loneSurrogate s
        else stopAt .unfinishedSurrogate s
    else stopAt .unfinishedSurrogate s

/-- The character of an escape by number. -/
def unicodeEscape : Reader Char := fun s => do
  let (unit, s) ← hexUnit s
  if isTrailUnit unit then stopAt .loneSurrogate s
  else if isLeadUnit unit then surrogatePair unit s
  else .ok (Char.ofNat unit, s)

/-- The character of an escape, after its backslash. -/
def escape : Reader Char
  | [] => stopAt .endInString []
  | b :: s =>
    if b = 34 then .ok ('"', s)
    else if b = 92 then .ok ('\\', s)
    else if b = 47 then .ok ('/', s)
    else if b = 98 then .ok ('\x08', s)
    else if b = 102 then .ok ('\x0c', s)
    else if b = 110 then .ok ('\n', s)
    else if b = 114 then .ok ('\r', s)
    else if b = 116 then .ok ('\t', s)
    else if b = 117 then unicodeEscape s
    else stopAt .badEscape s

/-- The bytes that a string stands for, up to its closing quote, in at most as many steps as bytes
are left. -/
def stringBytes : Nat → Reader Bytes
  | 0, _ => stopAt .endInString []
  | _ + 1, [] => stopAt .endInString []
  | steps + 1, b :: s =>
    if b = 34 then .ok ([], s)
    else if b = 92 then do
      let (c, s) ← escape s
      let (bs, s) ← stringBytes steps s
      .ok (String.utf8EncodeChar c ++ bs, s)
    else if b < 32 then stopAt .controlCharacter s
    else do
      let (bs, s) ← stringBytes steps s
      .ok (b :: bs, s)

/-- A string after its opening quote. Bytes that are no UTF-8 are told once the closing quote is
read, as many bytes before what follows it as they come to with all that stand behind them. -/
def string : Reader String := fun s => do
  let (bs, s) ← stringBytes s.length s
  match Utf8.decode bs with
  | some cs => .ok (String.ofList cs, s)
  | none => .error ⟨.badUnicode, .left (s.length + (Utf8.illFormed bs).length)⟩

end RateCard.Json.Scan
