import RateCard.Text.Utf8

/-!
# Texts without terminal control

What is left of a text for a reader who has no terminal. Control sequences and control characters
other than white space are dropped. The text is taken in stretches: behind the first byte that can
be shown everything is kept up to the next byte that cannot, and where the stretch stood within a
sequence, the sequence goes on behind it.
-/
namespace RateCard.Text.Stripped

/-- Where a byte stands: outside of all sequences, or within one of some kind. -/
inductive Mode where
  | ground
  | escape
  | intermediate
  | parameters
  /-- A command to the system, which a bell ends. -/
  | command
  /-- A device string up to the byte that divides its head from its data. -/
  | deviceHead
  | deviceParameters
  | deviceIntermediate
  /-- Data up to the byte `9C`. -/
  | data
  deriving DecidableEq, Repr

def isBlank (b : UInt8) : Bool := b == 32 || b == 9 || b == 10 || b == 12 || b == 13

/-- How many bytes follow the first byte of a character, which is none in ASCII. -/
def following? (b : UInt8) : Option Nat :=
  if b < 0xC2 || 0xF4 < b then none
  else if b < 0xE0 then some 1
  else if b < 0xF0 then some 2
  else some 3

/-- Whether a byte outside of sequences can be shown. -/
def isShown (b : UInt8) : Bool := isBlank b || (32 < b && b < 127) || (following? b).isSome

/-- Whether a byte can be shown: within short sequences only line breaks and the like. -/
def Mode.shows (m : Mode) (b : UInt8) : Bool :=
  match m with
  | .ground => isShown b
  | .escape | .intermediate | .parameters => isBlank b && b ≠ 32
  | _ => false

/-- What a byte leads to from everywhere. -/
def Mode.jump? (b : UInt8) : Option Mode :=
  if b = 0x1B then some .escape else if b = 0x18 || b = 0x1A then some .ground else none

/-- What an escape byte with this byte behind it starts. -/
def Mode.ofIntroducer (b : UInt8) : Mode :=
  if b < 0x30 then .intermediate
  else if b = 0x50 then .deviceHead
  else if b = 0x58 || b = 0x5E || b = 0x5F then .data
  else if b = 0x5B then .parameters
  else if b = 0x5D then .command
  else .ground

/-- The mode behind a byte. -/
def Mode.next (m : Mode) (b : UInt8) : Mode :=
  match Mode.jump? b with
  | some mode => mode
  | none =>
    match m with
    | .ground => .ground
    | .command => if b = 7 then .ground else m
    | .data => if b = 0x9C then .ground else m
    | _ =>
      if b < 0x20 || 0x7E < b then m
      else
        match m with
        | .escape => .ofIntroducer b
        | .intermediate => if b < 0x30 then m else .ground
        | .parameters => if b < 0x40 then m else .ground
        | .deviceIntermediate => if b < 0x30 then m else .data
        | .deviceParameters =>
          if b < 0x30 then .deviceIntermediate else if b < 0x3C then m else .data
        | _ =>
          if b < 0x30 then .deviceIntermediate
          else if b < 0x40 then .deviceParameters
          else .data

/-- How a byte is taken: as part of a stretch that is kept, with the number of bytes that its
character still needs, or not. -/
inductive Stretch where
  | kept (due : Nat)
  | dropped
  deriving DecidableEq, Repr

/-- Takes one byte: whether it is kept, and how the next one is taken. A character always ends
outside of sequences. -/
def take (s : Stretch) (m : Mode) (b : UInt8) : Bool × Stretch × Mode :=
  match s with
  | .kept (due + 1) => (true, .kept due, .ground)
  | .kept 0 =>
    match following? b with
    | some due => (true, .kept due, .ground)
    | none =>
      if isShown b then (true, .kept 0, m)
      else (false, .dropped, ((Mode.jump? b).getD m).next b)
  | .dropped =>
    if m.shows b then
      match following? b with
      | some due => (true, .kept due, .ground)
      | none => (true, .kept 0, m.next b)
    else (false, .dropped, m.next b)

def strip : Stretch → Mode → Bytes → Bytes
  | _, _, [] => []
  | s, m, b :: rest =>
    match take s m b with
    | (true, s, m) => b :: strip s m rest
    | (false, s, m) => strip s m rest

end Stripped

def stripped (text : String) : String :=
  String.ofList (Utf8.decodeLossy (Stripped.strip .dropped .ground (Utf8.ofString text)))

end RateCard.Text
