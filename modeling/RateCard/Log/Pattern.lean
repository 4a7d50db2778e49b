import RateCard.Text.Alphanumeric
import RateCard.Text.Blank

/-!
# Patterns for values

A directive may name the value that a field must have, by a truth value, a number or a regular
expression. `isValue` says which texts are such values. None of the texts that come here holds a
comma, an equals sign or a closing brace, so that a brace that opens is never closed.
-/
namespace RateCard.Log.Pattern
open RateCard.Text

/-! ## Numbers -/

def isDigits (text : List Char) : Bool := !text.isEmpty && text.all Char.isDigit

/-- The exponent of a number, which may be left out. -/
def isExponent : List Char → Bool
  | [] => true
  | e :: rest =>
    e.toLower == 'e' &&
      match rest with
      | sign :: digits => if sign == '+' || sign == '-' then isDigits digits else isDigits rest
      | [] => false

/-- A number without a sign: digits before or behind a point and an exponent, or a name. -/
def isUnsigned (text : List Char) : Bool :=
  let whole := text.takeWhile Char.isDigit
  let rest := text.dropWhile Char.isDigit
  ["inf", "infinity", "nan"].contains (String.ofList (text.map Char.toLower)) ||
    match rest with
    | '.' :: rest =>
      !(whole.isEmpty && (rest.takeWhile Char.isDigit).isEmpty) &&
        isExponent (rest.dropWhile Char.isDigit)
    | _ => !whole.isEmpty && isExponent rest

def isNumber : List Char → Bool
  | '+' :: text => isUnsigned text
  | '-' :: text => isUnsigned text
  | text => isUnsigned text

/-! ## Regular expressions -/

/-- The modes that decide on what is well-formed. -/
structure Flags where
  /-- Whether characters are matched, not bytes. -/
  unicode : Bool
  /-- Whether white space and comments mean nothing. -/
  spaced : Bool
  deriving DecidableEq, Repr

/-- What stands for itself, a set or a place between characters. -/
inductive Atom where
  | literal (c : Char)
  | set
  | boundary
  deriving DecidableEq, Repr

/-- Drops white space and comments if they mean nothing. -/
def skipFrom (inComment : Bool) : List Char → List Char
  | [] => []
  | c :: rest =>
    if inComment then skipFrom (c ≠ '\n') rest
    else if isWhite c then skipFrom false rest
    else if c = '#' then skipFrom true rest
    else c :: rest

def Flags.skip (f : Flags) (text : List Char) : List Char :=
  if f.spaced then skipFrom false text else text

def hexValue? (digits : List Char) : Option Nat :=
  digits.foldl (fun n? c => do
    let n ← n?
    if c.isDigit then some (n * 16 + (c.toNat - 48))
    else if 'a' ≤ c.toLower && c.toLower ≤ 'f' then some (n * 16 + (c.toLower.toNat - 87))
    else none) (some 0)

/-- A character by its number in so many digits. -/
def numbered? (f : Flags) (count : Nat) (text : List Char) : Option (Atom × List Char) := do
  let n ← if text.length < count then none else hexValue? (text.take count)
  if !n.isValidChar || (!f.unicode && 128 ≤ n) then none
  else some (.literal (Char.ofNat n), text.drop count)

/-- What a backslash and the text behind it mean. -/
def escape? (f : Flags) : List Char → Option (Atom × List Char)
  | [] => none
  | c :: rest =>
    if "afnrtv".toList.contains c then some (.literal c, rest)
    else if "dsw".toList.contains c then some (.set, rest)
    else if "DSW".toList.contains c then if f.unicode then some (.set, rest) else none
    else if c = 'A' || c = 'z' then some (.boundary, rest)
    else if "bB<>".toList.contains c then if f.unicode then none else some (.boundary, rest)
    else if c = 'x' then numbered? f 2 (f.skip rest)
    else if c = 'u' then numbered? f 4 (f.skip rest)
    else if c = 'U' then numbered? f 8 (f.skip rest)
    else if c = 'p' || c = 'P' then
      match f.skip rest with
      | letter :: rest =>
        if f.unicode && "clmnpsz".toList.contains letter.toLower then some (.set, rest) else none
      | [] => none
    else if c.toNat < 128 && !c.isAlphanum then some (.literal c, rest)
    else none

/-- An atom that is neither a group nor a set in brackets. -/
def atom? (f : Flags) : List Char → Option (Atom × List Char)
  | [] => none
  | '\\' :: rest => escape? f rest
  | c :: rest => if f.unicode || c.toNat < 128 then some (.literal c, rest) else none

/-! ### Sets in brackets -/

def classNames : List String :=
  ["alnum", "alpha", "ascii", "blank", "cntrl", "digit", "graph", "lower", "print", "punct",
   "space", "upper", "word", "xdigit"]

/-- The text behind a named class, whose opening bracket is read. -/
def named? : List Char → Option (List Char)
  | ':' :: text =>
    let body := match text with
      | '^' :: body => body
      | body => body
    let name := body.takeWhile (· ≠ ':')
    match body.dropWhile (· ≠ ':') with
    | ':' :: ']' :: rest => if classNames.contains (String.ofList name) then some rest else none
    | _ => none
  | _ => none

/-- The text behind what may follow an opening bracket at once: a caret, and hyphens or a closing
bracket that stand for themselves. -/
def opened? (f : Flags) (text : List Char) : Option (List Char) :=
  let body? := match f.skip text with
    | '^' :: body => if f.unicode then some (f.skip body) else none
    | body => some body
  body?.map fun body =>
    match body with
    | ']' :: rest => rest
    | _ => body.dropWhile (· = '-')

/-- The text behind the end of a range whose first atom is read, or behind that atom if it starts no
range. -/
def range? (f : Flags) (first : Atom) (text : List Char) : Option (List Char) :=
  match f.skip text with
  | '-' :: rest =>
    match f.skip rest with
    | [] => none
    | ']' :: _ | '-' :: _ => some text
    | rest =>
      match first, atom? f rest with
      | .literal a, some (.literal b, rest) => if a ≤ b then some rest else none
      | _, _ => none
  | _ => some text

/-- The text behind a set, within so many more sets, in at most this many steps. -/
def set? (f : Flags) : Nat → Nat → List Char → Option (List Char)
  | 0, _, _ => none
  | steps + 1, depth, text =>
    match f.skip text with
    | [] => none
    | ']' :: rest =>
      match depth with
      | 0 => some rest
      | depth + 1 => set? f steps depth rest
    | '[' :: rest =>
      match named? rest with
      | some rest => set? f steps depth rest
      | none => (opened? f rest).bind (set? f steps (depth + 1))
    | '&' :: '&' :: rest | '-' :: '-' :: rest | '~' :: '~' :: rest => set? f steps depth rest
    | text =>
      match atom? f text with
      | none | some (.boundary, _) => none
      | some (first, rest) => (range? f first rest).bind (set? f steps depth)

/-! ### Groups -/

/-- How far an expression is read. -/
structure State where
  flags : Flags
  /-- The flags outside of each open group. -/
  groups : List Flags
  /-- Whether what stands before can be repeated. -/
  repeatable : Bool
  names : List (List Char)
  deriving DecidableEq, Repr

def State.start : State := ⟨⟨true, false⟩, [], false, []⟩

def isNameChar (first : Bool) (c : Char) : Bool :=
  c == '_' || isAlphanumeric c && !(first && c.isDigit) ||
    (!first && (c == '.' || c == '[' || c == ']'))

def isName : List Char → Bool
  | [] => false
  | c :: rest => isNameChar true c && rest.all (isNameChar false)

/-- Opens a group whose name starts the text. -/
def State.openNamed (s : State) (text : List Char) : Option (State × List Char) :=
  let name := text.takeWhile (· ≠ '>')
  match text.dropWhile (· ≠ '>') with
  | [] => none
  | _ :: rest =>
    if isName name && !s.names.contains name then
      some (⟨s.flags, s.flags :: s.groups, false, name :: s.names⟩, rest)
    else none

/-- Reads flags up to the colon of a group or to a closing parenthesis, behind which they hold. The
flags read so far are `done`; those behind a hyphen are taken back. -/
def State.readFlags (s : State) (flags : Flags) (done : List Char) (negated pending : Bool) :
    List Char → Option (State × List Char)
  | [] => none
  | c :: rest =>
    if c = ':' then
      if pending then none else some (⟨flags, s.flags :: s.groups, false, s.names⟩, rest)
    else if c = ')' then
      if pending || done.isEmpty then none else some (⟨flags, s.groups, false, s.names⟩, rest)
    else if c = '-' then
      if negated then none else readFlags s flags done true true rest
    else if "imsURux".toList.contains c && !done.contains c then
      let flags :=
        if c = 'u' then { flags with unicode := !negated }
        else if c = 'x' then { flags with spaced := !negated }
        else flags
      readFlags s flags (c :: done) negated false rest
    else none

/-- What follows an opening parenthesis. -/
def State.openGroup (s : State) (text : List Char) : Option (State × List Char) :=
  match text with
  | '?' :: 'P' :: '<' :: rest => s.openNamed rest
  | '?' :: '<' :: rest => s.openNamed rest
  | '?' :: rest => s.readFlags s.flags [] false false rest
  | _ => some (⟨s.flags, s.flags :: s.groups, false, s.names⟩, text)

/-- Reads the next part of an expression that is not empty. -/
def State.step (s : State) (c : Char) (rest : List Char) : Option (State × List Char) :=
  let behindAtom : State := { s with repeatable := true }
  if c = '(' then s.openGroup (s.flags.skip rest)
  else if c = ')' then
    match s.groups with
    | [] => none
    | flags :: groups => some (⟨flags, groups, true, s.names⟩, rest)
  else if c = '|' then some ({ s with repeatable := false }, rest)
  else if c = '*' || c = '+' || c = '?' then if s.repeatable then some (s, rest) else none
  else if c = '\x7b' then none
  else if c = '[' then
    ((opened? s.flags rest).bind (set? s.flags (rest.length + 1) 0)).map (behindAtom, ·)
  else if c = '.' then if s.flags.unicode then some (behindAtom, rest) else none
  else if c = '^' || c = '$' then some (behindAtom, rest)
  else (atom? s.flags (c :: rest)).map fun (_, rest) => (behindAtom, rest)

/-- Whether a text goes on as an expression that is well-formed, in at most this many steps. -/
def State.completes : Nat → State → List Char → Bool
  | 0, _, _ => false
  | steps + 1, s, text =>
    match s.flags.skip text with
    | [] => s.groups.isEmpty
    | c :: rest =>
      match s.step c rest with
      | none => false
      | some (s, rest) => completes steps s rest

def isExpression (text : List Char) : Bool := State.start.completes (text.length + 1) text

/-- Whether a text is a value that a field can be asked for. -/
def isValue (text : String) : Bool := isNumber text.toList || isExpression text.toList

end RateCard.Log.Pattern
