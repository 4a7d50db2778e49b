import RateCard.Log.Event
import RateCard.Log.Pattern
import RateCard.Text.Alphanumeric
import RateCard.Text.Blank
import RateCard.Text.Utf8

/-!
# Directives of log filters

A directive `source[span{field=value}]=level` sets how much is shown of the events of some sources.
Its source, its brackets and its level may be left out. The marks that divide it are looked for in
its text without the white space around it, but its parts are cut from the text with that white
space, at the same distances in bytes from the start.
-/
namespace RateCard.Log
open RateCard.Text

/-- The most that is shown, nothing at all for `none`. -/
abbrev Limit := Option Level

structure Directive where
  source : Option String
  /-- A kind of span that an event must stand in. -/
  span : Option String
  /-- A field that an event must have. -/
  field : Option String
  /-- Whether the field must have a certain value. -/
  valued : Bool
  limit : Limit
  deriving DecidableEq, Repr

namespace Directive

/-! ## Levels -/

/-- The levels in the order of their numbers. -/
def limits : List (String × Limit) :=
  [("off", none), ("error", some .error), ("warn", some .warn), ("info", some .info),
   ("debug", some .debug), ("trace", some .trace)]

/-- A number in decimal digits, which may have a plus sign. -/
def number? (text : String) : Option Nat :=
  let digits := match text.toList with
    | '+' :: digits => digits
    | digits => digits
  if digits.isEmpty || !digits.all Char.isDigit then none
  else some (digits.foldl (fun n c => n * 10 + (c.toNat - '0'.toNat)) 0)

/-- A level by number, or by name in any case. -/
def limit? (text : String) : Option Limit :=
  match number? text with
  | some n => limits[n]?.map (·.2)
  | none => limits.lookup text.toLower

/-! ## Parts -/

/-- What is being read. The numbers say where a part starts. -/
inductive Place where
  | start
  | word (first : Nat)
  | span (first : Nat)
  | field (first : Nat)
  | behindField
  | behindSpan
  | level (first : Nat)
  deriving DecidableEq, Repr

/-- A stretch of a text between two distances from its start. -/
abbrev Cut := Nat × Nat

/-- A directive that is being read: the parts that have ended, and the place in it. -/
structure Draft where
  source : Option Cut
  span : Option Cut
  field : Option Cut
  place : Place
  deriving DecidableEq, Repr

def Draft.empty : Draft := ⟨none, none, none, .start⟩

/-- Whether a source or level may start with a character. -/
def startsWord (c : Char) : Bool := c == '-' || c == ':' || c == '_' || isAlphanumeric c

/-- Takes the character at a distance from the start. -/
def Draft.step (d : Draft) (here : Nat) (c : Char) : Option Draft :=
  match d.place with
  | .start =>
    if c = '[' then some { d with place := .span (here + 1) }
    else if startsWord c then some { d with place := .word here }
    else none
  | .word first =>
    if c = '=' then some { d with source := some (first, here), place := .level (here + 1) }
    else if c = '[' then some { d with source := some (first, here), place := .span (here + 1) }
    else some d
  | .span first =>
    if c = ']' then some { d with span := some (first, here), place := .behindSpan }
    else if c = '\x7b' then
      let span := if first = here then none else some (first, here)
      some { d with span, place := .field (here + 1) }
    else some d
  | .field first =>
    if c = '\x7d' then
      if first = here then none
      else some { d with field := some (first, here), place := .behindField }
    else some d
  | .behindField => if c = ']' then some { d with place := .behindSpan } else none
  | .behindSpan => if c = '=' then some { d with place := .level (here + 1) } else none
  | .level _ => some d

def Draft.steps (d : Draft) (here : Nat) : List Char → Option Draft
  | [] => some d
  | c :: rest => (d.step here c).bind fun d => d.steps (here + c.utf8Size) rest

/-- A stretch of a text, unless it would divide a character. -/
def slice? (text : Bytes) (cut : Cut) : Option String :=
  (Utf8.decode ((text.take cut.2).drop cut.1)).map String.ofList

/-- A part that is there must be a text. -/
def part? (text : Bytes) : Option Cut → Option (Option String)
  | none => some none
  | some cut => (slice? text cut).map some

/-- The name of a field, and the value behind its equals sign. -/
def fieldParts (text : String) : String × Option String :=
  match text.splitOn "=" with
  | name :: value :: _ => (name, some value)
  | _ => (text, none)

/-- What comes of the level and source of a directive that ends with a word: a word that is no level
is a source, of which all is shown. -/
def ofWord (word : String) : Directive :=
  match limit? word with
  | some limit => ⟨none, none, none, false, limit⟩
  | none => ⟨some word, none, none, false, some .trace⟩

/-- A level that is left out shows all. -/
def level? (text : String) : Option Limit :=
  if text.isEmpty then some (some .trace) else limit? text

/-- The directive of a draft that has come to its end. -/
def Draft.finish (d : Draft) (text : Bytes) : Option Directive := do
  let source ← part? text d.source
  let span ← part? text d.span
  let field ← part? text d.field
  let (name, value) := match field with
    | some field => (fieldParts field).map some id
    | none => (none, none)
  if !value.all Pattern.isValue then none
  else
    let directive (limit : Limit) : Directive := ⟨source, span, name, value.isSome, limit⟩
    match d.place with
    | .word first => (slice? text (first, text.length)).map ofWord
    | .level first => do
      let limit ← level? (← slice? text (first, text.length))
      some (directive limit)
    | .behindSpan => some (directive (some .trace))
    | _ => none

def ofString? (text : String) : Option Directive := do
  let draft ← Draft.empty.steps 0 (trimmed text.toList)
  draft.finish (Utf8.ofString text)

end Directive
end RateCard.Log
