import RateCard.Json.Basic
import RateCard.Text.Quoted

/-!
# Decoding faults

Why a text is not the document that was asked for, and where reading it stopped. Lines count from
one, columns count the bytes since the last line feed.
-/
namespace RateCard.Json
open RateCard.Text

structure Position where
  line : Nat
  column : Nat
  deriving DecidableEq, Repr

namespace Position

def origin : Position := ⟨1, 0⟩

def advance (p : Position) (b : UInt8) : Position :=
  if b = 10 then ⟨p.line + 1, 0⟩ else ⟨p.line, p.column + 1⟩

/-- The position after these bytes. -/
def after (bytes : Bytes) : Position := bytes.foldl advance origin

end Position

/-- What a typed reader met in place of what it wanted. -/
inductive Met where
  | null
  | bool (value : Bool)
  | number (value : Numeral)
  | string (value : String)
  | sequence
  | map
  deriving DecidableEq, Repr

inductive Wanted where
  | sequence
  | map
  | numeralText
  deriving DecidableEq, Repr

inductive Reason where
  | endInValue
  | endInList
  | endInObject
  | endInString
  | valueExpected
  | literalExpected
  | colonExpected
  | listSeparatorExpected
  | objectSeparatorExpected
  | keyExpected
  | badNumber
  | badEscape
  | badUnicode
  | controlCharacter
  | loneSurrogate
  | unfinishedSurrogate
  | trailingComma
  | trailingCharacters
  | tooDeep
  | mismatch (met : Met) (wanted : Wanted)
  deriving DecidableEq, Repr

structure Fault where
  reason : Reason
  position : Position
  deriving DecidableEq, Repr

def Met.text : Met → String
  | .null => "null"
  | .bool true => "boolean `true`"
  | .bool false => "boolean `false`"
  | .number n =>
    if n.isInteger then "integer `" ++ String.ofList n.chars ++ "`" else "number"
  | .string s => "string " ++ Quoted.quoteString s
  | .sequence => "sequence"
  | .map => "map"

def Wanted.text : Wanted → String
  | .sequence => "a sequence"
  | .map => "a map"
  | .numeralText => "string containing a number"

def Reason.text : Reason → String
  | .endInValue => "EOF while parsing a value"
  | .endInList => "EOF while parsing a list"
  | .endInObject => "EOF while parsing an object"
  | .endInString => "EOF while parsing a string"
  | .valueExpected => "expected value"
  | .literalExpected => "expected ident"
  | .colonExpected => "expected `:`"
  | .listSeparatorExpected => "expected `,` or `]`"
  | .objectSeparatorExpected => "expected `,` or `\x7d`"
  | .keyExpected => "key must be a string"
  | .badNumber => "invalid number"
  | .badEscape => "invalid escape"
  | .badUnicode => "invalid unicode code point"
  | .controlCharacter => "control character (\\u0000-\\u001F) found while parsing a string"
  | .loneSurrogate => "lone leading surrogate in hex escape"
  | .unfinishedSurrogate => "unexpected end of hex escape"
  | .trailingComma => "trailing comma"
  | .trailingCharacters => "trailing characters"
  | .tooDeep => "recursion limit exceeded"
  | .mismatch met wanted => "invalid type: " ++ met.text ++ ", expected " ++ wanted.text

def Fault.message (f : Fault) : String :=
  f.reason.text ++ " at line " ++ toString f.position.line ++ " column " ++
    toString f.position.column

end RateCard.Json
