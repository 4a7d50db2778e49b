import RateCard.Json.Scan

/-!
# Decoding documents

`Json.decode` reads a whole text as one document of at most 127 nested arrays and objects. The
readers of containers take the reader of what they hold, so that a depth is spent at each bracket
and typed readers share them.

An object whose first key is `numberKey` stands for the number its member spells.
-/
namespace RateCard.Json.Scan
open RateCard.Text

def numberKey : String := "$serde_json::private::Number"

/-- The elements after the first one, up to the closing bracket. -/
def arrayTail {α : Type} (item : Reader α) : Nat → Reader (List α)
  | 0, _ => stopAt .endInList []
  | steps + 1, s =>
    match skipBlanks s with
    | [] => stopPast .endInList []
    | b :: s =>
      if b = 93 then .ok ([], s)
      else if b = 44 then
        match skipBlanks s with
        | [] => stopPast .endInValue []
        | c :: s =>
          if c = 93 then stopPast .trailingComma (c :: s)
          else do
            let (x, s) ← item (c :: s)
            let (xs, s) ← arrayTail item steps s
            .ok (x :: xs, s)
      else stopPast .listSeparatorExpected (b :: s)

/-- An array after its opening bracket. -/
def array {α : Type} (item : Reader α) : Reader (List α) := fun s =>
  match skipBlanks s with
  | [] => stopPast .endInList []
  | b :: s =>
    if b = 93 then .ok ([], s)
    else do
      let (x, s) ← item (b :: s)
      let (xs, s) ← arrayTail item (s.length + 1) s
      .ok (x :: xs, s)

/-- The colon between a key and its value. -/
def colon (s : Bytes) : Except Stop Bytes :=
  match skipBlanks s with
  | [] => stopPast .endInObject []
  | b :: s => if b = 58 then .ok s else stopPast .colonExpected (b :: s)

/-- A member after the opening quote of its key. -/
def member {α : Type} (item : Reader α) : Reader (String × α) := fun s => do
  let (key, s) ← string s
  let s ← colon s
  let (x, s) ← item s
  .ok ((key, x), s)

/-- The members after the first one, up to the closing brace. -/
def objectTail {α : Type} (item : Reader α) : Nat → Reader (List (String × α))
  | 0, _ => stopAt .endInObject []
  | steps + 1, s =>
    match skipBlanks s with
    | [] => stopPast .endInObject []
    | b :: s =>
      if b = 125 then .ok ([], s)
      else if b = 44 then
        match skipBlanks s with
        | [] => stopPast .endInValue []
        | c :: s =>
          if c = 34 then do
            let (m, s) ← member item s
            let (ms, s) ← objectTail item steps s
            .ok (m :: ms, s)
          else if c = 125 then stopPast .trailingComma (c :: s)
          else stopPast .keyExpected (c :: s)
      else stopPast .objectSeparatorExpected (b :: s)

/-- The value of a member after its key, and the members behind it. -/
def membersFrom {α : Type} (item : Reader α) (key : String) : Reader (List (String × α)) :=
  fun s => do
    let s ← colon s
    let (x, s) ← item s
    let (ms, s) ← objectTail item (s.length + 1) s
    .ok ((key, x) :: ms, s)

/-- The first key of an object after its opening brace, or nothing if the object ends there. -/
def firstKey : Reader (Option String) := fun s =>
  match skipBlanks s with
  | [] => stopPast .endInObject []
  | b :: s =>
    if b = 125 then .ok (none, s)
    else if b = 34 then do
      let (key, s) ← string s
      .ok (some key, s)
    else stopPast .keyExpected (b :: s)

/-! ## Mismatches -/

/-- What stands in place of a wanted sequence, map or string. Scalars are read to their end, the
inside of containers is not looked at. -/
def met : Reader Met := fun s =>
  match skipBlanks s with
  | [] => stopPast .endInValue []
  | b :: s =>
    if b = 110 then do let s ← literal [117, 108, 108] s; .ok (.null, s)
    else if b = 116 then do let s ← literal [114, 117, 101] s; .ok (.bool true, s)
    else if b = 102 then do let s ← literal [97, 108, 115, 101] s; .ok (.bool false, s)
    else if startsNumeral b then do let (n, s) ← numeral (b :: s); .ok (.number n, s)
    else if b = 34 then do let (text, s) ← string s; .ok (.string text, s)
    else if b = 91 then .ok (.sequence, b :: s)
    else if b = 123 then .ok (.map, b :: s)
    else stopPast .valueExpected (b :: s)

def mismatch {α : Type} (wanted : Wanted) (s : Bytes) : Except Stop α := do
  let (m, s) ← met s
  stopAt (.mismatch m wanted) s

/-! ## Numbers spelt in a member -/

/-- A number at the start of a text. -/
def numeralOf : Reader Numeral
  | [] => stopPast .endInValue []
  | b :: s => if startsNumeral b then numeral (b :: s) else stopPast .badNumber (b :: s)

/-- The number that a string spells, with nothing around it. What is left of the string when the
number has ended, well or not, is the fault that is told. -/
def spelledNumeral (text : Bytes) : Except Stop Numeral :=
  match numeralOf text with
  | .ok (n, []) => .ok n
  | .ok (_, rest) => stopPast .badNumber rest
  | .error stop =>
    if stop.place.unread = 0 then .error stop
    else .error ⟨.badNumber, .past stop.place.unread⟩

/-- The object of a spelt number, after its first key. -/
def spelledObject : Reader Numeral := fun s => do
  let s ← colon s
  match skipBlanks s with
  | [] => stopPast .endInValue []
  | b :: s =>
    if b = 34 then do
      let (text, s) ← string s
      match spelledNumeral (Utf8.ofString text) with
      | .error e => .error ⟨e.reason, .inner (e.place.resolve (Utf8.ofString text))⟩
      | .ok n =>
        match skipBlanks s with
        | [] => stopPast .endInObject []
        | c :: s =>
          if c = 125 then .ok (n, s)
          else if c = 44 then stopPast .trailingComma (c :: s)
          else stopPast .trailingCharacters (c :: s)
    else mismatch .numeralText (b :: s)

/-! ## Documents -/

/-- An object of a document, after its opening brace. -/
def object (item : Reader Json) : Reader Json := fun s => do
  let (key, s) ← firstKey s
  match key with
  | none => .ok (.object [], s)
  | some key =>
    if key = numberKey then do
      let (n, s) ← spelledObject s
      .ok (.number n, s)
    else do
      let (written, s) ← membersFrom item key s
      .ok (.object (Members.ofWritten written), s)

/-- A document whose containers are read by the given readers. -/
def valueWith (inArray inObject : Reader Json) : Reader Json := fun s =>
  match skipBlanks s with
  | [] => stopPast .endInValue []
  | b :: s =>
    if b = 110 then do let s ← literal [117, 108, 108] s; .ok (.null, s)
    else if b = 116 then do let s ← literal [114, 117, 101] s; .ok (.bool true, s)
    else if b = 102 then do let s ← literal [97, 108, 115, 101] s; .ok (.bool false, s)
    else if startsNumeral b then do let (n, s) ← numeral (b :: s); .ok (.number n, s)
    else if b = 34 then do let (text, s) ← string s; .ok (.string text, s)
    else if b = 91 then inArray s
    else if b = 123 then inObject s
    else stopPast .valueExpected (b :: s)

/-- A document with at most `depth` containers inside one another. -/
def value : Nat → Reader Json
  | 0 => valueWith (stopAt .tooDeep) (stopAt .tooDeep)
  | depth + 1 =>
    valueWith
      (fun s => do let (items, s) ← array (value depth) s; .ok (.array items, s))
      (object (value depth))

def maxDepth : Nat := 127

/-- Reads a whole text, around which only blanks may stand. -/
def whole {α : Type} (reader : Reader α) (text : Bytes) : Except Fault α :=
  let result : Except Stop α := do
    let (x, rest) ← reader text
    match skipBlanks rest with
    | [] => .ok x
    | rest => stopPast .trailingCharacters rest
  result.mapError (Stop.fault text)

end Scan

/-- The document that a text holds. -/
def decode (text : Text.Bytes) : Except Fault Json :=
  Scan.whole (Scan.value Scan.maxDepth) text

end RateCard.Json
