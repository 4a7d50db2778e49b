import RateCard.Url.Host

/-!
# Reading addresses

`Url.ofString` reads an address that stands alone, `Url.join` one that may leave out what it shares
with the address it was found at. Blanks around the text and line ends inside it are dropped.
-/
namespace RateCard.Url
open RateCard.Text

def isEdge (c : Char) : Bool := c.toNat ≤ 32

/-- The characters of an address text that count. -/
def cleaned (text : String) : List Char :=
  ((text.toList.dropWhile isEdge).reverse.dropWhile isEdge).reverse.filter fun c =>
    !(c == '\t' || c == '\n' || c == '\r')

/-- Splits at the first character with a property, which the second part starts with. -/
def cutAt (stop : Char → Bool) (text : List Char) : List Char × List Char :=
  (text.takeWhile (!stop ·), text.dropWhile (!stop ·))

def isSlash (special : Bool) (c : Char) : Bool := c == '/' || (special && c == '\\')

/-- A scheme in lower case, and what follows its colon. -/
def splitScheme (text : List Char) : Option (String × List Char) :=
  match text with
  | [] => none
  | c :: _ =>
    if !c.isAlpha then none
    else
      match cutAt (· == ':') text with
      | (name, _ :: rest) =>
        if name.all fun c => c.isAlphanum || c == '+' || c == '-' || c == '.' then
          some (String.ofList (name.map Char.toLower), rest)
        else none
      | _ => none

/-! ## Behind the authority -/

structure Tail where
  path : List Char
  query : Option (List Char)
  fragment : Option (List Char)

def splitTail (text : List Char) : Tail :=
  let (front, fragment) := cutAt (· == '#') text
  let (path, query) := cutAt (· == '?') front
  let behind : List Char → Option (List Char)
    | [] => none
    | _ :: rest => some rest
  ⟨path, behind query, behind fragment⟩

def queryText (special : Bool) (query : List Char) : String :=
  Percent.encode (if special then Percent.inSpecialQuery else Percent.inQuery) query

def fragmentText (fragment : List Char) : String := Percent.encode Percent.inFragment fragment

/-- Dots by themselves or as escapes. -/
def dots (segment : List Char) : Option Nat :=
  let plain := (Utf8.decodeLossy (Percent.decode segment))
  let written := segment.length
  if plain == ['.'] && (written == 1 || written == 3) then some 1
  else if plain == ['.', '.'] then some 2
  else none

def splitSegments (special : Bool) : List Char → List (List Char)
  | [] => [[]]
  | c :: cs =>
    if isSlash special c then [] :: splitSegments special cs
    else
      match splitSegments special cs with
      | [] => [[c]]
      | part :: parts => (c :: part) :: parts

/-- The letter of a drive with a colon or a bar behind it. -/
def isDrive : List Char → Bool
  | [letter, mark] => letter.isAlpha && (mark == ':' || mark == '|')
  | _ => false

/-- One folder up, but never out of a drive. -/
def parent (names : List String) : List String :=
  if names.getLast?.any (isDrive ·.toList) then names else names.dropLast

/-- The name of a segment. The drive that a path of files starts with is written with a colon. -/
def segmentName (files : Bool) (done : List String) (segment : List Char) : String :=
  if files && done.isEmpty && isDrive segment then String.ofList (segment.take 1 ++ [':'])
  else Percent.encode Percent.inPath segment

/-- Segments behind those that are already there; `.` stays and `..` goes one up. -/
def addSegments (files : Bool) : List String → List (List Char) → List String
  | done, [] => done
  | done, s :: rest =>
    let last := if rest.isEmpty then [""] else []
    match dots s with
    | some 2 => addSegments files (parent done ++ last) rest
    | some _ => addSegments files (done ++ last) rest
    | none => addSegments files (done ++ [segmentName files done s]) rest

/-- The segments of a path, of whose first slash nothing is seen. -/
def pathSegments (special files : Bool) (text : List Char) : List String :=
  addSegments files [] (splitSegments special <| match text with
    | [] => []
    | c :: rest => if isSlash special c then rest else text)

/-- The path behind an authority. -/
def absolutePath (special : Bool) (text : List Char) : UrlPath :=
  if text.isEmpty && !special then .segments [] else .segments (pathSegments special false text)

/-! ## Authorities -/

/-- Whether a character ends an authority. -/
def endsAuthority (special : Bool) (c : Char) : Bool := isSlash special c || c == '?' || c == '#'

/-- The user name and password in front of an at sign, a colon between them. -/
def userAndPassword (text : List Char) : Credentials :=
  let (user, password) := cutAt (· == ':') text
  ⟨Percent.encode Percent.inCredentials user,
    Percent.encode Percent.inCredentials (password.drop 1)⟩

/-- Splits at the last at sign of the authority that a text starts with. -/
def splitCredentials (special : Bool) (text : List Char) :
    Except UrlFault (Credentials × List Char) :=
  let (authority, behind) := cutAt (endsAuthority special) text
  if !authority.contains '@' then .ok (.none, text)
  else
    let host := (authority.reverse.takeWhile (· != '@')).reverse
    let user := authority.take (authority.length - host.length - 1)
    if user.isEmpty && host.isEmpty && !behind.isEmpty then .error .emptyHost
    else .ok (userAndPassword user, host ++ behind)

/-- Splits behind a host: at the end of the authority, or at a colon that is not in brackets. -/
def splitHost (special inBrackets : Bool) : List Char → List Char × List Char
  | [] => ([], [])
  | c :: rest =>
    if endsAuthority special c || (c == ':' && !inBrackets) then ([], c :: rest)
    else
      let (host, behind) := splitHost special ((inBrackets || c == '[') && c != ']') rest
      (c :: host, behind)

/-- The port in front of a path, and that path. A backslash ends a port with any scheme. -/
def splitPort (scheme : String) (text : List Char) : Except UrlFault (Option Nat × List Char) :=
  match text with
  | ':' :: text =>
    let (digits, behind) := cutAt (!·.isDigit) text
    if behind.head?.all (endsAuthority true) then
      match digits, Host.digitsValue? 10 digits with
      | [], _ => .ok (none, behind)
      | _, some n =>
        if n < 65536 then .ok (if usualPort scheme = some n then none else some n, behind)
        else .error .badPort
      | _, none => .error .badPort
    else .error .badPort
  | _ => .ok (none, text)

def withAuthority (scheme : String) (text : List Char) : Except UrlFault Url := do
  let special := isSpecial scheme
  let (credentials, text) ← splitCredentials special text
  let (hostText, text) := splitHost special false text
  let host ← if special then Host.parse hostText else Host.parseOpaque hostText
  if host.isEmpty && text.head? == some ':' then .error .emptyHost
  else
    let (port, text) ← splitPort scheme text
    if host.isEmpty && !credentials.isEmpty then .error .emptyHost
    else
      let tail := splitTail text
      .ok {
        scheme
        credentials
        host := some host
        port
        path := absolutePath special tail.path
        query := tail.query.map (queryText special)
        fragment := tail.fragment.map fragmentText }

/-! ## Files -/

/-- The host of a file, and what stands behind it. The drive that a path starts with is none, and
the local host goes without saying. -/
def splitFileHost (text : List Char) : Except UrlFault (String × List Char) := do
  match text with
  | a :: b :: rest =>
    if isSlash true a && isSlash true b then
      let (name, behind) := cutAt (endsAuthority true) rest
      if isDrive name then .ok ("", rest)
      else if name.isEmpty then .ok ("", behind)
      else
        let host ← Host.parse name
        .ok (if host == "localhost" then "" else host, behind)
    else .ok ("", text)
  | _ => .ok ("", text)

/-- The address of a file: a path that starts with a drive has no host, and empty segments in front
of a path are dropped. -/
def ofFile (text : List Char) : Except UrlFault Url := do
  let (host, behind) ← splitFileHost text
  let tail := splitTail behind
  let names := pathSegments true true tail.path
  let onDrive := names.head?.any (isDrive ·.toList)
  .ok {
    scheme := "file"
    credentials := .none
    host := some (if onDrive then "" else host)
    port := none
    path := .segments <| match names.dropWhile (·.isEmpty) with
      | [] => [""]
      | names => names
    query := tail.query.map (queryText true)
    fragment := tail.fragment.map fragmentText }

/-! ## Whole addresses -/

/-- An address without an authority. -/
def withoutAuthority (scheme : String) (text : List Char) : Url :=
  let tail := splitTail text
  { scheme
    credentials := .none
    host := none
    port := none
    path :=
      match tail.path with
      | '/' :: _ => absolutePath false tail.path
      | _ => .opaqueText (Percent.encode Percent.isControl tail.path)
    query := tail.query.map (queryText false)
    fragment := tail.fragment.map fragmentText }

/-- What follows the colon of a scheme. Special schemes take any number of slashes for two. -/
def behindScheme (scheme : String) (text : List Char) : Except UrlFault Url :=
  if scheme = "file" then ofFile text
  else if isSpecial scheme then withAuthority scheme (text.dropWhile (isSlash true))
  else
    match text with
    | '/' :: '/' :: rest => withAuthority scheme rest
    | _ => .ok (withoutAuthority scheme text)

def ofString (text : String) : Except UrlFault Url :=
  match splitScheme (cleaned text) with
  | some (scheme, rest) => behindScheme scheme rest
  | none => .error .noBase

/-! ## References -/

/-- The segments of a path without the last one. -/
def UrlPath.folder : UrlPath → List String
  | .segments names => names.dropLast
  | .opaqueText _ => []

/-- A reference without scheme and authority. -/
def relative (base : Url) (text : List Char) : Url :=
  let special := isSpecial base.scheme
  let tail := splitTail text
  let query := tail.query.map (queryText special)
  let fragment := tail.fragment.map fragmentText
  match tail.path with
  | [] =>
    { base with query := if tail.query.isSome then query else base.query, fragment }
  | c :: _ =>
    if isSlash special c then { base with path := absolutePath special tail.path, query, fragment }
    else
      { base with
        path := .segments
          (addSegments false (UrlPath.folder base.path) (splitSegments special tail.path))
        query
        fragment }

def slashes (special : Bool) (text : List Char) : Nat := (text.takeWhile (isSlash special)).length

/-- The address that a reference means at another address. -/
def join (base : Url) (reference : String) : Except UrlFault Url :=
  let text := cleaned reference
  let special := isSpecial base.scheme
  match splitScheme text with
  | some (scheme, rest) =>
    if special && scheme != "file" && scheme = base.scheme && slashes special rest < 2 then
      .ok (relative base rest)
    else behindScheme scheme rest
  | none =>
    if 2 ≤ slashes special text then withAuthority base.scheme (text.dropWhile (isSlash special))
    else .ok (relative base text)

end RateCard.Url
