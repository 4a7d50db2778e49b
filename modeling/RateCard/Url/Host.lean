import RateCard.Url.Basic
import RateCard.Url.Domain.Name
import RateCard.Url.Percent

/-!
# Hosts

The host of an address as a domain name in ASCII, a number of 32 bits in four parts, or eight groups
of 16 bits in brackets. Where a scheme has no rules for hosts of its own, any text may stand for
one.
-/
namespace RateCard.Url.Host
open RateCard.Text

def digitsValue? (base : Nat) (digits : List Char) : Option Nat :=
  digits.foldl (fun n? c => do
    let n ← n?
    let d ← Percent.hexValue? c
    if d < base then some (n * base + d) else none) (some 0)

/-! ## Four parts -/

/-- A number in decimal, octal behind a zero, or hexadecimal behind `0x`. -/
def ipv4Part? : List Char → Option Nat
  | [] => none
  | '0' :: 'x' :: digits => digitsValue? 16 digits
  | '0' :: d :: digits => digitsValue? 8 (d :: digits)
  | digits => digitsValue? 10 digits

/-- The labels of a domain without the empty one behind a closing point. -/
def labels (domain : List Char) : List (List Char) :=
  let parts := splitOn '.' domain
  if parts.getLast? == some [] && parts.length > 1 then parts.dropLast else parts

def endsInNumber (domain : List Char) : Bool :=
  match (labels domain).getLast? with
  | some last => (!last.isEmpty && last.all Char.isDigit) || (ipv4Part? last).isSome
  | none => false

/-- What one stands for in each of the four parts. -/
def ipv4Weights : List Nat := [16777216, 65536, 256, 1]

/-- What the last part must be less than, by the number of parts before it. -/
def ipv4Limits : List Nat := [4294967296, 16777216, 65536, 256]

/-- All parts but the last are bytes, the last one fills up the number. -/
def ipv4Value? (parts : List Nat) : Option Nat :=
  match parts.reverse with
  | [] => none
  | last :: before =>
    match ipv4Limits[before.length]? with
    | some limit =>
      if before.all (· < 256) && last < limit then
        some ((List.zipWith (· * ·) before.reverse ipv4Weights).foldl (· + ·) last)
      else none
    | none => none

def ipv4Text (n : Nat) : String :=
  ".".intercalate (ipv4Weights.map fun weight => toString (n / weight % 256))

def ipv4 (domain : List Char) : Except UrlFault String :=
  match (labels domain).mapM ipv4Part? >>= ipv4Value? with
  | some n => .ok (ipv4Text n)
  | none => .error .badIpv4

/-! ## Eight groups -/

def ipv6Byte? (digits : List Char) : Option Nat :=
  if digits.length == 0 || digits.length > 3 || (digits.length > 1 && digits.head? == some '0') then
    none
  else
    match digitsValue? 10 digits with
    | some n => if n < 256 then some n else none
    | none => none

/-- One group, or two at the end in four decimal parts. -/
def ipv6Groups? (isLast : Bool) (text : List Char) : Option (List Nat) :=
  if text.contains '.' then
    match isLast, (splitOn '.' text).mapM ipv6Byte? with
    | true, some [a, b, c, d] => some [a * 256 + b, c * 256 + d]
    | _, _ => none
  else if text.isEmpty || text.length > 4 then none
  else (digitsValue? 16 text).map ([·])

def ipv6Run? (endsText : Bool) (text : List Char) : Option (List Nat) :=
  if text.isEmpty then some []
  else
    let parts := splitOn ':' text
    (parts.zipIdx.mapM fun (part, i) =>
      ipv6Groups? (endsText && i + 1 == parts.length) part).map List.flatten

/-- The text before and behind the first two colons in a row. -/
def splitGap : List Char → Option (List Char × List Char)
  | ':' :: ':' :: rest => some ([], rest)
  | c :: rest => (splitGap rest).map fun (before, behind) => (c :: before, behind)
  | [] => none

def ipv6Value? (text : List Char) : Option (List Nat) :=
  match splitGap text with
  | none => (ipv6Run? true text).filter (·.length == 8)
  | some (before, behind) => do
    let front ← ipv6Run? false before
    let back ← ipv6Run? true behind
    if front.length + back.length ≤ 7 then
      some (front ++ List.replicate (8 - front.length - back.length) 0 ++ back)
    else none

/-- The start and length of the first longest run of zero groups. -/
def longestZeros (groups : List Nat) : Nat × Nat :=
  (List.range 8).foldl (fun best i =>
    let run := ((groups.drop i).takeWhile (· == 0)).length
    if run > best.2 then (i, run) else best) (0, 0)

def ipv6Text (groups : List Nat) : String :=
  let shown (gs : List Nat) : String :=
    ":".intercalate (gs.map fun g => String.ofList (Nat.toDigits 16 g))
  let (first, run) := longestZeros groups
  if run < 2 then "[" ++ shown groups ++ "]"
  else "[" ++ shown (groups.take first) ++ "::" ++ shown (groups.drop (first + run)) ++ "]"

def ipv6 (text : List Char) : Except UrlFault String :=
  match ipv6Value? text with
  | some groups => .ok (ipv6Text groups)
  | none => .error .badIpv6

/-! ## Hosts of addresses -/

def domain (text : List Char) : Except UrlFault String :=
  match Domain.written? (Utf8.decodeLossy (Percent.decode text)) with
  | none => .error .badDomain
  | some [] => .error .emptyHost
  | some ascii => if endsInNumber ascii then ipv4 ascii else .ok (String.ofList ascii)

/-- Eight groups between brackets, the first of which is read. -/
def bracketed (text : List Char) : Except UrlFault String :=
  if text.getLast? == some ']' then ipv6 text.dropLast else .error .badIpv6

/-- The host of an address with a special scheme. -/
def parse (text : List Char) : Except UrlFault String :=
  match text with
  | [] => .error .emptyHost
  | '[' :: rest => bracketed rest
  | _ => domain text

/-- What no host holds, whatever the scheme. -/
def isDelimiter (c : Char) : Bool := "\x00\t\n\r #/:<>?@[\\]^|".toList.contains c

/-- The host of an address with any other scheme, which may be empty. -/
def parseOpaque (text : List Char) : Except UrlFault String :=
  match text with
  | '[' :: rest => bracketed rest
  | _ =>
    if text.any isDelimiter then .error .badCharacter
    else .ok (Percent.encode Percent.isControl text)

end RateCard.Url.Host
