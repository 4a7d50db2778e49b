import RateCard.Text.Utf8

/-!
# Addresses

A resolved address, its text and the reasons why a text is none.
-/
namespace RateCard
open RateCard.Text

inductive UrlFault where
  | noBase
  | emptyHost
  | badPort
  | badIpv4
  | badIpv6
  | badDomain
  | badCharacter
  deriving DecidableEq, Repr

def UrlFault.message : UrlFault → String
  | .noBase => "relative URL without a base"
  | .emptyHost => "empty host"
  | .badPort => "invalid port number"
  | .badIpv4 => "invalid IPv4 address"
  | .badIpv6 => "invalid IPv6 address"
  | .badDomain => "invalid international domain name"
  | .badCharacter => "invalid domain character"

/-- What follows the authority: a list of segments behind slashes, or a text without structure. -/
inductive UrlPath where
  | segments (names : List String)
  | opaqueText (text : String)
  deriving DecidableEq, Repr

/-- A user name and a password, percent-encoded; what is empty is not there. -/
structure Credentials where
  user : String
  password : String
  deriving DecidableEq, Repr

structure Url where
  scheme : String
  credentials : Credentials
  /-- Nothing if there is no authority. -/
  host : Option String
  /-- No number for the usual port of the scheme. -/
  port : Option Nat
  path : UrlPath
  query : Option String
  fragment : Option String
  deriving DecidableEq, Repr

namespace Credentials

def none : Credentials := ⟨"", ""⟩

def isEmpty (c : Credentials) : Bool := c.user.isEmpty && c.password.isEmpty

/-- The text in front of a host. -/
def text (c : Credentials) : String :=
  if c.isEmpty then ""
  else c.user ++ (if c.password.isEmpty then "" else ":" ++ c.password) ++ "@"

end Credentials

namespace Url

/-- Schemes that always have an authority and a path behind it, with their usual ports. -/
def specialSchemes : List (String × Option Nat) :=
  [("http", some 80), ("https", some 443), ("ws", some 80), ("wss", some 443), ("ftp", some 21),
   ("file", none)]

def isSpecial (scheme : String) : Bool := specialSchemes.any fun s => s.1 == scheme

def usualPort (scheme : String) : Option Nat := (specialSchemes.lookup scheme).join

def UrlPath.text : UrlPath → String
  | .segments names => String.join (names.map ("/" ++ ·))
  | .opaqueText text => text

/-- Whether a path behind no authority would be read as one. -/
def UrlPath.looksLikeAuthority : UrlPath → Bool
  | .segments ("" :: _ :: _) => true
  | _ => false

def portText (u : Url) : String :=
  match u.port with
  | some n => ":" ++ toString n
  | none => ""

/-- The path and query, which a request names. -/
def target (u : Url) : String :=
  UrlPath.text u.path ++
    match u.query with
    | some q => "?" ++ q
    | none => ""

def text (u : Url) : String :=
  u.scheme ++ ":" ++
    (match u.host with
      | some h => "//" ++ u.credentials.text ++ h ++ u.portText
      | none => if UrlPath.looksLikeAuthority u.path then "/." else "") ++
    u.target ++
    match u.fragment with
    | some f => "#" ++ f
    | none => ""

/-- The host and the port that a connection is made to. -/
def authority (u : Url) : String :=
  u.host.getD "" ++ ":" ++ toString ((u.port.orElse fun _ => usualPort u.scheme).getD 0)

end Url
end RateCard
