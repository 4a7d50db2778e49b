import RateCard.Network.Basic

/-!
# Exchanges

One request with the redirects that its answers ask for. Nothing is asked twice: a connection that
fails ends the exchange, and so does every answer that is no redirect to a usable address.
-/
namespace RateCard
open RateCard.Text (Bytes)

/-- An answer that ends an exchange. A body that did not come whole is none. -/
structure Response where
  status : Nat
  body : Option Bytes
  deriving DecidableEq, Repr

namespace Response

def isSuccess (r : Response) : Bool := 200 ≤ r.status && r.status < 300

end Response

/-- What an exchange came to, and the requests that were seen. -/
structure Exchange where
  result : Except Trouble Response
  requests : List Request

namespace Exchange

def maxRedirects : Nat := 10

def isRedirect (status : Nat) : Bool := [301, 302, 303, 307, 308].contains status

/-- Answers of these statuses have no body that is read. -/
def hasBody (status : Nat) : Bool := status != 204 && status != 304

def received (status : Nat) (body : Bytes) (missing : Nat) : Response :=
  ⟨status, if !hasBody status then some [] else if missing = 0 then some body else none⟩

/-- The address that a redirect leads to, if it is usable. -/
def nextAddress? (url : Url) (status : Nat) (location : Option String) : Option Url :=
  if isRedirect status then location.bind fun l => (url.join l).toOption else none

def requestFor (url : Url) : Request := ⟨"GET", url.target, "application/json"⟩

/-- Asks for an address, with this many redirects left to follow. A connection behind the end of the
script is closed before its request is seen. -/
def run (authority : String) (redirects : Nat) (script : List Reply) (url : Url) : Exchange :=
  match Trouble.ofUrl? url with
  | some trouble => ⟨.error trouble, []⟩
  | none =>
    if url.authority ≠ authority then ⟨.error (.noConnection url .connectionRefused), []⟩
    else
      match script with
      | [] => ⟨.error (.closed url), []⟩
      | .close :: _ => ⟨.error (.closed url), [requestFor url]⟩
      | .hang :: _ => ⟨.error (.timedOut url), [requestFor url]⟩
      | .answer status body location missing :: script =>
        match nextAddress? url status location with
        | none => ⟨.ok (received status body missing), [requestFor url]⟩
        | some next =>
          match redirects with
          | 0 => ⟨.error (.tooManyRedirects url), [requestFor url]⟩
          | redirects + 1 =>
            let later := run authority redirects script next
            ⟨later.result, requestFor url :: later.requests⟩

/-- Nothing came of the last request, though its connection stayed open. -/
def hangs (e : Exchange) : Bool :=
  match e.result with
  | .error (.timedOut _) => true
  | _ => false

/-- How long an exchange is waited for that may last `limitMs`. Replies come at once or never. -/
def waitedMs (e : Exchange) (limitMs : Nat) : Nat := if e.hangs then limitMs else 0

end Exchange

/-- Asks for what is at an address. -/
def Network.get (network : Network) (endpoint : String) : Exchange :=
  match Url.ofString endpoint with
  | .error fault => ⟨.error (.badAddress fault), []⟩
  | .ok url =>
    match network with
    | .serving authority script => Exchange.run authority Exchange.maxRedirects script url.asked
    | .unreachable =>
      match Trouble.ofUrl? url.asked with
      | some trouble => ⟨.error trouble, []⟩
      | none => ⟨.error (.noConnection url.asked .networkUnreachable), []⟩

end RateCard
