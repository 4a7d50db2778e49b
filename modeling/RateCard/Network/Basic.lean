import RateCard.Text.Utf8
import RateCard.FileTree.Errno
import RateCard.Url.Asked

/-!
# Networks

What connections meet. A network is out of reach or has one server, which answers its connections
by a script: each connection takes the next reply, and those behind the last one are closed.
-/
namespace RateCard
open RateCard.Text (Bytes)

inductive Reply where
  /-- A response, of whose body the last `missing` announced bytes never come. -/
  | answer (status : Nat) (body : Bytes) (location : Option String) (missing : Nat)
  | close
  | hang
  deriving DecidableEq, Repr

inductive Network where
  | unreachable
  | serving (authority : String) (script : List Reply)
  deriving DecidableEq, Repr

structure Request where
  method : String
  target : String
  accept : String
  deriving DecidableEq, Repr

def Request.text (r : Request) : String := r.method ++ " " ++ r.target ++ " " ++ r.accept

/-- Why no response came of a request. -/
inductive Trouble where
  | badAddress (fault : UrlFault)
  | badScheme (url : Url)
  | badRequest (url : Url)
  | noConnection (url : Url) (errno : Errno)
  | closed (url : Url)
  | timedOut (url : Url)
  | tooManyRedirects (url : Url)
  | bodyCut
  deriving DecidableEq, Repr

namespace Trouble

/-- The message, then the causes behind it. -/
def chain : Trouble → String × List String
  | .badAddress fault => ("builder error", [fault.message])
  | .badScheme url => ("builder error for url (" ++ url.text ++ ")", ["URL scheme is not allowed"])
  | .badRequest url =>
    ("builder error for url (" ++ url.text ++ ")", ["Parsed Url is not a valid Uri"])
  | .noConnection url errno =>
    ("error sending request for url (" ++ url.text ++ ")",
      ["client error (Connect)", "tcp connect error", errno.message])
  | .closed url =>
    ("error sending request for url (" ++ url.text ++ ")",
      ["client error (SendRequest)", "connection closed before message completed"])
  | .timedOut url =>
    ("error sending request for url (" ++ url.text ++ ")", ["operation timed out"])
  | .tooManyRedirects url =>
    ("error following redirect for url (" ++ url.text ++ ")", ["too many redirects"])
  | .bodyCut =>
    ("error decoding response body",
      ["request or response body error", "error reading a body from connection",
        "end of file before message length reached"])

/-- Why an address cannot be asked for on any network. -/
def ofUrl? (url : Url) : Option Trouble :=
  if !url.isHttp then some (.badScheme url)
  else if !url.fitsRequest then some (.badRequest url)
  else none

def message (t : Trouble) : String := t.chain.1

def causes (t : Trouble) : List String := t.chain.2

end Trouble
end RateCard
