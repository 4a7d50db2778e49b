import RateCard.Url.Parse

/-!
# Addresses of requests

What an address comes to when it is asked for. Its user name and password go into a header, and what
is left must fit into the first line of a request.
-/
namespace RateCard

/-- Whether a header can say the user name and password: there must be some, a user name that is
text, and without a user name a password that is text. -/
def Credentials.fitHeader (c : Credentials) : Bool :=
  !c.isEmpty && (Url.Percent.decodeText? c.user).isSome &&
    (!c.user.isEmpty || (Url.Percent.decodeText? c.password).isSome)

namespace Url

/-- The address without the user name and password that a header can say. -/
def asked (u : Url) : Url :=
  if u.credentials.fitHeader then { u with credentials := .none } else u

def isHttp (u : Url) : Bool := u.scheme == "http" || u.scheme == "https"

/-- The greatest length of an address that a request can name. -/
def maxLength : Nat := 65534

/-- Whether a request can name an address: it is not too long, and its host holds none of the
characters that a host may hold but a request may not. -/
def fitsRequest (u : Url) : Bool :=
  u.text.utf8ByteSize ≤ maxLength &&
    (u.host.getD "").toList.all fun c => !("\"`\x7b\x7d".toList.contains c)

end Url
end RateCard
