import RateCard.Artifact.Write
import RateCard.Json.Decode
import RateCard.Network.Exchange
import RateCard.PriceList.Extract
import RateCard.Settings

/-!
# Refreshing the artifact

One run: fetch the model listing, extract its prices and write them. A listing without entries
leaves the artifact alone, and a fetch that nothing answers ends when its time is over.
-/
namespace RateCard
open RateCard.Text

/-- A result with the requests and the events on the way to it, and how long it was waited for. -/
structure Traced (α : Type) where
  result : α
  requests : List Request
  events : List Log.Event
  waitedMs : Nat

namespace Listing

/-- What a response says: a document, or the error that the server reports. -/
def ofResponse (r : Response) : Except Failure Json :=
  if r.isSuccess then
    match r.body with
    | none => .error (.http .bodyCut)
    | some body => (Json.decode body).mapError .json
  else .error (.api r.status (String.ofList (Utf8.decodeLossy (r.body.getD []))))

/-- Fetches the document at an endpoint, which may take this long. -/
def fetch (network : Network) (endpoint : String)
    (timeoutMs : Nat := Settings.default.timeoutMs) : Traced (Except Failure Json) :=
  let exchange := network.get endpoint
  let waitedMs := exchange.waitedMs timeoutMs
  match exchange.result with
  | .error trouble =>
    ⟨.error (.http trouble), exchange.requests, [.fetching endpoint], waitedMs⟩
  | .ok response =>
    ⟨ofResponse response, exchange.requests,
      [.fetching endpoint, .answered endpoint response.status], waitedMs⟩

end Listing

inductive Outcome where
  | written (summary : Summary)
  | empty
  deriving DecidableEq, Repr

/-- Writes the prices of a document. -/
def refreshFrom (t : FileTree) (settings : Settings) (listing : Json) :
    (Except Failure Outcome × FileTree) × List Log.Event :=
  let (prices, warnings) := PriceList.ofListing listing
  if prices.isEmpty then ((.ok .empty, t), warnings ++ [.nothingExtracted settings.endpoint])
  else
    let (result, t) := Artifact.write t prices settings.output
    ((result.map .written, t), warnings ++ Artifact.events result)

def refresh (network : Network) (t : FileTree) (settings : Settings) :
    Traced (Except Failure Outcome × FileTree) :=
  let fetched := Listing.fetch network settings.endpoint settings.timeoutMs
  match fetched.result with
  | .error failure => ⟨(.error failure, t), fetched.requests, fetched.events, fetched.waitedMs⟩
  | .ok listing =>
    let (result, events) := refreshFrom t settings listing
    ⟨result, fetched.requests, fetched.events ++ events, fetched.waitedMs⟩

end RateCard
