import RateCard.Text.Quoted

/-!
# Log events

What the program reports while it runs, with the line that shows it. Texts that a server chose are
quoted, so that no event takes more than its own line; paths and endpoints stand as they are.
-/
namespace RateCard.Log
open RateCard.Text

inductive Level where
  | error
  | warn
  | info
  | debug
  | trace
  deriving DecidableEq, Repr

/-- How much is reported: a level reports itself and what is graver. -/
def Level.rank : Level → Nat
  | .error => 1
  | .warn => 2
  | .info => 3
  | .debug => 4
  | .trace => 5

/-- Right-aligned to five columns. -/
def Level.text : Level → String
  | .error => "ERROR"
  | .warn => " WARN"
  | .info => " INFO"
  | .debug => "DEBUG"
  | .trace => "TRACE"

inductive Event where
  | fetching (endpoint : String)
  | answered (endpoint : String) (status : Nat)
  | listingNotObject
  | dataNotArray
  | entryNotObject (index : Nat)
  | pricingNotObject (index : Nat) (id : String)
  | nothingExtracted (endpoint : String)
  | written (path : String) (count : Nat)
  deriving DecidableEq, Repr

namespace Event

def level : Event → Level
  | .fetching _ | .written _ _ => .debug
  | .answered _ _ => .info
  | _ => .warn

/-- The part of the program that reports it, which log filters name. -/
def source : Event → String
  | .fetching _ | .answered _ _ => "pricing_sync_core::api"
  | .nothingExtracted _ => "pricing_sync_core::sync"
  | .written _ _ => "pricing_sync_core::write"
  | _ => "pricing_sync_core::extract"

def message : Event → String
  | .fetching _ => "fetching model listing"
  | .answered _ _ => "model listing response"
  | .listingNotObject => "models response is not a JSON object; nothing to extract"
  | .dataNotArray => "`data` is not an array; nothing to extract"
  | .entryNotObject _ => "model entry is not an object; using empty pricing"
  | .pricingNotObject _ _ => "`pricing` is not an object; using empty pricing"
  | .nothingExtracted _ => "no pricing entries extracted"
  | .written _ _ => "pricing artifact written"

/-- Named values, shown behind the message. -/
def fields : Event → List (String × String)
  | .fetching endpoint => [("endpoint", endpoint)]
  | .answered endpoint status => [("endpoint", endpoint), ("status", toString status)]
  | .listingNotObject | .dataNotArray => []
  | .entryNotObject index => [("index", toString index)]
  | .pricingNotObject index id => [("index", toString index), ("id", Quoted.quoteString id)]
  | .nothingExtracted endpoint => [("endpoint", Quoted.quoteString endpoint)]
  | .written path count => [("path", path), ("count", toString count)]

def line (e : Event) : String :=
  e.level.text ++ " " ++ e.message ++
    String.join (e.fields.map fun (name, value) => " " ++ name ++ "=" ++ value)

end Event
end RateCard.Log
