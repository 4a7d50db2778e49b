import RateCard.Path.Basic

/-!
# Settings

Where prices are fetched from, where they are written to, and how long a fetch may take.
-/
namespace RateCard

structure Settings where
  endpoint : String
  output : Path
  timeoutMs : Nat
  deriving DecidableEq, Repr

namespace Settings

def defaultEndpoint : String := "https://openrouter.ai/api/v1/models"

def defaultOutput : String := "crates/ploke-tui/data/models/all_pricing_parsed.json"

def defaultTimeoutSeconds : Nat := 20

def default : Settings :=
  ⟨defaultEndpoint, Path.ofString defaultOutput, defaultTimeoutSeconds * 1000⟩

/-- Equality with output paths compared by their components. -/
def same (a b : Settings) : Bool :=
  a.endpoint == b.endpoint && a.output.same b.output && a.timeoutMs == b.timeoutMs

end Settings
end RateCard
