import RateCard.Log.Lines

/-!
# Environment

The variables that decide on colours and on what is logged. The three kinds of output keep rules of
their own: a text about the arguments has colours if they are forced and not forbidden, a result if
they are forced, and the log unless they are forbidden.
-/
namespace RateCard.CommandLine

structure Environment where
  /-- `NO_COLOR`, which forbids colours unless it is empty. -/
  noColour : Option String
  /-- `CLICOLOR_FORCE`. -/
  forceColour : Option String
  /-- `RUST_LOG`, a filter for the log. -/
  logFilter : Option String
  deriving DecidableEq, Repr

namespace Environment

/-- Whether a variable is set to more than nothing. -/
def isFilled (value : Option String) : Bool := value.any fun v => !v.isEmpty

def coloursUsage (e : Environment) : Bool := !isFilled e.noColour && isFilled e.forceColour

def coloursResults (e : Environment) : Bool := e.forceColour.any (· ≠ "0")

def coloursLog (e : Environment) : Bool := !isFilled e.noColour

/-- The filter that is asked for; one that cannot be read is none. -/
def filter (e : Environment) (verbose : Bool) : Log.Filter :=
  (e.logFilter.bind Log.filter?).getD (Log.upTo (if verbose then .debug else .warn))

end Environment
end RateCard.CommandLine
