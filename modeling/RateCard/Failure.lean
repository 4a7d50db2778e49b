import RateCard.Json.Fault
import RateCard.Network.Basic
import RateCard.Path.Basic

/-!
# Failures

Everything that can go wrong while prices are fetched, written or checked, with its message and the
coarse kind that decides how a run ends.
-/
namespace RateCard

/-- Why the contents of a file are no price artifact. -/
inductive Flaw where
  | malformed (fault : Json.Fault)
  | notArray
  | noEntries
  | entryNotObject (index : Nat)
  | described (reason : String)
  deriving DecidableEq, Repr

def Flaw.text : Flaw → String
  | .malformed fault => fault.message
  | .notArray => "top-level value is not an array"
  | .noEntries => "array is empty"
  | .entryNotObject index => "entry " ++ toString index ++ " is not an object"
  | .described reason => reason

inductive FailureKind where
  | fetch
  | io
  | verify
  deriving DecidableEq, Repr

inductive Failure where
  | http (trouble : Trouble)
  | api (status : Nat) (body : String)
  | json (fault : Json.Fault)
  | io (path : Path) (fault : IoFault)
  | missingArtifact (path : Path)
  | invalidArtifact (path : Path) (flaw : Flaw)
  deriving DecidableEq, Repr

namespace Failure

def kind : Failure → FailureKind
  | .http _ | .api _ _ | .json _ => .fetch
  | .io _ _ => .io
  | .missingArtifact _ | .invalidArtifact _ _ => .verify

def message : Failure → String
  | .http trouble => "HTTP request failed: " ++ trouble.message
  | .api status body => "API error (HTTP " ++ toString status ++ "): " ++ body
  | .json fault => "JSON parse error: " ++ fault.message
  | .io path fault => "IO error at " ++ path.text ++ ": " ++ fault.message
  | .missingArtifact path =>
    "pricing artifact not found at " ++ path.text ++ "; run `pricing-sync` to fetch it"
  | .invalidArtifact path flaw =>
    "invalid pricing artifact at " ++ path.text ++ ": " ++ flaw.text

/-- What lies behind a failure, outermost first. -/
def causes : Failure → List String
  | .http trouble => trouble.message :: trouble.causes
  | .json fault => [fault.message]
  | .io _ fault => [fault.message]
  | .api _ _ | .missingArtifact _ | .invalidArtifact _ _ => []

/-- The message with all causes behind it. -/
def fullMessage (f : Failure) : String := ": ".intercalate (f.message :: f.causes)

end Failure
end RateCard
