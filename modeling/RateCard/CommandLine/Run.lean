import RateCard.Artifact.Inspect
import RateCard.CommandLine.Arguments
import RateCard.CommandLine.Environment
import RateCard.Refresh
import RateCard.Text.Stripped

/-!
# Runs of the program

A run reads its arguments, refreshes or verifies the artifact, and tells by its exit code what has
happened. The log comes before the message that ends a run.
-/
namespace RateCard.CommandLine
open RateCard.Text

/-- What has happened in a run. -/
inductive Exit where
  | success
  | emptyListing
  | usage
  | failure (kind : FailureKind)
  deriving DecidableEq, Repr

def Exit.code : Exit → Nat
  | .success => 0
  | .emptyListing => 1
  | .usage => 2
  | .failure .fetch => 3
  | .failure .io => 4
  | .failure .verify => 5

structure Run where
  exit : Exit
  output : String
  errors : String
  requests : List Request
  /-- How long the network was waited for. -/
  waitedMs : Nat
  tree : FileTree

/-- A text about the arguments. Without colours the codes of its styles are dropped together with
whatever terminal control the arguments brought. -/
def usageText (env : Environment) (pieces : Styled) : String :=
  if env.coloursUsage then pieces.show true else stripped (pieces.show true)

def Ending.run (env : Environment) (tree : FileTree) : Ending → Run
  | .help c => ⟨.success, usageText env c.manual, "", [], 0, tree⟩
  | .version => ⟨.success, usageText env [(.plain, versionText)], "", [], 0, tree⟩
  | .refused c refusal => ⟨.usage, "", usageText env (refusal.report c), [], 0, tree⟩

/-- A line of its own in a colour. -/
def resultLine (env : Environment) (colour : Nat) (text : String) : String :=
  Styled.show env.coloursResults [(.palette colour, text)] ++ "\n"

def failureLine (env : Environment) (failure : Failure) : String :=
  resultLine env 167 ("error: " ++ failure.fullMessage)

def emptyLine (env : Environment) (settings : Settings) : String :=
  resultLine env 214 ("No pricing data fetched from " ++ settings.endpoint ++ "; leaving " ++
    settings.output.text ++ " untouched")

def statusLine (env : Environment) (status : Artifact.Status) : String :=
  resultLine env 114 ("✔ " ++ status.path.text ++ " (" ++ toString status.entries ++
    " pricing entries)")

/-- A run that refreshes the artifact. -/
def refreshRun (env : Environment) (network : Network) (tree : FileTree) (i : Invocation) : Run :=
  let traced := refresh network tree i.settings
  let log := Log.lines env.coloursLog (env.filter i.verbose) traced.events
  match traced.result with
  | (.ok (.written summary), tree) =>
    ⟨.success, summary.message ++ "\n", log, traced.requests, traced.waitedMs, tree⟩
  | (.ok .empty, tree) =>
    ⟨.emptyListing, "", log ++ emptyLine env i.settings, traced.requests, traced.waitedMs, tree⟩
  | (.error failure, tree) =>
    ⟨.failure failure.kind, "", log ++ failureLine env failure, traced.requests, traced.waitedMs,
      tree⟩

/-- A run that verifies the artifact. -/
def verifyRun (env : Environment) (tree : FileTree) (i : Invocation) : Run :=
  match Artifact.inspect tree i.settings.output with
  | .ok status => ⟨.success, statusLine env status, "", [], 0, tree⟩
  | .error failure => ⟨.failure failure.kind, "", failureLine env failure, [], 0, tree⟩

def run (env : Environment) (network : Network) (tree : FileTree) (arguments : List String) : Run :=
  match parse arguments with
  | .error ending => ending.run env tree
  | .ok i =>
    match i.task with
    | .refresh => refreshRun env network tree i
    | .verify => verifyRun env tree i

end RateCard.CommandLine
