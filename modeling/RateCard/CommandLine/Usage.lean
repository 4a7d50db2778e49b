import RateCard.CommandLine.Options
import RateCard.Text.Styled

/-!
# Usage and help

The texts that tell how a command is called: the usage line, which refusals repeat, and the help.
-/
namespace RateCard.CommandLine
open RateCard.Text

/-- The long spelling, its name in bold. -/
def Opt.styled : Opt → Styled
  | .endpoint => [(.bold, "--endpoint"), (.plain, " <ENDPOINT>")]
  | .output => [(.bold, "--output"), (.plain, " <OUTPUT>")]
  | .timeout => [(.bold, "--timeout"), (.plain, " <TIMEOUT>")]
  | o => [(.bold, o.shape)]

def Command.usageHead (c : Command) : Styled :=
  [(.title, "Usage:"), (.plain, " "), (.bold, c.words)]

def Opt.onUsageLine (o : Opt) : Styled := (.plain, " ") :: o.styled

/-- The usage line of a command, or of the options that were given to it, if there are any. -/
def Command.usage (c : Command) (given : List Opt) : Styled :=
  c.usageHead ++ if given.isEmpty then [(.plain, c.tail)] else given.flatMap (·.onUsageLine)

/-- The choice among the settings of a command. -/
def Command.choice (c : Command) : String :=
  "<" ++ "|".intercalate (c.settings.map (·.shape)) ++ ">"

/-- The usage line of options where a setting of the command was made: the choice among its settings
stands in the place of them all, behind the other options. -/
def Command.usageWithChoice (c : Command) (options : List Opt) : Styled :=
  c.usageHead ++ (options.filter (!c.settings.contains ·)).flatMap (·.onUsageLine) ++
    [(.plain, " " ++ c.choice)]

def Opt.about : Opt → String
  | .endpoint => "Model listing to fetch [default: " ++ Settings.defaultEndpoint ++ "]"
  | .output =>
    "Pricing fixture to write (or check, with `verify`) [default: " ++ Settings.defaultOutput ++ "]"
  | .timeout =>
    "Request timeout in seconds [default: " ++ toString Settings.defaultTimeoutSeconds ++ "]"
  | .verbose => "Log request and write details to stderr"
  | .help => "Print help"
  | .version => "Print version"

/-- Blanks up to a column. -/
def blanks (column : Nat) (text : String) : String :=
  String.ofList (List.replicate (column - text.length) ' ')

/-- The line of an option, with what it is for behind the widest of the spellings. -/
def Opt.helpLine (column : Nat) (o : Opt) : Styled :=
  (match o.short? with
    | some letter => [(.plain, "  "), (.bold, "-" ++ letter.toString), (.plain, ", ")]
    | none => [(.plain, "      ")]) ++
  o.styled ++ [(.plain, blanks column o.shape ++ "  " ++ o.about ++ "\n")]

def Command.optionsHelp (c : Command) : Styled :=
  let column := (c.options.map (·.shape.length)).foldl max 0
  (.title, "Options:") :: (.plain, "\n") :: c.options.flatMap (·.helpLine column)

def verifyAbout : String :=
  "Check that an existing pricing fixture is a non-empty array of objects"

def helpAbout : String :=
  "Print this message or the help of the given subcommand(s)"

def examples : String :=
  "examples:\n" ++
  "  pricing-sync                               (refresh the default fixture)\n" ++
  "  pricing-sync --output /tmp/pricing.json\n" ++
  "  pricing-sync verify                        (check the fixture is usable)\n"

def Command.manual : Command → Styled
  | .program =>
    [(.plain, "Fetch OpenRouter model pricing and write it as a JSON test fixture\n\n")] ++
    Command.program.usage [] ++
    [(.plain, "\n\n"), (.title, "Commands:"), (.plain, "\n  "),
     (.bold, "verify"), (.plain, "  " ++ verifyAbout ++ "\n  "),
     (.bold, "help"), (.plain, "    " ++ helpAbout ++ "\n\n")] ++
    Command.program.optionsHelp ++ [(.plain, "\n" ++ examples)]
  | .verify =>
    [(.plain, verifyAbout ++ "\n\n")] ++ Command.verify.usage [] ++ [(.plain, "\n\n")] ++
    Command.verify.optionsHelp
  | .help =>
    [(.plain, helpAbout ++ "\n\n")] ++ Command.help.usage [] ++
    [(.plain, "\n\n"), (.title, "Arguments:"),
     (.plain, "\n  [COMMAND]...  Print help for the subcommand(s)\n")]

def versionText : String := programName ++ " " ++ programVersion ++ "\n"

end RateCard.CommandLine
