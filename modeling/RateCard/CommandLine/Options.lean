import RateCard.Settings

/-!
# Options of the command line

The commands, the options that each of them takes, and how these are spelt.
-/
namespace RateCard.CommandLine

def programName : String := "pricing-sync"

def programVersion : String := "0.1.0"

/-- The options that stand before any subcommand belong to the program. -/
inductive Command where
  | program
  | verify
  | help
  deriving DecidableEq, Repr

inductive Opt where
  | endpoint
  | output
  | timeout
  | verbose
  | help
  | version
  deriving DecidableEq, Repr

namespace Opt

def long : Opt → String
  | .endpoint => "endpoint"
  | .output => "output"
  | .timeout => "timeout"
  | .verbose => "verbose"
  | .help => "help"
  | .version => "version"

def short? : Opt → Option Char
  | .output => some 'o'
  | .verbose => some 'v'
  | .help => some 'h'
  | .version => some 'V'
  | .endpoint | .timeout => none

def takesValue : Opt → Bool
  | .endpoint | .output | .timeout => true
  | .verbose | .help | .version => false

/-- The long spelling with a placeholder for the value. -/
def shape : Opt → String
  | .endpoint => "--endpoint <ENDPOINT>"
  | .output => "--output <OUTPUT>"
  | .timeout => "--timeout <TIMEOUT>"
  | .verbose => "--verbose"
  | .help => "--help"
  | .version => "--version"

end Opt

namespace Command

/-- The options of a command, in the order of its help. -/
def options : Command → List Opt
  | .program => [.endpoint, .output, .timeout, .verbose, .help, .version]
  | .verify => [.output, .help]
  | .help => []

/-- The options that settle how the program does its work. They stand for one another on a usage
line. -/
def settings : Command → List Opt
  | .program => [.endpoint, .output, .timeout, .verbose]
  | .verify | .help => []

def long? (c : Command) (name : String) : Option Opt :=
  c.options.find? fun o => o.long == name

def short? (c : Command) (letter : Char) : Option Opt :=
  c.options.find? fun o => o.short? == some letter

/-- The words that call a command. -/
def words : Command → String
  | .program => programName
  | .verify => programName ++ " verify"
  | .help => programName ++ " help"

/-- What may follow the words. -/
def tail : Command → String
  | .program => " [OPTIONS] [COMMAND]"
  | .verify => " [OPTIONS]"
  | .help => " [COMMAND]..."

end Command

/-- The subcommands by their names. -/
def subcommands : List (String × Command) := [("verify", .verify), ("help", .help)]

def subcommand? (word : String) : Option Command := subcommands.lookup word

end RateCard.CommandLine
