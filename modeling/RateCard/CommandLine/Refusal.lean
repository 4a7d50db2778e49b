import RateCard.CommandLine.Usage

/-!
# Refused arguments

Why a list of arguments is refused, with the text that says so.
-/
namespace RateCard.CommandLine
open RateCard.Text

/-- The greatest number of 64 bits. -/
def maxSeconds : Nat := 18446744073709551615

/-- Why a text is no number of seconds. -/
inductive SecondsFault where
  | empty
  | badDigit
  | tooLarge
  | zero
  deriving DecidableEq, Repr

def SecondsFault.message : SecondsFault → String
  | .empty => "cannot parse integer from empty string"
  | .badDigit => "invalid digit found in string"
  | .tooLarge => "number too large to fit in target type"
  | .zero => "0 is not in 1.." ++ toString maxSeconds

inductive Refusal where
  /-- Among the options are those given before, which the usage line repeats. -/
  | unknownOption (spelling : String) (similar : Option Opt) (given : List Opt)
  | unknownLetter (letter : Char)
  | unknownSubcommand (word : String) (similar : List String)
  | extraWord (word : String)
  | subcommandBehindDashes (word : String)
  | repeated (option : Opt)
  | valueMissing (option : Opt)
  | valueUnwanted (option : Opt) (value : String) (given : List Opt)
  | secondsInvalid (text : String) (fault : SecondsFault)
  deriving DecidableEq, Repr

namespace Refusal

def unexpected (word : String) : Styled :=
  [(.plain, "unexpected argument '"), (.wrong, word), (.plain, "' found")]

/-- What is wrong. -/
def complaint : Refusal → Styled
  | .unknownOption spelling _ _ => unexpected spelling
  | .unknownLetter letter => unexpected ("-" ++ letter.toString)
  | .extraWord word | .subcommandBehindDashes word => unexpected word
  | .unknownSubcommand word _ =>
    [(.plain, "unrecognized subcommand '"), (.wrong, word), (.plain, "'")]
  | .repeated option =>
    [(.plain, "the argument '"), (.wrong, option.shape),
     (.plain, "' cannot be used multiple times")]
  | .valueMissing option =>
    [(.plain, "a value is required for '"), (.wrong, option.shape),
     (.plain, "' but none was supplied")]
  | .valueUnwanted option value _ =>
    [(.plain, "unexpected value '"), (.wrong, value), (.plain, "' for '"), (.bold, option.shape),
     (.plain, "' found; no more were expected")]
  | .secondsInvalid text fault =>
    [(.plain, "invalid value '"), (.wrong, text), (.plain, "' for '"),
     (.bold, Opt.timeout.shape), (.plain, "': " ++ fault.message)]

/-- Quoted words with commas between them. -/
def quotedWords : List String → Styled
  | [] => []
  | [word] => [(.plain, "'"), (.right, word), (.plain, "'")]
  | word :: words => [(.plain, "'"), (.right, word), (.plain, "', ")] ++ quotedWords words

/-- What may have been meant. -/
def advice : Refusal → Styled
  | .unknownOption _ (some option) _ =>
    (.plain, " a similar argument exists: ") :: quotedWords ["--" ++ option.long]
  | .unknownSubcommand _ [word] =>
    (.plain, " a similar subcommand exists: ") :: quotedWords [word]
  | .unknownSubcommand _ (word :: words) =>
    (.plain, " some similar subcommands exist: ") :: quotedWords (word :: words)
  | .subcommandBehindDashes word =>
    [(.plain, " subcommand '"), (.right, word), (.plain, "' exists; to use it, remove the '"),
     (.wrong, "--"), (.plain, "' before it")]
  | _ => []

def tip (r : Refusal) : Styled :=
  match r.advice with
  | [] => []
  | advice => [(.plain, "\n\n  "), (.right, "tip:")] ++ advice

/-- The usage line of a refusal, if it has one. -/
def usage? (c : Command) : Refusal → Option Styled
  | .unknownOption _ similar given =>
    some (c.usage (given ++ similar.toList.filter fun o => !given.contains o))
  | .valueUnwanted option _ given =>
    if given.any c.settings.contains then some (c.usageWithChoice (given ++ [option]))
    else some (c.usage (given ++ [option].filter fun o => !given.contains o))
  | .valueMissing _ | .secondsInvalid _ _ => none
  | .unknownLetter _ | .unknownSubcommand _ _ | .extraWord _ | .subcommandBehindDashes _
  | .repeated _ => some (c.usage [])

/-- All that is printed of a refusal by a command. -/
def report (c : Command) (r : Refusal) : Styled :=
  [(.alarm, "error:"), (.plain, " ")] ++ r.complaint ++ r.tip ++
  (match r.usage? c with
    | some usage => (.plain, "\n\n") :: usage
    | none => []) ++
  (if c.options.contains .help then
    [(.plain, "\n\nFor more information, try '"), (.bold, "--help"), (.plain, "'.\n")]
  else [(.plain, "\n")])

end Refusal
end RateCard.CommandLine
