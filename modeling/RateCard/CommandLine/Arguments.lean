import RateCard.CommandLine.Seconds
import RateCard.Text.Similarity

/-!
# Reading arguments

A list of arguments is read word by word. An option that waits for its value is pending; its value
is judged only when the next option or the end of the list settles it, so that of two faults the
one that is reached first is told.
-/
namespace RateCard.CommandLine
open RateCard.Text

inductive Task where
  | refresh
  | verify
  deriving DecidableEq, Repr

/-- What an accepted list of arguments asks for. -/
structure Invocation where
  task : Task
  settings : Settings
  verbose : Bool
  deriving DecidableEq, Repr

/-- What ends a run before it starts. -/
inductive Ending where
  | help (command : Command)
  | version
  | refused (command : Command) (refusal : Refusal)
  deriving DecidableEq, Repr

/-- The form of a word, which decides how it is read. -/
inductive Form where
  | dashes
  | long (name : String) (value : Option String)
  | letters (cluster : List Char)
  | plain
  deriving DecidableEq, Repr

/-- Divides a text at its first equals sign. -/
def splitEquals (cs : List Char) : List Char × Option (List Char) :=
  match cs.dropWhile (· ≠ '=') with
  | [] => (cs, none)
  | _ :: value => (cs.takeWhile (· ≠ '='), some value)

def Form.ofString (word : String) : Form :=
  match word.toList with
  | ['-', '-'] => .dashes
  | '-' :: '-' :: rest =>
    let (name, value) := splitEquals rest
    .long (String.ofList name) (value.map String.ofList)
  | '-' :: c :: rest => .letters (c :: rest)
  | _ => .plain

/-- The values that options were given. -/
structure Values where
  endpoint : Option String
  output : Option String
  seconds : Option Nat
  verbose : Bool
  deriving DecidableEq, Repr

namespace Values

def none : Values := ⟨.none, .none, .none, false⟩

/-- Takes the value of an option, if it is one that the option can have. -/
def set (values : Values) (o : Opt) (value : String) : Except Refusal Values :=
  match o with
  | .endpoint => .ok { values with endpoint := some value }
  | .output =>
    if value.isEmpty then .error (.valueMissing .output)
    else .ok { values with output := some value }
  | .timeout =>
    match Seconds.ofString value with
    | .error fault => .error (.secondsInvalid value fault)
    | .ok n => .ok { values with seconds := some n }
  | .verbose | .help | .version => .ok values

end Values

/-- How far a list of arguments has been read. -/
structure Progress where
  values : Values
  /-- The options whose values were taken, in order. -/
  seen : List Opt
  /-- The option that came last, with its value once that has come. -/
  pending : Option (Opt × Option String)
  deriving DecidableEq, Repr

namespace Progress

def start : Progress := ⟨.none, [], none⟩

/-- Whether the next word is a value if it can be one. -/
def awaits (p : Progress) : Bool :=
  match p.pending with
  | some (_, none) => true
  | _ => false

/-- Gives an option its value. -/
def give (p : Progress) (o : Opt) (value : String) : Except Refusal Progress :=
  if p.seen.contains o then .error (.repeated o)
  else
    match p.values.set o value with
    | .error refusal => .error refusal
    | .ok values => .ok ⟨values, p.seen ++ [o], p.pending⟩

/-- Gives the pending option its value. -/
def settle (p : Progress) : Except Refusal Progress :=
  match p.pending with
  | none => .ok p
  | some (o, none) => .error (.valueMissing o)
  | some (o, some value) => { p with pending := none }.give o value

/-- The options on the usage line when a word is refused: a pending one with a value counts, and one
that is given again does not. -/
def given (p : Progress) : List Opt :=
  match p.pending with
  | some (o, some _) => if p.seen.contains o then p.seen.erase o else p.seen ++ [o]
  | _ => p.seen

/-- Reads an option without a value. -/
def flag (c : Command) (p : Progress) (o : Opt) : Except Ending Progress :=
  match p.settle with
  | .error refusal => .error (.refused c refusal)
  | .ok p =>
    match o with
    | .help => .error (.help c)
    | .version => .error .version
    | _ =>
      if p.seen.contains o then .error (.refused c (.repeated o))
      else .ok ⟨{ p.values with verbose := true }, p.seen ++ [o], none⟩

/-- Reads an option with a value, which may stand in the same word. -/
def option (c : Command) (p : Progress) (o : Opt) (value : Option String) :
    Except Ending Progress :=
  match p.settle with
  | .error refusal => .error (.refused c refusal)
  | .ok p =>
    match value with
    | none => .ok { p with pending := some (o, none) }
    | some value => (p.give o value).mapError (.refused c)

/-- Reads a long spelling. -/
def long (c : Command) (p : Progress) (name : String) (value : Option String) :
    Except Ending Progress :=
  match c.long? name with
  | none =>
    .error (.refused c
      (.unknownOption ("--" ++ name) (Similarity.closest Opt.long name c.options) p.given))
  | some o =>
    if o.takesValue then p.option c o value
    else
      match value with
      | some value => .error (.refused c (.valueUnwanted o value p.seen))
      | none => p.flag c o

/-- The value that stands behind the letter of an option in the same word. -/
def attached : List Char → Option String
  | [] => none
  | '=' :: value => some (String.ofList value)
  | value => some (String.ofList value)

/-- Reads the letters of a word; the first one that takes a value ends it. -/
def letters (c : Command) : Progress → List Char → Except Ending Progress
  | p, [] => .ok p
  | p, letter :: rest =>
    match c.short? letter with
    | none => .error (.refused c (.unknownLetter letter))
    | some o =>
      if o.takesValue then p.option c o (attached rest)
      else
        match p.flag c o with
        | .error ending => .error ending
        | .ok p => letters c p rest

end Progress

/-- Why a word that is no option and no value is refused. -/
def refuseWord (c : Command) (behindDashes : Bool) (word : String) : Refusal :=
  match c with
  | .program =>
    if behindDashes && (subcommand? word).isSome then .subcommandBehindDashes word
    else .unknownSubcommand word (Similarity.similar id word (subcommands.map (·.1)))
  | _ => .extraWord word

/-- Reads a word that calls no subcommand and is not the one behind which there are no options. -/
def Progress.step (c : Command) (p : Progress) (word : String) : Except Ending Progress :=
  match Form.ofString word with
  | .long name value => p.long c name value
  | .letters cluster => p.letters c cluster
  | _ =>
    match p.pending with
    | some (o, none) => .ok { p with pending := some (o, some word) }
    | _ => .error (.refused c (refuseWord c false word))

/-- Help on what the words behind `help` name. -/
def helpOn : List String → Ending
  | [] => .help .program
  | word :: rest =>
    match subcommand? word, rest with
    | none, _ => .refused .program (.unknownSubcommand word [])
    | some c, [] => .help c
    | some c, word :: _ => .refused c (.unknownSubcommand word [])

/-- The subcommand that a word calls. -/
def called? (c : Command) (p : Progress) (word : String) : Option Command :=
  if c = .program && !p.awaits then subcommand? word else none

/-- How far a command was read, with the words behind the call of a subcommand if it ended there. -/
abbrev Scanned := Progress × Option (List String)

/-- Reads the words of a command up to the call of a subcommand. -/
def scan (c : Command) : Progress → List String → Except Ending Scanned
  | p, [] => .ok (p, none)
  | p, word :: rest =>
    match called? c p word with
    | some .help => .error (helpOn rest)
    | some _ => .ok (p, some rest)
    | none =>
      if Form.ofString word = .dashes then
        match rest with
        | [] => .ok (p, none)
        | word :: _ => .error (.refused c (refuseWord c true word))
      else
        match p.step c word with
        | .error ending => .error ending
        | .ok p => scan c p rest

def finish (c : Command) (p : Progress) : Except Ending Values :=
  match p.settle with
  | .error refusal => .error (.refused c refusal)
  | .ok p => .ok p.values

/-- The values of `verify`, which has no words of its own behind its options. -/
def verifyValues (words : List String) : Except Ending Values :=
  match scan .verify .start words with
  | .error ending => .error ending
  | .ok (p, _) => finish .verify p

def Values.invocation (values : Values) (task : Task) : Invocation :=
  { task
    settings :=
      { endpoint := values.endpoint.getD Settings.defaultEndpoint
        output := Path.ofString (values.output.getD Settings.defaultOutput)
        timeoutMs := values.seconds.getD Settings.defaultTimeoutSeconds * 1000 }
    verbose := values.verbose }

/-- Reads a list of arguments. The output path of `verify` goes before that of the program. -/
def parse (arguments : List String) : Except Ending Invocation :=
  match scan .program .start arguments with
  | .error ending => .error ending
  | .ok (p, none) =>
    match finish .program p with
    | .error ending => .error ending
    | .ok values => .ok (values.invocation .refresh)
  | .ok (p, some words) =>
    match verifyValues words with
    | .error ending => .error ending
    | .ok inner =>
      match finish .program p with
      | .error ending => .error ending
      | .ok outer => .ok ({ outer with output := inner.output <|> outer.output }.invocation .verify)

end RateCard.CommandLine
