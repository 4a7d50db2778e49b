import RateCard.CommandLine.Run
import RateCard.Proofs.CommandLine.Verbosity
import RateCard.Proofs.Refresh.EndToEnd
import RateCard.Proofs.Refresh.Failures

/-!
# What a run tells

The exit code of a run tells what the refresh or the check came to, since each of the operations has
failures of its own. What is asked for in the log changes nothing but the log.
-/
namespace RateCard.CommandLine
open RateCard.Artifact RateCard.Text

/-! ## Line breaks -/

def lineBreaks (text : String) : Nat := text.toList.count '\n'

theorem lineBreaks_append (a b : String) : lineBreaks (a ++ b) = lineBreaks a + lineBreaks b := by
  rw [lineBreaks, String.toList_append, List.count_append]
  rfl

theorem lineBreaks_toString (n : Nat) : lineBreaks (toString n) = 0 := by
  refine List.count_eq_zero.2 fun h => ?_
  have hdigit := Nat.isDigit_of_mem_toDigits (by decide) (by decide) (Nat.toList_repr ▸ h)
  exact absurd hdigit (by decide)

/-- The message is one line, but for the line breaks of the path. -/
theorem lineBreaks_message (s : Summary) :
    lineBreaks (s.message ++ "\n") = lineBreaks s.path.text + 1 := by
  simp only [Summary.message, lineBreaks_append, lineBreaks_toString]
  have h₁ : lineBreaks "Wrote " = 0 := by decide
  have h₂ : lineBreaks " pricing entries to " = 0 := by decide
  have h₃ : lineBreaks "\n" = 1 := by decide
  omega

theorem lineBreaks_resultLine (env : Environment) (colour : Nat) (text : String) :
    lineBreaks (resultLine env colour text) = lineBreaks text + 1 := by
  have hcodes : lineBreaks (Styled.show env.coloursResults [(.palette colour, text)]) =
      lineBreaks text := by
    cases env.coloursResults with
    | false => simp [Styled.show]
    | true =>
      simp only [Styled.show, Style.paint, Style.codes, List.map_cons, List.map_nil,
        String.join_cons, String.join_nil, lineBreaks_append, lineBreaks_toString, if_true]
      have h₁ : lineBreaks "\x1b[" = 0 := by decide
      have h₂ : lineBreaks "38;5;" = 0 := by decide
      have h₃ : lineBreaks "m" = 0 := by decide
      have h₄ : lineBreaks "\x1b[0m" = 0 := by decide
      have h₅ : lineBreaks "" = 0 := by decide
      omega
  rw [resultLine, lineBreaks_append, hcodes]
  rfl

theorem lineBreaks_statusLine (env : Environment) (status : Artifact.Status) :
    lineBreaks (statusLine env status) = lineBreaks status.path.text + 1 := by
  rw [statusLine, lineBreaks_resultLine]
  simp only [lineBreaks_append, lineBreaks_toString]
  have h₁ : lineBreaks "✔ " = 0 := by decide
  have h₂ : lineBreaks " (" = 0 := by decide
  have h₃ : lineBreaks " pricing entries)" = 0 := by decide
  omega

/-! ## Exit codes -/

/-- What a run that refreshes the artifact in `tree` tells of the result. -/
structure TellsRefresh (r : Run) (tree : FileTree) (settings : Settings)
    (result : Except Failure Outcome × FileTree) : Prop where
  written : r.exit.code = 0 ↔ ∃ summary, result.1 = .ok (.written summary)
  empty : r.exit.code = 1 ↔ result.1 = .ok .empty
  fetch : r.exit.code = 3 ↔ ∃ failure, result.1 = .error failure ∧ failure.IsFetch
  io : r.exit.code = 4 ↔ ∃ q fault, result.1 = .error (.io q fault)
  others : r.exit.code ≠ 2 ∧ r.exit.code ≠ 5
  output : r.output ≠ "" ↔ r.exit.code = 0
  message : ∀ summary, result.1 = .ok (.written summary) →
    summary.path = settings.output ∧ r.output = summary.message ++ "\n"
  changed : r.tree = result.2
  unchanged : r.exit.code = 1 ∨ r.exit.code = 3 → r.tree = tree

/-- What a run that verifies the artifact at `p` in `tree` tells of the result. -/
structure TellsVerify (r : Run) (env : Environment) (tree : FileTree) (p : Path)
    (result : Except Failure Artifact.Status) : Prop where
  usable : r.exit.code = 0 ↔ ∃ status, result = .ok status
  unusable : r.exit.code = 5 ↔ result = .error (.missingArtifact p) ∨
    ∃ flaw, result = .error (.invalidArtifact p flaw)
  io : r.exit.code = 4 ↔ ∃ fault, result = .error (.io p fault)
  others : r.exit.code ≠ 1 ∧ r.exit.code ≠ 2 ∧ r.exit.code ≠ 3
  output : r.output ≠ "" ↔ r.exit.code = 0
  message : ∀ status, result = .ok status → status.path = p ∧ r.output = statusLine env status
  requests : r.requests = []
  unchanged : r.tree = tree

theorem TellsRefresh.line {r : Run} {tree : FileTree} {settings : Settings}
    {result : Except Failure Outcome × FileTree} (h : TellsRefresh r tree settings result)
    (hcode : r.exit.code = 0) : lineBreaks r.output = lineBreaks settings.output.text + 1 := by
  obtain ⟨summary, hresult⟩ := h.written.1 hcode
  obtain ⟨hpath, houtput⟩ := h.message summary hresult
  rw [houtput, lineBreaks_message, hpath]

theorem TellsVerify.line {r : Run} {env : Environment} {tree : FileTree} {p : Path}
    {result : Except Failure Artifact.Status}
    (h : TellsVerify r env tree p result) (hcode : r.exit.code = 0) :
    lineBreaks r.output = lineBreaks p.text + 1 := by
  obtain ⟨status, hresult⟩ := h.usable.1 hcode
  obtain ⟨hpath, houtput⟩ := h.message status hresult
  rw [houtput, lineBreaks_statusLine, hpath]

variable (env : Environment) (network : Network) (tree : FileTree) (i : Invocation)

theorem tellsRefresh : TellsRefresh (refreshRun env network tree i) tree i.settings
    (refresh network tree i.settings).result := by
  rcases refresh_ways network tree i.settings with ⟨n, t', h⟩ | h | ⟨failure, hfetch, h⟩ |
    ⟨q, fault, t', h⟩
  · constructor <;> simp [refreshRun, h, Exit.code]
  · constructor <;> simp [refreshRun, h, Exit.code]
  · cases hfetch <;> constructor <;>
      simp [refreshRun, h, Exit.code, Failure.isFetch_iff, Failure.kind]
  · constructor <;> simp [refreshRun, h, Exit.code, Failure.isFetch_iff, Failure.kind]

theorem tellsVerify : TellsVerify (verifyRun env tree i) env tree i.settings.output
    (Artifact.inspect tree i.settings.output) := by
  rcases inspect_ways tree i.settings.output with ⟨n, h⟩ | h | ⟨flaw, h⟩ | ⟨fault, h⟩ <;>
    constructor <;> simp [verifyRun, h, Exit.code, Failure.kind, statusLine, resultLine]

/-! ## Effects -/

/-- What a run comes to beside what it says on the error output. -/
def Run.effect (r : Run) : Exit × String × List Request × Nat × FileTree :=
  (r.exit, r.output, r.requests, r.waitedMs, r.tree)

/-- A run that refreshes waits as long as its settings allow where its exchange hangs. -/
theorem waitedMs_refreshRun : (refreshRun env network tree i).waitedMs =
    (network.get i.settings.endpoint).waitedMs i.settings.timeoutMs := by
  rw [refreshRun, ← waitedMs_refresh network tree]
  split <;> rfl

/-- A run depends on what it is to do, and on how results are coloured. -/
theorem effect_refreshRun {env env' : Environment} {i j : Invocation}
    (h : j.settings = i.settings) :
    (refreshRun env' network tree j).effect = (refreshRun env network tree i).effect := by
  rcases refresh_ways network tree i.settings with ⟨n, t', hresult⟩ | hresult |
    ⟨failure, -, hresult⟩ | ⟨q, fault, t', hresult⟩ <;>
    simp only [refreshRun, Run.effect, h, hresult]

theorem effect_verifyRun {env env' : Environment} {i j : Invocation} (h : j.settings = i.settings)
    (hcolours : env'.coloursResults = env.coloursResults) :
    (verifyRun env' tree j).effect = (verifyRun env tree i).effect := by
  rw [verifyRun, verifyRun, h]
  cases Artifact.inspect tree i.settings.output with
  | ok status => simp only [Run.effect, statusLine, resultLine, hcolours]
  | error failure => rfl

variable {env network tree} {arguments arguments' : List String} {i j : Invocation}

theorem run_refresh (h : parse arguments = .ok i) (htask : i.task = .refresh) :
    run env network tree arguments = refreshRun env network tree i := by
  simp only [run, h, htask]

theorem run_verify (h : parse arguments = .ok i) (htask : i.task = .verify) :
    run env network tree arguments = verifyRun env tree i := by
  simp only [run, h, htask]

theorem tellsRefresh_of_parse (h : parse arguments = .ok i) (htask : i.task = .refresh) :
    TellsRefresh (run env network tree arguments) tree i.settings
      (refresh network tree i.settings).result := by
  rw [run_refresh h htask]
  exact tellsRefresh env network tree i

theorem tellsVerify_of_parse (h : parse arguments = .ok i) (htask : i.task = .verify) :
    TellsVerify (run env network tree arguments) env tree i.settings.output
      (Artifact.inspect tree i.settings.output) := by
  rw [run_verify h htask]
  exact tellsVerify env tree i

theorem lineBreaks_of_parse (h : parse arguments = .ok i)
    (hcode : (run env network tree arguments).exit.code = 0) :
    lineBreaks (run env network tree arguments).output =
      lineBreaks i.settings.output.text + 1 := by
  cases htask : i.task with
  | refresh => exact (tellsRefresh_of_parse h htask).line hcode
  | verify => exact (tellsVerify_of_parse h htask).line hcode

theorem run_refused {ending : Ending} (h : parse arguments = .error ending) :
    run env network tree arguments = ending.run env tree := by
  rw [run, h]

theorem effect_refused (env : Environment) (tree : FileTree) (c : Command) (refusal : Refusal) :
    ((Ending.refused c refusal).run env tree).effect = (.usage, "", [], 0, tree) := rfl

/-- Lists that ask for the same work have the same effect, whatever they ask for in the log. -/
theorem effect_of_parse (filter : Option String) (hi : parse arguments = .ok i)
    (hj : parse arguments' = .ok j) (htask : j.task = i.task) (hsettings : j.settings = i.settings) :
    (run { env with logFilter := filter } network tree arguments').effect =
      (run env network tree arguments).effect := by
  cases h : i.task with
  | refresh =>
    rw [run_refresh hi h, run_refresh hj (htask.trans h)]
    exact effect_refreshRun network tree hsettings
  | verify =>
    rw [run_verify hi h, run_verify hj (htask.trans h)]
    exact effect_verifyRun tree hsettings rfl

theorem effect_logFilter (filter : Option String) :
    (run { env with logFilter := filter } network tree arguments).effect =
      (run env network tree arguments).effect := by
  cases h : parse arguments with
  | ok i => exact effect_of_parse filter h h rfl rfl
  | error ending =>
    rw [run_refused h, run_refused h]
    cases ending <;> rfl

theorem refused_of_parse {ending : Ending} (hhelp : ∀ c, parse arguments ≠ .error (.help c))
    (hversion : parse arguments ≠ .error .version) (h : parse arguments = .error ending) :
    ∃ c refusal, ending = .refused c refusal := by
  cases ending with
  | help c => exact absurd h (hhelp c)
  | version => exact absurd h hversion
  | refused c refusal => exact ⟨c, refusal, rfl⟩

/-- The flag in front changes nothing but the log, where it is not given already. -/
theorem effect_flag {word : String} (hword : word ∈ verbosityFlags)
    (hhelp : ∀ c, parse arguments ≠ .error (.help c)) (hversion : parse arguments ≠ .error .version)
    (hquiet : ∀ i, parse arguments = .ok i → i.verbose = false) :
    (run env network tree (word :: arguments)).effect =
      (run env network tree arguments).effect := by
  have hbeside := beside_parse hword arguments
  generalize hleft : parse arguments = left at hbeside
  generalize hright : parse (word :: arguments) = right at hbeside
  cases hbeside with
  | going hsame =>
    obtain ⟨-, rfl⟩ := hsame
    exact effect_of_parse env.logFilter hleft hright rfl rfl
  | ended e => rw [run_refused hleft, run_refused hright]
  | refused hrefusal hnoted =>
    obtain ⟨c, refusal, rfl⟩ := hrefusal
    rw [run_refused hright, effect_refused]
    cases left with
    | ok i => cases (hnoted i rfl).symm.trans (hquiet i hleft)
    | error ending =>
      obtain ⟨c, refusal, rfl⟩ := refused_of_parse hhelp hversion hleft
      rw [run_refused hleft, effect_refused]

theorem refused_iff (env : Environment) (network : Network) (tree : FileTree)
    (hhelp : ∀ c, parse arguments ≠ .error (.help c))
    (hversion : parse arguments ≠ .error .version) :
    (run env network tree arguments).exit.code = 2 ↔
      ∃ c refusal, parse arguments = .error (.refused c refusal) := by
  cases h : parse arguments with
  | error ending =>
    obtain ⟨c, refusal, rfl⟩ := refused_of_parse hhelp hversion h
    rw [run_refused h]
    exact ⟨fun _ => ⟨c, refusal, rfl⟩, fun _ => rfl⟩
  | ok i =>
    have hcode : (run env network tree arguments).exit.code ≠ 2 := by
      cases htask : i.task with
      | refresh => exact (tellsRefresh_of_parse h htask).others.1
      | verify => exact (tellsVerify_of_parse h htask).others.2.1
    simp [hcode]

/-- A run that is asked for more than a text about the program tells by its exit code what has
happened. It says something on the output exactly if it succeeds: one line with the count and the
path, but for line breaks of the path. The flag and the filter of the log change nothing but what is
said on the error output. -/
theorem run_tells (env : Environment) (network : Network) (tree : FileTree)
    (arguments : List String) (hhelp : ∀ c, parse arguments ≠ .error (.help c))
    (hversion : parse arguments ≠ .error .version) :
    let r := run env network tree arguments
    (r.exit.code = 2 ↔ ∃ c refusal, parse arguments = .error (.refused c refusal)) ∧
    (r.exit.code = 2 → r.output = "" ∧ r.requests = [] ∧ r.tree = tree) ∧
    (∀ i, parse arguments = .ok i → i.task = .refresh →
      TellsRefresh r tree i.settings (refresh network tree i.settings).result) ∧
    (∀ i, parse arguments = .ok i → i.task = .verify →
      TellsVerify r env tree i.settings.output (Artifact.inspect tree i.settings.output)) ∧
    (∀ i, parse arguments = .ok i → r.exit.code = 0 →
      lineBreaks r.output = lineBreaks i.settings.output.text + 1) ∧
    (∀ filter, (run { env with logFilter := filter } network tree arguments).effect = r.effect) ∧
    (∀ word ∈ verbosityFlags, (∀ i, parse arguments = .ok i → i.verbose = false) →
      (run env network tree (word :: arguments)).effect = r.effect) ∧
    ∀ filter arguments' i j, parse arguments = .ok i → parse arguments' = .ok j →
      j.task = i.task → j.settings = i.settings →
        (run { env with logFilter := filter } network tree arguments').effect = r.effect := by
  refine ⟨refused_iff env network tree hhelp hversion, ?_, fun i => tellsRefresh_of_parse,
    fun i => tellsVerify_of_parse, fun i => lineBreaks_of_parse, effect_logFilter,
    fun word hword => effect_flag hword hhelp hversion, fun filter _ _ _ => effect_of_parse filter⟩
  intro hcode
  obtain ⟨c, refusal, h⟩ := (refused_iff env network tree hhelp hversion).1 hcode
  rw [run_refused h]
  exact ⟨rfl, rfl, rfl⟩

/-- A refresh that writes, with and without the flag. -/
theorem run_tells_written :
    let env : Environment := ⟨none, none, none⟩
    let arguments := ["--endpoint", "http://[::1]/", "-o", "data/prices.json"]
    (∀ c, parse arguments ≠ .error (.help c)) ∧ parse arguments ≠ .error .version ∧
      lineBreaks (run env oneEntry FileTree.fresh arguments).output = 1 ∧
      (run env oneEntry FileTree.fresh ("-v" :: arguments)).effect =
        (run env oneEntry FileTree.fresh arguments).effect := by
  intro env arguments
  let i : Invocation :=
    ⟨.refresh, ⟨"http://[::1]/", Path.ofString "data/prices.json", 20000⟩, false⟩
  have hparse : parse arguments = .ok i := by decide +kernel
  have hhelp : ∀ c, parse arguments ≠ .error (.help c) := by
    intro c h
    cases hparse.symm.trans h
  have hversion : parse arguments ≠ .error .version := by
    intro h
    cases hparse.symm.trans h
  have hcode : (run env oneEntry FileTree.fresh arguments).exit.code = 0 := by decide +kernel
  obtain ⟨-, -, -, -, hline, -, hflag, -⟩ :=
    run_tells env oneEntry FileTree.fresh arguments hhelp hversion
  have hpath : lineBreaks i.settings.output.text = 0 := by decide +kernel
  refine ⟨hhelp, hversion, ?_, hflag "-v" (by decide) fun j hj => ?_⟩
  · rw [hline i hparse hcode, hpath]
  · cases hparse.symm.trans hj
    rfl

/-- The path of a usable artifact has a line break. -/
theorem run_twoLines :
    let t := FileTree.fresh.put ["tmp", "scratch", "work", "a\nb"]
      (.file (Utf8.ofString "[\x7b\x7d]"))
    let r := run ⟨none, none, none⟩ .unreachable t ["verify", "-o", "a\nb"]
    r.exit.code = 0 ∧ r.output = "✔ a\nb (1 pricing entries)\n" ∧ lineBreaks r.output = 2 := by
  decide +kernel

end RateCard.CommandLine
