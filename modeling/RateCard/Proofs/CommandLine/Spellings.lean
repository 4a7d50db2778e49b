import RateCard.Proofs.CommandLine.ExitCode
import RateCard.Proofs.CommandLine.Seconds

/-!
# Spellings of options

Options are read as the values that they give, whatever their order and spelling. An option whose
value stands in a word of its own is pending until the next word, so what reading keeps is said of
the values that are there once the pending option is settled.
-/
namespace RateCard.CommandLine

/-! ## Options as they are given -/

/-- An option with the value that it is given. -/
inductive Gift where
  | endpoint (address : String)
  | output (path : String)
  | timeout (seconds : Nat)
  | verbose

namespace Gift

def opt : Gift → Opt
  | .endpoint _ => .endpoint
  | .output _ => .output
  | .timeout _ => .timeout
  | .verbose => .verbose

/-- The texts that stand for the value. -/
def Shown : Gift → String → Prop
  | .endpoint address, text => text = address
  | .output path, text => text = path
  | .timeout seconds, text => Seconds.Writes text seconds
  | .verbose, _ => False

end Gift

/-- A text that is told apart from options and from the sign in front of a value. -/
def Bare (text : String) : Prop := text.toList.head? ≠ some '-' ∧ text.toList.head? ≠ some '='

instance (text : String) : Decidable (Bare text) := inferInstanceAs (Decidable (_ ∧ _))

/-- A value that its option can have. -/
def Gift.Usable : Gift → Prop
  | .endpoint address => Bare address
  | .output path => Bare path ∧ path ≠ ""
  | .timeout seconds => 1 ≤ seconds ∧ seconds ≤ maxSeconds
  | .verbose => True

/-- What stands behind the letter of an option that has this value: the end of the word, and the
words that follow. -/
inductive Tail (value : String) : String → List String → Prop where
  | apart : Tail value "" [value]
  | joined : Tail value value []
  | signed : Tail value ("=" ++ value) []

/-- The words that give an option. -/
inductive Spells : Gift → List String → Prop where
  | apart {g : Gift} {value : String} : g.Shown value → Spells g ["--" ++ g.opt.long, value]
  | joined {g : Gift} {value : String} : g.Shown value →
      Spells g ["--" ++ g.opt.long ++ "=" ++ value]
  | letter {path tail : String} {more : List String} : Tail path tail more →
      Spells (.output path) (("-o" ++ tail) :: more)
  | verbose {word : String} : word ∈ verbosityFlags → Spells .verbose [word]

/-- The words that give options in this order. The flag may share the word of the letter behind
it. -/
inductive Spelt : List Gift → List String → Prop where
  | nil : Spelt [] []
  | next {g : Gift} {words : List String} {gifts : List Gift} {rest : List String} :
      Spells g words → Spelt gifts rest → Spelt (g :: gifts) (words ++ rest)
  | cluster {path tail : String} {more : List String} {gifts : List Gift} {rest : List String} :
      Tail path tail more → Spelt gifts rest →
      Spelt (.verbose :: .output path :: gifts) ((("-vo" ++ tail) :: more) ++ rest)

namespace Values

/-- The options that give these values. -/
def gifts (values : Values) : List Gift :=
  values.endpoint.toList.map .endpoint ++ values.output.toList.map .output ++
    values.seconds.toList.map .timeout ++ if values.verbose then [.verbose] else []

def take (values : Values) : Gift → Values
  | .endpoint address => { values with endpoint := some address }
  | .output path => { values with output := some path }
  | .timeout seconds => { values with seconds := some seconds }
  | .verbose => { values with verbose := true }

theorem foldl_gifts (values : Values) : values.gifts.foldl take none = values := by
  obtain ⟨_ | e, _ | p, _ | t, _ | _⟩ := values <;> rfl

theorem nodup_gifts (values : Values) : (values.gifts.map Gift.opt).Nodup := by
  obtain ⟨_ | e, _ | p, _ | t, _ | _⟩ := values <;> simp [gifts, Gift.opt]

theorem take_comm {g g' : Gift} (h : g.opt ≠ g'.opt) (values : Values) :
    (values.take g).take g' = (values.take g').take g := by
  cases g <;> cases g' <;> first | exact absurd rfl h | rfl

theorem perm_gifts_seconds {values : Values} (h : values.seconds = Option.none) (n : Nat) :
    (values.gifts ++ [Gift.timeout n]).Perm { values with seconds := some n }.gifts := by
  simp only [gifts, h, Option.toList_none, Option.toList_some, List.map_nil, List.map_cons,
    List.append_nil, List.append_assoc]
  exact .append_left _ (.append_left _ List.perm_append_comm)

/-- The order of options does not matter. -/
theorem foldl_perm {values : Values} {gifts : List Gift} (h : gifts.Perm values.gifts) :
    gifts.foldl take none = values := by
  have hnodup : (gifts.map Gift.opt).Nodup := (h.map _).nodup_iff.2 values.nodup_gifts
  rw [h.foldl_eq' (fun g hg g' hg' z => ?_), foldl_gifts]
  by_cases hopt : g.opt = g'.opt
  · rw [List.inj_on_of_nodup_map hnodup hg hg' hopt]
  · exact take_comm hopt z

end Values

/-! ## Forms of words -/

theorem splitEquals_append {name : List Char} (h : '=' ∉ name) (value : List Char) :
    splitEquals (name ++ '=' :: value) = (name, some value) := by
  have hname : ∀ c ∈ name, decide (c ≠ '=') = true :=
    fun c hc => decide_eq_true fun heq => h (heq ▸ hc)
  have hdrop : (name ++ '=' :: value).dropWhile (· ≠ '=') = '=' :: value := by
    rw [List.dropWhile_append_of_pos hname, List.dropWhile_cons_of_neg (by simp)]
  have htake : (name ++ '=' :: value).takeWhile (· ≠ '=') = name := by
    rw [List.takeWhile_append_of_pos hname, List.takeWhile_cons_of_neg (by simp), List.append_nil]
  rw [splitEquals, hdrop]
  simp only [htake]

theorem equals_not_mem_long (o : Opt) : '=' ∉ o.long.toList := by
  cases o <;> decide

theorem form_long (o : Opt) : Form.ofString ("--" ++ o.long) = .long o.long none := by
  cases o <;> decide +kernel

theorem form_joined (o : Opt) (value : String) :
    Form.ofString ("--" ++ o.long ++ "=" ++ value) = .long o.long (some value) := by
  have hword : ("--" ++ o.long ++ "=" ++ value).toList =
      '-' :: '-' :: (o.long.toList ++ '=' :: value.toList) := by
    simp [String.toList_append]
  obtain ⟨c, cs, hlong⟩ : ∃ c cs, o.long.toList = c :: cs := by
    cases o <;> exact ⟨_, _, rfl⟩
  have hsplit := splitEquals_append (equals_not_mem_long o) value.toList
  rw [hlong] at hword hsplit
  rw [List.cons_append] at hword hsplit
  rw [Form.ofString, hword]
  simp only [hsplit, Option.map_some, String.ofList_toList, ← hlong]

theorem form_letters {word : String} {c : Char} {rest : List Char} (hc : c ≠ '-')
    (hword : word.toList = '-' :: c :: rest) : Form.ofString word = .letters (c :: rest) := by
  rw [Form.ofString, hword]
  split
  next heq => exact absurd (List.cons.inj (List.cons.inj heq).2).1 hc
  next heq => exact absurd (List.cons.inj (List.cons.inj heq).2).1 hc
  next heq =>
    obtain ⟨rfl, rfl⟩ := List.cons.inj (List.cons.inj heq).2
    rfl
  next hnone => exact absurd rfl (hnone c rest)

theorem form_bare {text : String} (h : Bare text) : Form.ofString text = .plain := by
  rw [Form.ofString]
  split
  next heq => exact absurd (by rw [heq]; rfl) h.1
  next heq => exact absurd (by rw [heq]; rfl) h.1
  next heq => exact absurd (by rw [heq]; rfl) h.1
  next => rfl

theorem called_of_dash {c : Command} {p : Progress} {word : String}
    (h : word.toList.head? = some '-') : called? c p word = none := by
  have hverify : word ≠ "verify" := by
    rintro rfl
    exact absurd h (by decide)
  have hhelp : word ≠ "help" := by
    rintro rfl
    exact absurd h (by decide)
  have hnone : subcommand? word = none := by
    simp only [subcommand?, subcommands, List.lookup_cons, List.lookup_nil,
      beq_eq_false_iff_ne.2 hverify, beq_eq_false_iff_ne.2 hhelp]
  rw [called?, hnone, ite_self]

theorem long_of_mem {c : Command} {o : Opt} (h : o ∈ c.options) : c.long? o.long = some o := by
  cases c <;> cases o <;> first | rfl | exact absurd h (by decide)

/-! ## Values -/

/-- Reading has come to these values and options, once what is pending is settled. -/
def Progress.Settles (p : Progress) (values : Values) (seen : List Opt) : Prop :=
  p.settle = .ok ⟨values, seen, none⟩

theorem awaits_of_settles {p : Progress} {values : Values} {seen : List Opt}
    (h : p.Settles values seen) : p.awaits = false := by
  rw [Progress.Settles, Progress.settle] at h
  rw [Progress.awaits]
  split at h
  next hpending => rw [hpending]
  · cases h
  next hpending => rw [hpending]

/-- Where nothing is pending, there is nothing to settle. -/
theorem settles_rest (values : Values) (seen : List Opt) :
    Progress.Settles ⟨values, seen, none⟩ values seen := rfl

theorem bare_of_writes {text : String} {n : Nat} (h : Seconds.Writes text n) : Bare text := by
  obtain ⟨digits, htext | htext, hne, hdigits, -⟩ := h
  · obtain ⟨c, rest, rfl⟩ := List.exists_cons_of_ne_nil hne
    have hdigit := hdigits c List.mem_cons_self
    constructor <;> rw [htext, List.head?_cons] <;> rintro ⟨⟩ <;> exact absurd hdigit (by decide)
  · constructor <;> rw [htext, List.head?_cons] <;> decide

section Gift
variable {g : Gift} {value : String} (hshown : g.Shown value) (husable : g.Usable)
include hshown husable

theorem bare_of_shown : Bare value := by
  cases g with
  | endpoint address => exact hshown ▸ husable
  | output path => exact hshown ▸ husable.1
  | timeout seconds => exact bare_of_writes hshown
  | verbose => cases hshown

theorem set_of_shown (values : Values) : values.set g.opt value = .ok (values.take g) := by
  cases g with
  | endpoint address =>
    rw [hshown]
    rfl
  | output path =>
    have hempty : value.isEmpty = false := by
      rw [← Bool.not_eq_true, String.isEmpty_iff, hshown]
      exact husable.2
    simp only [Gift.opt, Values.set, hempty, Bool.false_eq_true, if_false]
    rw [hshown]
    rfl
  | timeout seconds =>
    simp only [Gift.opt, Values.set, Seconds.ofString_eq_ok.2 ⟨hshown, husable⟩]
    rfl
  | verbose => cases hshown

end Gift

/-! ## Words -/

section Words
variable {c : Command} {p q : Progress} {g : Gift} {value word : String} {values : Values}
  {seen : List Opt}

theorem give_of_shown (hshown : g.Shown value) (husable : g.Usable) (hnew : g.opt ∉ seen) :
    Progress.give ⟨values, seen, none⟩ g.opt value =
      .ok ⟨values.take g, seen ++ [g.opt], none⟩ := by
  have hcontains : seen.contains g.opt = false := by simpa using hnew
  simp only [Progress.give, hcontains, set_of_shown hshown husable, Bool.false_eq_true, if_false]

/-- Words that bring reading from one state to another one. -/
def Brings (c : Command) (p : Progress) (words : List String) (q : Progress) : Prop :=
  ∀ rest, scan c p (words ++ rest) = scan c q rest

theorem Brings.trans {words words' : List String} {r : Progress} (h : Brings c p words q)
    (h' : Brings c q words' r) : Brings c p (words ++ words') r := by
  intro rest
  rw [List.append_assoc, h, h']

theorem brings_word (hdash : word.toList.head? = some '-') (hform : Form.ofString word ≠ .dashes)
    (hstep : p.step c word = .ok q) : Brings c p [word] q := by
  intro rest
  rw [List.singleton_append, scan_step (called_of_dash hdash) hform, hstep, ok_bind]

section Value
variable (hq : q.Settles values seen) (hnew : g.opt ∉ seen) (hshown : g.Shown value)
  (husable : g.Usable) (hdash : word.toList.head? = some '-')
  (hform : Form.ofString word ≠ .dashes)
include hq hnew hshown husable hdash hform

/-- The value stands in the word of its option. -/
theorem brings_joined (hstep : p.step c word = q.option c g.opt (some value)) :
    ∃ r, r.Settles (values.take g) (seen ++ [g.opt]) ∧ Brings c p [word] r := by
  rw [Progress.Settles] at hq
  have hoption : q.option c g.opt (some value) =
      .ok ⟨values.take g, seen ++ [g.opt], none⟩ := by
    simp only [Progress.option, hq, give_of_shown hshown husable hnew]
    rfl
  exact ⟨_, settles_rest _ _, brings_word hdash hform (hstep.trans hoption)⟩

/-- The value stands in the next word, and is pending then. -/
theorem brings_apart (hstep : p.step c word = q.option c g.opt none) :
    ∃ r, r.Settles (values.take g) (seen ++ [g.opt]) ∧ Brings c p [word, value] r := by
  rw [Progress.Settles] at hq
  simp only [Progress.option, hq] at hstep
  have hvalue : Form.ofString value = .plain := form_bare (bare_of_shown hshown husable)
  have hcalled : called? c ⟨values, seen, some (g.opt, none)⟩ value = none := by
    simp [called?, Progress.awaits]
  have hnext : Brings c ⟨values, seen, some (g.opt, none)⟩ [value]
      ⟨values, seen, some (g.opt, some value)⟩ := by
    intro rest
    rw [List.singleton_append, scan_step hcalled (by simp [hvalue]), Progress.step, hvalue]
    rfl
  exact ⟨⟨values, seen, some (g.opt, some value)⟩, give_of_shown hshown husable hnew,
    (brings_word hdash hform hstep).trans hnext⟩

end Value

theorem attached_of_bare (h : Bare value) (hne : value ≠ "") :
    Progress.attached value.toList = some value := by
  have hlist : String.ofList value.toList = value := String.ofList_toList
  unfold Progress.attached
  split
  next hnil => exact absurd (String.toList_eq_nil_iff.1 hnil) hne
  next heq => exact absurd (by rw [heq]; rfl) h.2
  next => rw [hlist]

/-- The output path stands behind its letter, which ends a word or has the path behind it. -/
theorem brings_tail {path tail : String} {more : List String} (htail : Tail path tail more)
    (hq : q.Settles values seen) (hnew : .output ∉ seen) (husable : (Gift.output path).Usable)
    (hdash : word.toList.head? = some '-') (hform : Form.ofString word ≠ .dashes)
    (hstep : p.step c word = q.option c .output (Progress.attached tail.toList)) :
    ∃ r, r.Settles (values.take (.output path)) (seen ++ [.output]) ∧
      Brings c p (word :: more) r := by
  cases htail with
  | apart => exact brings_apart (g := .output path) hq hnew rfl husable hdash hform hstep
  | joined =>
    rw [attached_of_bare husable.1 husable.2] at hstep
    exact brings_joined (g := .output path) hq hnew rfl husable hdash hform hstep
  | signed =>
    have hsigned : Progress.attached ("=" ++ path).toList = some path := by
      simp [Progress.attached, String.toList_append]
    rw [hsigned] at hstep
    exact brings_joined (g := .output path) hq hnew rfl husable hdash hform hstep

/-- The flag is noted. -/
theorem flag_verbose (hp : p.Settles values seen) (hnew : .verbose ∉ seen) :
    p.flag c .verbose = .ok ⟨values.take .verbose, seen ++ [.verbose], none⟩ := by
  have hcontains : seen.contains Opt.verbose = false := by simpa using hnew
  rw [Progress.Settles] at hp
  simp only [Progress.flag, hp, hcontains, Bool.false_eq_true, if_false]
  rfl

theorem letters_output (hc : .output ∈ c.options) (p : Progress) (tail : List Char) :
    p.letters c ('o' :: tail) = p.option c .output (Progress.attached tail) := by
  have hletter : c.short? 'o' = some .output := by
    cases c <;> first | rfl | exact absurd hc (by decide)
  rw [Progress.letters, hletter]
  rfl

theorem letters_verbose (hc : .verbose ∈ c.options) (p : Progress) (rest : List Char) :
    p.letters c ('v' :: rest) = p.flag c .verbose >>= fun q => q.letters c rest := by
  have hletter : c.short? 'v' = some .verbose := by
    cases c <;> first | rfl | exact absurd hc (by decide)
  exact Progress.letters_flag hletter rfl

/-- An option is read as the value that it gives, however it is spelt. -/
theorem brings_spells {words : List String} (hspells : Spells g words) (hc : g.opt ∈ c.options)
    (hp : p.Settles values seen) (hnew : g.opt ∉ seen) (husable : g.Usable) :
    ∃ q, q.Settles (values.take g) (seen ++ [g.opt]) ∧ Brings c p words q := by
  have htakes {value : String} (hshown : g.Shown value) : g.opt.takesValue = true := by
    cases g <;> first | rfl | exact hshown.elim
  cases hspells with
  | @apart _ value hshown =>
    have hform := form_long g.opt
    refine brings_apart hp hnew hshown husable (by simp [String.toList_append]) (by simp [hform]) ?_
    simp only [Progress.step, hform, Progress.long, long_of_mem hc, htakes hshown, if_true]
  | @joined _ value hshown =>
    have hform := form_joined g.opt value
    refine brings_joined hp hnew hshown husable (by simp [String.toList_append])
      (by simp [hform]) ?_
    simp only [Progress.step, hform, Progress.long, long_of_mem hc, htakes hshown, if_true]
  | @letter path tail more htail =>
    have hform : Form.ofString ("-o" ++ tail) = .letters ('o' :: tail.toList) :=
      form_letters (by decide) (by simp [String.toList_append])
    refine brings_tail htail hp hnew husable (by simp [String.toList_append]) (by simp [hform]) ?_
    rw [Progress.step, hform]
    exact letters_output hc p tail.toList
  | @verbose word hword =>
    have hflag := flag_verbose (c := c) hp hnew
    refine ⟨_, settles_rest _ _, ?_⟩
    simp only [verbosityFlags, List.mem_cons, List.not_mem_nil, or_false] at hword
    rcases hword with rfl | rfl
    · have hform : Form.ofString "-v" = .letters ['v'] := by decide +kernel
      refine brings_word (by decide) (by simp [hform]) ?_
      rw [Progress.step, hform]
      exact (letters_verbose hc p []).trans (by rw [hflag]; rfl)
    · have hform : Form.ofString "--verbose" = .long "verbose" none := by decide +kernel
      have hlong : c.long? "verbose" = some .verbose := long_of_mem hc
      refine brings_word (by decide) (by simp [hform]) ?_
      simp only [Progress.step, hform, Progress.long, hlong]
      exact hflag

/-- The flag and the output path share a word. -/
theorem brings_cluster {path tail : String} {more : List String} (htail : Tail path tail more)
    (hp : p.Settles values seen) (hverbose : .verbose ∉ seen)
    (houtput : .output ∉ seen ++ [.verbose]) (husable : (Gift.output path).Usable) :
    ∃ q, q.Settles ((values.take .verbose).take (.output path)) (seen ++ [.verbose] ++ [.output]) ∧
      Brings .program p (("-vo" ++ tail) :: more) q := by
  have hform : Form.ofString ("-vo" ++ tail) = .letters ('v' :: 'o' :: tail.toList) :=
    form_letters (by decide) (by simp [String.toList_append])
  refine brings_tail htail (settles_rest _ _) houtput husable (by simp [String.toList_append])
    (by simp [hform]) ?_
  rw [Progress.step, hform]
  refine (letters_verbose (by decide) p _).trans ?_
  rw [flag_verbose hp hverbose, ok_bind]
  exact letters_output (by decide) _ tail.toList

end Words

/-! ## Lists of arguments -/

theorem opt_mem_program (g : Gift) : g.opt ∈ Command.program.options := by
  cases g <;> simp [Gift.opt, Command.options]

theorem Spelt.append {gifts gifts' : List Gift} {words words' : List String}
    (h : Spelt gifts words) (h' : Spelt gifts' words') :
    Spelt (gifts ++ gifts') (words ++ words') := by
  induction h with
  | nil => exact h'
  | next hspells _ ih =>
    rw [List.append_assoc]
    exact .next hspells ih
  | cluster htail _ ih =>
    rw [List.append_assoc]
    exact .cluster htail ih

/-- Options in any order and spelling are read as the values that they give. -/
theorem brings_spelt {gifts : List Gift} {words : List String} (hspelt : Spelt gifts words)
    {p : Progress} {values : Values} {seen : List Opt} (hp : p.Settles values seen)
    (hnew : (seen ++ gifts.map Gift.opt).Nodup) (husable : ∀ g ∈ gifts, g.Usable) :
    ∃ q, q.Settles (gifts.foldl Values.take values) (seen ++ gifts.map Gift.opt) ∧
      Brings .program p words q := by
  have hfirst {o : Opt} {seen rest : List Opt} (h : (seen ++ o :: rest).Nodup) : o ∉ seen :=
    fun ho => List.disjoint_of_nodup_append h ho List.mem_cons_self
  induction hspelt generalizing p values seen with
  | nil => exact ⟨p, by simpa using hp, fun rest => rfl⟩
  | @next g words gifts rest hspells _ ih =>
    obtain ⟨hg, hgifts⟩ := List.forall_mem_cons.1 husable
    rw [List.map_cons] at hnew ⊢
    obtain ⟨q, hq, hbrings⟩ := brings_spells hspells (opt_mem_program g) hp (hfirst hnew) hg
    rw [List.append_cons] at hnew ⊢
    obtain ⟨r, hr, hbrings'⟩ := ih hq hnew hgifts
    exact ⟨r, hr, hbrings.trans hbrings'⟩
  | @cluster path tail more gifts rest htail _ ih =>
    obtain ⟨hpath, hgifts⟩ := List.forall_mem_cons.1 (List.forall_mem_cons.1 husable).2
    rw [List.map_cons, List.map_cons] at hnew ⊢
    have hverbose := hfirst hnew
    rw [List.append_cons] at hnew ⊢
    obtain ⟨q, hq, hbrings⟩ := brings_cluster htail hp hverbose (hfirst hnew) hpath
    rw [List.append_cons] at hnew ⊢
    obtain ⟨r, hr, hbrings'⟩ := ih hq hnew hgifts
    exact ⟨r, hr, hbrings.trans hbrings'⟩

/-- Values that their options can have. -/
structure Values.Usable (values : Values) : Prop where
  endpoint : ∀ address, values.endpoint = some address → Bare address
  output : ∀ path, values.output = some path → Bare path ∧ path ≠ ""
  seconds : ∀ n, values.seconds = some n → 1 ≤ n ∧ n ≤ maxSeconds

theorem Values.Usable.of_mem {values : Values} (h : values.Usable) {g : Gift}
    (hg : g ∈ values.gifts) : g.Usable := by
  simp only [Values.gifts, List.mem_append, List.mem_map, Option.mem_toList] at hg
  rcases hg with ((⟨address, haddress, rfl⟩ | ⟨path, hpath, rfl⟩) | ⟨n, hn, rfl⟩) | hverbose
  · exact h.endpoint address haddress
  · exact h.output path hpath
  · exact h.seconds n hn
  · split at hverbose
    · rw [List.mem_singleton.1 hverbose]
      trivial
    · cases hverbose

/-- A text is no number of seconds, or it writes one that is. -/
theorem seconds_cases (text : String) :
    (∃ n, Seconds.Writes text n ∧ 1 ≤ n ∧ n ≤ maxSeconds) ∨
      ∃ fault, Seconds.ofString text = .error fault := by
  cases h : Seconds.ofString text with
  | ok n => exact .inl ⟨n, Seconds.ofString_eq_ok.1 h⟩
  | error fault => exact .inr ⟨fault, rfl⟩

section Choice
variable {values : Values} (hvalues : values.Usable) {gifts : List Gift} {words : List String}
  (hperm : gifts.Perm values.gifts) (hspelt : Spelt gifts words)
include hvalues hperm hspelt

/-- Whatever the order and the spelling, the same values are read. -/
theorem scan_spelt : ∃ q, q.Settles values (gifts.map Gift.opt) ∧
    ∀ rest, scan .program .start (words ++ rest) = scan .program q rest := by
  have hnodup : (gifts.map Gift.opt).Nodup := (hperm.map _).nodup_iff.2 values.nodup_gifts
  obtain ⟨q, hq, hbrings⟩ := brings_spelt hspelt (settles_rest .none []) (by simpa using hnodup)
    fun g hg => hvalues.of_mem (hperm.mem_iff.1 hg)
  rw [Values.foldl_perm hperm, List.nil_append] at hq
  exact ⟨q, hq, hbrings⟩

theorem parse_spelt : parse words = .ok (values.invocation .refresh) := by
  obtain ⟨q, hq, hscan⟩ := scan_spelt hvalues hperm hspelt
  rw [Progress.Settles] at hq
  have hend := hscan []
  rw [List.append_nil] at hend
  rw [parse, hend]
  simp only [scan, finish, hq]

/-- The call of `verify` ends the options of the program; its own output path goes first. -/
theorem parse_verify {after : List String} {inner : Values}
    (hafter : verifyValues after = .ok inner) : parse (words ++ "verify" :: after) =
      .ok ({ values with output := inner.output <|> values.output }.invocation .verify) := by
  obtain ⟨q, hq, hscan⟩ := scan_spelt hvalues hperm hspelt
  have hcalled : called? .program q "verify" = some .verify := by
    simp [called?, awaits_of_settles hq, subcommand?, subcommands]
  have hrest : scan .program q ("verify" :: after) = .ok (q, some after) := by
    rw [scan.eq_def]
    simp only [hcalled]
  rw [Progress.Settles] at hq
  rw [parse, hscan, hrest]
  simp only [hafter, finish, hq]

/-- A text that is no number of seconds is refused, whatever follows. -/
theorem parse_seconds {text : String} {fault : SecondsFault}
    (hfault : Seconds.ofString text = .error fault) (rest : List String) :
    ∃ refusal, parse (words ++ ("--timeout=" ++ text) :: rest) =
      .error (.refused .program refusal) := by
  obtain ⟨q, hq, hscan⟩ := scan_spelt hvalues hperm hspelt
  have hform : Form.ofString ("--timeout=" ++ text) = .long "timeout" (some text) :=
    form_joined .timeout text
  have hlong : Command.program.long? "timeout" = some .timeout := by decide +kernel
  have hgive : ∃ refusal, Progress.give ⟨values, gifts.map Gift.opt, none⟩ .timeout text =
      .error refusal := by
    rw [Progress.give]
    split
    · exact ⟨_, rfl⟩
    · exact ⟨.secondsInvalid text fault, by simp only [Values.set, hfault]⟩
  obtain ⟨refusal, hgive⟩ := hgive
  have hstep : q.step .program ("--timeout=" ++ text) = .error (.refused .program refusal) := by
    rw [Progress.Settles] at hq
    simp only [Progress.step, hform, Progress.long, hlong, Opt.takesValue, if_true,
      Progress.option, hq, hgive]
    rfl
  refine ⟨refusal, ?_⟩
  rw [parse, hscan, scan_step (called_of_dash (by simp [String.toList_append])) (by simp [hform]),
    hstep]
  rfl

/-- A number of seconds behind options that give none is read as this number. -/
theorem parse_written (hnone : values.seconds = none) {text : String} {n : Nat}
    (hwrites : Seconds.Writes text n) (hn : 1 ≤ n ∧ n ≤ maxSeconds) :
    parse (words ++ ["--timeout=" ++ text]) =
      .ok ({ values with seconds := some n }.invocation .refresh) := by
  have husable : { values with seconds := some n }.Usable := by
    refine ⟨hvalues.endpoint, hvalues.output, ?_⟩
    rintro _ ⟨⟩
    exact hn
  have hspells : Spells (.timeout n) ["--timeout=" ++ text] := Spells.joined hwrites
  exact parse_spelt husable ((hperm.append_right _).trans (Values.perm_gifts_seconds hnone n))
    (hspelt.append (.next hspells .nil))

theorem parse_timeout (hnone : values.seconds = none) (text : String) (i : Invocation) :
    parse (words ++ ["--timeout=" ++ text]) = .ok i ↔
      ∃ n, Seconds.Writes text n ∧ 1 ≤ n ∧ n ≤ maxSeconds ∧
        i = { values with seconds := some n }.invocation .refresh := by
  constructor
  · intro hi
    rcases seconds_cases text with ⟨n, hwrites, hn⟩ | ⟨fault, hfault⟩
    · have hread := parse_written hvalues hperm hspelt hnone hwrites hn
      exact ⟨n, hwrites, hn.1, hn.2, Except.ok.inj (hi.symm.trans hread)⟩
    · obtain ⟨refusal, hrefused⟩ := parse_seconds hvalues hperm hspelt hfault []
      cases hi.symm.trans hrefused
  · rintro ⟨n, hwrites, hlow, hhigh, rfl⟩
    exact parse_written hvalues hperm hspelt hnone hwrites ⟨hlow, hhigh⟩

end Choice

theorem verifyValues_spells {path : String} {words : List String}
    (hspells : Spells (.output path) words) (husable : (Gift.output path).Usable) :
    verifyValues words = .ok (Values.none.take (.output path)) := by
  obtain ⟨q, hq, hbrings⟩ := brings_spells hspells (c := .verify) (List.mem_cons_self)
    (settles_rest .none []) List.not_mem_nil husable
  have hend : scan .verify .start (words ++ []) = scan .verify q [] := hbrings []
  rw [List.append_nil] at hend
  rw [Progress.Settles] at hq
  rw [verifyValues, hend]
  simp only [scan, finish, hq]

/-- The work that a choice of values asks for, with the default of each option that is not given. -/
def Values.settings (values : Values) : Settings :=
  { endpoint := values.endpoint.getD Settings.defaultEndpoint
    output := Path.ofString (values.output.getD Settings.defaultOutput)
    timeoutMs := values.seconds.getD Settings.defaultTimeoutSeconds * 1000 }

/-- Options are read as their values, whatever their order and spelling, and those that are not
given as their defaults. A run does what is read: with a server that never answers it waits for just
these seconds, and `verify` checks the same path whether that stands before or behind it. A number
of seconds is accepted, as what it writes, exactly if digits write it, behind a plus sign or not,
and it lies between 1 and the greatest number of 64 bits; else the run is refused without any
effect. -/
theorem run_spelt (env : Environment) (network : Network) (tree : FileTree) {values : Values}
    (hvalues : values.Usable) {gifts : List Gift} {words : List String}
    (hperm : gifts.Perm values.gifts) (hspelt : Spelt gifts words) :
    (let i : Invocation := ⟨.refresh, values.settings, values.verbose⟩
     let r := run env network tree words
     parse words = .ok i ∧ r = refreshRun env network tree i ∧
      r.waitedMs =
        if (network.get values.settings.endpoint).hangs then values.settings.timeoutMs else 0) ∧
    (let i : Invocation := ⟨.verify, values.settings, values.verbose⟩
     parse (words ++ ["verify"]) = .ok i ∧
      run env network tree (words ++ ["verify"]) = verifyRun env tree i) ∧
    (∀ path after, Bare path → path ≠ "" → Spells (.output path) after →
      let i : Invocation :=
        ⟨.verify, { values.settings with output := Path.ofString path }, values.verbose⟩
      parse (words ++ "verify" :: after) = .ok i ∧
        run env network tree (words ++ "verify" :: after) = verifyRun env tree i) ∧
    ∀ text,
      (values.seconds = none → ∀ i, parse (words ++ ["--timeout=" ++ text]) = .ok i ↔
        ∃ n, Seconds.Writes text n ∧ 1 ≤ n ∧ n ≤ 2 ^ 64 - 1 ∧
          i = ⟨.refresh, { values.settings with timeoutMs := n * 1000 }, values.verbose⟩) ∧
      ((¬ ∃ n, Seconds.Writes text n ∧ 1 ≤ n ∧ n ≤ 2 ^ 64 - 1) → ∀ rest,
        let r := run env network tree (words ++ ("--timeout=" ++ text) :: rest)
        r.exit.code = 2 ∧ r.effect = (.usage, "", [], 0, tree)) := by
  have hmax : 2 ^ 64 - 1 = maxSeconds := by decide
  rw [hmax]
  refine ⟨?_, ?_, fun path after hbare hne hafter => ?_,
    fun text => ⟨fun hnone => parse_timeout hvalues hperm hspelt hnone text, fun hnone rest => ?_⟩⟩
  · intro i r
    have hparse : parse words = .ok i := parse_spelt hvalues hperm hspelt
    have hrun : r = refreshRun env network tree i := run_refresh hparse rfl
    refine ⟨hparse, hrun, ?_⟩
    rw [hrun]
    exact waitedMs_refreshRun env network tree i
  · intro i
    have hplain : verifyValues [] = .ok .none := rfl
    have hparse : parse (words ++ ["verify"]) = .ok i := parse_verify hvalues hperm hspelt hplain
    exact ⟨hparse, run_verify hparse rfl⟩
  · intro i
    have hinner := verifyValues_spells hafter ⟨hbare, hne⟩
    have hparse : parse (words ++ "verify" :: after) = .ok i :=
      parse_verify hvalues hperm hspelt hinner
    exact ⟨hparse, run_verify hparse rfl⟩
  · obtain ⟨fault, hfault⟩ := (seconds_cases text).resolve_left hnone
    obtain ⟨refusal, hrefused⟩ := parse_seconds hvalues hperm hspelt hfault rest
    intro r
    have hr : r = (Ending.refused .program refusal).run env tree := run_refused hrefused
    rw [hr]
    exact ⟨rfl, effect_refused env tree _ _⟩

/-- A server that never answers, a flag that shares its word, a value that is also the name of a
subcommand, a path given twice, and the first number of seconds that is too large. -/
theorem run_spelt_clustered :
    let env : Environment := ⟨none, none, none⟩
    let hanging : Network := .serving "[::1]:80" [.hang]
    let values : Values := ⟨some "http://[::1]/", some "verify", some 90, true⟩
    let settings : Settings := ⟨"http://[::1]/", Path.ofString "verify", 90000⟩
    let words := ["--timeout=+0090", "-vo", "verify", "--endpoint", "http://[::1]/"]
    values.Usable ∧ parse words = .ok ⟨.refresh, settings, true⟩ ∧
      (run env hanging FileTree.fresh words).waitedMs = 90000 ∧
      parse (words ++ ["verify", "-o=c.json"]) =
        .ok ⟨.verify, { settings with output := Path.ofString "c.json" }, true⟩ ∧
      (run env hanging FileTree.fresh
        (words ++ ["--timeout=18446744073709551616"])).exit.code = 2 := by
  intro env hanging values settings words
  have hvalues : values.Usable := by
    constructor
    · rintro _ ⟨⟩
      decide
    · rintro _ ⟨⟩
      decide
    · rintro _ ⟨⟩
      decide
  let gifts : List Gift := [.timeout 90, .verbose, .output "verify", .endpoint "http://[::1]/"]
  have hperm : gifts.Perm values.gifts := by
    refine .trans (List.reverse_perm gifts).symm (.cons _ ?_)
    exact .cons _ (.swap _ _ _)
  have hwrites : Seconds.Writes "+0090" 90 :=
    ⟨['0', '0', '9', '0'], .inr (by decide), by decide, by simp, by decide⟩
  have hendpoint : Spells (.endpoint "http://[::1]/") ["--endpoint", "http://[::1]/"] := .apart rfl
  have htimeout : Spells (.timeout 90) ["--timeout=" ++ "+0090"] := .joined hwrites
  have hspelt : Spelt gifts words :=
    .next htimeout (.cluster .apart (.next hendpoint .nil))
  have hms : 90 * 1000 = 90000 := by decide
  have hsettings : values.settings = settings := congrArg (Settings.mk _ _) hms
  obtain ⟨⟨hparse, -, hwaited⟩, -, hverify, htext⟩ :=
    run_spelt env hanging FileTree.fresh hvalues hperm hspelt
  rw [hsettings] at hparse hwaited hverify
  have hhangs : (hanging.get "http://[::1]/").hangs = true := by decide +kernel
  refine ⟨hvalues, hparse, hwaited.trans (if_pos hhangs),
    (hverify "c.json" _ (by decide) (by decide) (.letter .signed)).1, ?_⟩
  have hlarge : Seconds.ofString "18446744073709551616" = .error .tooLarge := by decide +kernel
  refine ((htext "18446744073709551616").2 ?_ []).1
  rintro ⟨n, hn⟩
  cases hlarge.symm.trans (Seconds.ofString_eq_ok.2 hn)

end RateCard.CommandLine
