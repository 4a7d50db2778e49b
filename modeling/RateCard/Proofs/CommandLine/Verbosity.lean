import RateCard.CommandLine.Arguments
import RateCard.Proofs.Bind

/-!
# The verbosity flag among the arguments

A list of arguments with the verbosity flag in front is read like the list itself, step by step,
with the flag noted from the start. The two readings part only where the list gives the flag again,
which is then refused.
-/
namespace RateCard.CommandLine

def Values.loud (values : Values) : Values := { values with verbose := true }

namespace Progress

/-- How far the list is read if the flag stands in front of it. -/
def loud (p : Progress) : Progress := ⟨p.values.loud, .verbose :: p.seen, p.pending⟩

/-- The flag has not been given, and what is pending takes a value. -/
structure Quiet (p : Progress) : Prop where
  verbose : p.values.verbose = false
  seen : .verbose ∉ p.seen
  pending : ∀ o value, p.pending = some (o, value) → o.takesValue = true

theorem quiet_start : Quiet start := ⟨rfl, List.not_mem_nil, fun _ _ h => by cases h⟩

end Progress

def Ending.IsRefusal (e : Ending) : Prop := ∃ c refusal, e = .refused c refusal

/-- What reading comes to without and with the flag in front. Both results are there and correspond,
or both readings end in the same way, or the reading with the flag is refused; then the result of
the other one, if there is any, has noted the flag. -/
inductive Beside {α : Type} (Same : α → α → Prop) (Noted : α → Prop) :
    Except Ending α → Except Ending α → Prop where
  | going {x y : α} : Same x y → Beside Same Noted (.ok x) (.ok y)
  | ended (e : Ending) : Beside Same Noted (.error e) (.error e)
  | refused {result : Except Ending α} {e : Ending} : e.IsRefusal →
      (∀ x, result = .ok x → Noted x) → Beside Same Noted result (.error e)

namespace Beside
variable {α β : Type} {Same : α → α → Prop} {Noted : α → Prop} {Same' : β → β → Prop}
  {Noted' : β → Prop} {a b : Except Ending α}

/-- Reading goes on beside each other, as long as what has been noted stays so. -/
theorem bind {f g : α → Except Ending β} (h : Beside Same Noted a b)
    (hnext : ∀ x y, Same x y → Beside Same' Noted' (f x) (g y))
    (hkeep : ∀ x z, Noted x → f x = .ok z → Noted' z) :
    Beside Same' Noted' (a >>= f) (b >>= g) := by
  cases h with
  | going hsame => exact hnext _ _ hsame
  | ended e => exact .ended e
  | refused hrefusal hnoted =>
    refine .refused hrefusal fun z hz => ?_
    obtain ⟨x, hx, hfx⟩ := bind_eq_ok.1 hz
    exact hkeep x z (hnoted x hx) hfx

/-- If both read to the same, they do so beside each other. -/
theorem of_map {f : α → α} (hb : b = a.map f) (hsame : ∀ x, a = .ok x → Same x (f x)) :
    Beside Same Noted a b := by
  subst hb
  cases a with
  | ok x => exact .going (hsame x rfl)
  | error e => exact .ended e

end Beside

namespace Progress
variable {c : Command} {p p' : Progress} {o : Opt}

/-! ## Values -/

theorem set_loud (values : Values) (o : Opt) (value : String) :
    values.loud.set o value = (values.set o value).map Values.loud := by
  cases o with
  | output => simp only [Values.set]; split <;> rfl
  | timeout => simp only [Values.set]; split <;> rfl
  | _ => rfl

theorem verbose_of_set {values values' : Values} {value : String}
    (h : values.set o value = .ok values') : values'.verbose = values.verbose := by
  cases o with
  | output => simp only [Values.set] at h; split at h <;> cases h; rfl
  | timeout => simp only [Values.set] at h; split at h <;> cases h; rfl
  | _ => cases h; rfl

theorem give_loud (ho : o.takesValue = true) (value : String) :
    p.loud.give o value = (p.give o value).map loud := by
  have hne : o ≠ .verbose := by
    rintro rfl
    cases ho
  have hcontains : p.loud.seen.contains o = p.seen.contains o := by
    simp [loud, hne]
  rw [give, give, hcontains]
  split
  · rfl
  · rw [loud, set_loud]
    cases p.values.set o value <;> rfl

theorem give_ok {value : String} (h : p.give o value = .ok p') :
    p'.values.verbose = p.values.verbose ∧ p'.seen = p.seen ++ [o] ∧ p'.pending = p.pending := by
  rw [give] at h
  split at h
  · cases h
  · split at h
    · cases h
    · next hset =>
      cases h
      exact ⟨verbose_of_set hset, rfl, rfl⟩

theorem Quiet.give (hp : p.Quiet) (ho : o.takesValue = true) {value : String}
    (h : p.give o value = .ok p') : p'.Quiet := by
  obtain ⟨hverbose, hseen, hpending⟩ := give_ok h
  refine ⟨hverbose.trans hp.verbose, ?_, hpending ▸ hp.pending⟩
  rw [hseen, List.mem_append, List.mem_singleton, not_or]
  exact ⟨hp.seen, fun he => by rw [← he] at ho; cases ho⟩

/-! ## Settling -/

theorem Quiet.unpend (hp : p.Quiet) : Quiet { p with pending := none } :=
  ⟨hp.verbose, hp.seen, fun _ _ h => by cases h⟩

theorem settle_loud (hp : p.Quiet) : p.loud.settle = p.settle.map loud := by
  have hpending : p.loud.pending = p.pending := rfl
  rw [settle, settle, hpending]
  split
  · rfl
  · rfl
  · next o value h =>
    exact give_loud (p := { p with pending := none }) (hp.pending _ _ h) value

theorem Quiet.settle (hp : p.Quiet) (h : p.settle = .ok p') : p'.Quiet := by
  rw [Progress.settle] at h
  split at h
  · cases h
    exact hp
  · cases h
  · next o value hpending => exact hp.unpend.give (hp.pending _ _ hpending) h

theorem verbose_of_settle (h : p.settle = .ok p') : p'.values.verbose = p.values.verbose := by
  rw [settle] at h
  split at h
  · cases h
    rfl
  · cases h
  · exact (give_ok h).1

/-- Both readings settle, or both are refused for the same reason. -/
theorem settle_cases (hp : p.Quiet) :
    (∃ refusal, p.settle = .error refusal ∧ p.loud.settle = .error refusal) ∨
      ∃ q, q.Quiet ∧ p.settle = .ok q ∧ p.loud.settle = .ok q.loud := by
  rw [settle_loud hp]
  cases h : p.settle with
  | error refusal => exact .inl ⟨refusal, rfl, rfl⟩
  | ok q => exact .inr ⟨q, hp.settle h, rfl, rfl⟩

/-! ## Options -/

/-- The flag is noted in one reading and not in the other. -/
def Same (p q : Progress) : Prop := p.Quiet ∧ q = p.loud

def Noted (p : Progress) : Prop := p.values.verbose = true

theorem noted_of_flag (ho : o.takesValue = false) (h : p.flag c o = .ok p') : Noted p' := by
  rw [flag] at h
  split at h
  · cases h
  · cases o with
    | help => cases h
    | version => cases h
    | verbose =>
      simp only at h
      split at h
      · cases h
      · cases h
        rfl
    | _ => cases ho

/-- The flag itself is refused where it stands for the second time. -/
theorem beside_flag (hp : p.Quiet) (ho : o.takesValue = false) :
    Beside Same Noted (p.flag c o) (p.loud.flag c o) := by
  rcases settle_cases hp with ⟨refusal, h, hl⟩ | ⟨q, -, h, hl⟩
  · simp only [flag, h, hl]
    exact .ended _
  · cases o with
    | help =>
      simp only [flag, h, hl]
      exact .ended _
    | version =>
      simp only [flag, h, hl]
      exact .ended _
    | verbose =>
      have hagain : p.loud.flag c .verbose = .error (.refused c (.repeated .verbose)) := by
        simp only [flag, hl]
        rfl
      rw [hagain]
      exact .refused ⟨c, _, rfl⟩ fun r hr => noted_of_flag ho hr
    | _ => cases ho

theorem noted_of_option {value : Option String} (h : p.option c o value = .ok p')
    (hp : Noted p) : Noted p' := by
  rw [option] at h
  split at h
  · cases h
  · next q hq =>
    have hnoted : Noted q := (verbose_of_settle hq).trans hp
    split at h
    · cases h
      exact hnoted
    · exact ((give_ok (mapError_eq_ok.1 h)).1).trans hnoted

theorem beside_option (hp : p.Quiet) (ho : o.takesValue = true) (value : Option String) :
    Beside Same Noted (p.option c o value) (p.loud.option c o value) := by
  rcases settle_cases hp with ⟨refusal, h, hl⟩ | ⟨q, hq, h, hl⟩
  · simp only [option, h, hl]
    exact .ended _
  · simp only [option, h, hl]
    cases value with
    | none => exact .going ⟨⟨hq.verbose, hq.seen, fun _ _ h => by cases h; exact ho⟩, rfl⟩
    | some value =>
      have hgive : (q.loud.give o value).mapError (Ending.refused c) =
          ((q.give o value).mapError (Ending.refused c)).map loud := by
        rw [give_loud ho]
        cases q.give o value <;> rfl
      exact .of_map hgive fun r hr => ⟨hq.give ho (mapError_eq_ok.1 hr), rfl⟩

/-! ## Words -/

theorem noted_of_long {name : String} {value : Option String} (h : p.long c name value = .ok p')
    (hp : Noted p) : Noted p' := by
  rw [long] at h
  split at h
  · cases h
  · next o _ =>
    split at h
    · exact noted_of_option h hp
    · next ho =>
      split at h
      · cases h
      · exact noted_of_flag (Bool.eq_false_iff.2 ho) h

theorem beside_long (hp : p.Quiet) (name : String) (value : Option String) :
    Beside Same Noted (p.long c name value) (p.loud.long c name value) := by
  rw [long, long]
  split
  · exact .refused ⟨c, _, rfl⟩ fun _ h => by cases h
  · next o _ =>
    split
    · next ho => exact beside_option hp ho value
    · next ho =>
      split
      · exact .refused ⟨c, _, rfl⟩ fun _ h => by cases h
      · exact beside_flag hp (Bool.eq_false_iff.2 ho)

theorem letters_flag {letter : Char} {rest : List Char} (hletter : c.short? letter = some o)
    (ho : o.takesValue = false) :
    p.letters c (letter :: rest) = p.flag c o >>= fun q => q.letters c rest := by
  rw [letters, hletter]
  simp only [ho]
  cases p.flag c o <;> rfl

theorem noted_of_letters {cluster : List Char} (h : p.letters c cluster = .ok p') (hp : Noted p) :
    Noted p' := by
  induction cluster generalizing p with
  | nil =>
    cases h
    exact hp
  | cons letter rest ih =>
    cases hletter : c.short? letter with
    | none =>
      rw [letters, hletter] at h
      cases h
    | some o =>
      cases ho : o.takesValue with
      | true =>
        rw [letters, hletter] at h
        simp only [ho] at h
        exact noted_of_option h hp
      | false =>
        rw [letters_flag hletter ho, bind_eq_ok] at h
        obtain ⟨q, hflag, h⟩ := h
        exact ih h (noted_of_flag ho hflag)

theorem beside_letters (hp : p.Quiet) (cluster : List Char) :
    Beside Same Noted (p.letters c cluster) (p.loud.letters c cluster) := by
  induction cluster generalizing p with
  | nil => exact .going ⟨hp, rfl⟩
  | cons letter rest ih =>
    cases hletter : c.short? letter with
    | none =>
      rw [letters, letters, hletter]
      exact .ended _
    | some o =>
      cases ho : o.takesValue with
      | true =>
        rw [letters, letters, hletter]
        simp only [ho]
        exact beside_option hp ho _
      | false =>
        rw [letters_flag hletter ho, letters_flag hletter ho]
        refine (beside_flag hp ho).bind ?_ fun q r hq hr => noted_of_letters hr hq
        rintro q - ⟨hq, rfl⟩
        exact ih hq

theorem noted_of_step {word : String} (h : p.step c word = .ok p') (hp : Noted p) : Noted p' := by
  rw [step] at h
  split at h
  · exact noted_of_long h hp
  · exact noted_of_letters h hp
  · split at h
    · cases h
      exact hp
    · cases h

theorem beside_step (hp : p.Quiet) (word : String) :
    Beside Same Noted (p.step c word) (p.loud.step c word) := by
  have hpending : p.loud.pending = p.pending := rfl
  rw [step, step, hpending]
  split
  · exact beside_long hp _ _
  · exact beside_letters hp _
  · split
    · next o hnone =>
      refine .going ⟨⟨hp.verbose, hp.seen, fun o' value h => ?_⟩, rfl⟩
      cases h
      exact hp.pending _ _ hnone
    · exact .ended _

end Progress

/-! ## Lists -/

namespace Scanned

def Same (x y : Scanned) : Prop := Progress.Same x.1 y.1 ∧ y.2 = x.2

def Noted (x : Scanned) : Prop := Progress.Noted x.1

end Scanned

open Progress

theorem scan_step {c : Command} {p : Progress} {word : String} {rest : List String}
    (hcalled : called? c p word = none) (hform : Form.ofString word ≠ .dashes) :
    scan c p (word :: rest) = p.step c word >>= fun q => scan c q rest := by
  rw [scan.eq_def]
  simp only [hcalled, hform, if_false]
  cases p.step c word <;> rfl

theorem noted_of_scan {c : Command} {p : Progress} {words : List String} {x : Scanned}
    (h : scan c p words = .ok x) (hp : Noted p) : Scanned.Noted x := by
  induction words generalizing p with
  | nil =>
    cases h
    exact hp
  | cons word rest ih =>
    rw [scan.eq_def] at h
    simp only at h
    split at h
    · cases h
    · cases h
      exact hp
    · split at h
      · split at h
        · cases h
          exact hp
        · cases h
      · split at h
        · cases h
        · next q hstep => exact ih h (noted_of_step hstep hp)

theorem beside_scan {c : Command} {p : Progress} (hp : p.Quiet) (words : List String) :
    Beside Scanned.Same Scanned.Noted (scan c p words) (scan c p.loud words) := by
  induction words generalizing p with
  | nil => exact .going ⟨⟨hp, rfl⟩, rfl⟩
  | cons word rest ih =>
    have hcall : called? c p.loud word = called? c p word := rfl
    cases hcalled : called? c p word with
    | some called =>
      rw [scan.eq_def, scan.eq_def c p.loud]
      simp only [hcall, hcalled]
      cases called with
      | help => exact .ended _
      | _ => exact .going ⟨⟨hp, rfl⟩, rfl⟩
    | none =>
      by_cases hform : Form.ofString word = .dashes
      · rw [scan.eq_def, scan.eq_def c p.loud]
        simp only [hcall, hcalled, hform, if_true]
        cases rest with
        | nil => exact .going ⟨⟨hp, rfl⟩, rfl⟩
        | cons => exact .ended _
      · rw [scan_step hcalled hform, scan_step (hcall.trans hcalled) hform]
        refine (beside_step hp word).bind ?_ fun q x hq hx => noted_of_scan hx hq
        rintro q - ⟨hq, rfl⟩
        exact ih hq

/-- What the words of the program come to, with those behind the call of `verify`. -/
def conclude (x : Scanned) : Except Ending Invocation :=
  match x.2 with
  | none => finish .program x.1 >>= fun values => .ok (values.invocation .refresh)
  | some words =>
    verifyValues words >>= fun inner =>
      finish .program x.1 >>= fun outer =>
        .ok ({ outer with output := inner.output <|> outer.output }.invocation .verify)

theorem parse_eq (arguments : List String) :
    parse arguments = scan .program .start arguments >>= conclude := by
  rw [parse]
  rcases scan .program .start arguments with ending | ⟨p, _ | words⟩
  · rfl
  · simp only [ok_bind, conclude]
    cases finish .program p <;> rfl
  · simp only [ok_bind, conclude]
    cases verifyValues words <;> cases finish .program p <;> rfl

namespace Invocation

def Same (i j : Invocation) : Prop := i.verbose = false ∧ j = { i with verbose := true }

def Noted (i : Invocation) : Prop := i.verbose = true

end Invocation

theorem beside_finish {c : Command} {p : Progress} (hp : p.Quiet) :
    Beside (fun v w => v.verbose = false ∧ w = v.loud) (fun v => v.verbose = true)
      (finish c p) (finish c p.loud) := by
  rw [finish, finish]
  rcases settle_cases hp with ⟨refusal, h, hl⟩ | ⟨q, hq, h, hl⟩
  · simp only [h, hl]
    exact .ended _
  · simp only [h, hl]
    exact .going ⟨hq.verbose, rfl⟩

theorem verbose_of_finish {c : Command} {p : Progress} {values : Values}
    (h : finish c p = .ok values) : values.verbose = p.values.verbose := by
  rw [finish] at h
  split at h
  · cases h
  · next hsettle =>
    cases h
    exact verbose_of_settle hsettle

theorem beside_conclude {x y : Scanned} (h : Scanned.Same x y) :
    Beside Invocation.Same Invocation.Noted (conclude x) (conclude y) := by
  obtain ⟨⟨hp, hloud⟩, hwords⟩ := h
  rw [conclude, conclude, hwords, hloud]
  split
  · refine (beside_finish hp).bind ?_ ?_
    · rintro v - ⟨hv, rfl⟩
      exact .going ⟨hv, rfl⟩
    · rintro v i hv hi
      cases hi
      exact hv
  · next words _ =>
    cases verifyValues words with
    | error ending => exact .ended _
    | ok inner =>
      refine (beside_finish hp).bind ?_ ?_
      · rintro v - ⟨hv, rfl⟩
        exact .going ⟨hv, rfl⟩
      · rintro v i hv hi
        cases hi
        exact hv

theorem noted_of_conclude {x : Scanned} {i : Invocation} (h : conclude x = .ok i)
    (hx : Scanned.Noted x) : Invocation.Noted i := by
  rw [conclude] at h
  split at h
  · obtain ⟨v, hv, h⟩ := bind_eq_ok.1 h
    cases h
    exact (verbose_of_finish hv).trans hx
  · obtain ⟨inner, -, h⟩ := bind_eq_ok.1 h
    obtain ⟨v, hv, h⟩ := bind_eq_ok.1 h
    cases h
    exact (verbose_of_finish hv).trans hx

/-- The spellings of the flag. -/
def verbosityFlags : List String := ["-v", "--verbose"]

theorem scan_flag {word : String} (hword : word ∈ verbosityFlags) (arguments : List String) :
    scan .program .start (word :: arguments) = scan .program start.loud arguments := by
  have hread : called? .program .start word = none ∧ Form.ofString word ≠ .dashes := by
    revert word
    decide +kernel
  have hstep : start.step .program word = .ok start.loud := by
    simp only [verbosityFlags, List.mem_cons, List.not_mem_nil, or_false] at hword
    rcases hword with rfl | rfl <;> rfl
  rw [scan_step hread.1 hread.2, hstep, ok_bind]

/-- With the flag in front a list of arguments asks for the same work with the flag noted, or ends in
the same way, or is refused. One that is accepted and is refused then has the flag already. -/
theorem beside_parse {word : String} (hword : word ∈ verbosityFlags) (arguments : List String) :
    Beside Invocation.Same Invocation.Noted (parse arguments) (parse (word :: arguments)) := by
  rw [parse_eq, parse_eq, scan_flag hword]
  exact (beside_scan quiet_start arguments).bind (fun _ _ => beside_conclude)
    fun _ _ hx h => noted_of_conclude h hx

end RateCard.CommandLine
