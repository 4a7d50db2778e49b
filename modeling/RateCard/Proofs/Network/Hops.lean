import Mathlib.Data.List.Chain
import Mathlib.Tactic
import RateCard.Network.Exchange

/-!
# The hops of an exchange

An exchange asks for one address after another, each at the next reply of the script, and goes on
only where the reply is a redirect to a usable address. If all these addresses are on the server,
the last reply decides what the exchange comes to.
-/
namespace RateCard.Exchange

/-- An address that is asked for, and the reply that its connection meets. -/
structure Hop where
  url : Url
  reply : Reply
  deriving DecidableEq, Repr

namespace Hop

/-- Where the reply redirects to. -/
def next? (hop : Hop) : Option Url :=
  match hop.reply with
  | .answer status _ location _ => nextAddress? hop.url status location
  | .close | .hang => none

/-- What an exchange comes to that ends with this reply. -/
def outcome (hop : Hop) : Except Trouble Response :=
  match hop.reply with
  | .close => .error (.closed hop.url)
  | .hang => .error (.timedOut hop.url)
  | .answer status body _ missing =>
    if hop.next?.isSome then .error (.tooManyRedirects hop.url)
    else .ok (received status body missing)

end Hop

theorem hangs_outcome (hop : Hop) (requests : List Request) :
    hangs ⟨hop.outcome, requests⟩ = true ↔ hop.reply = .hang := by
  obtain ⟨url, reply⟩ := hop
  cases reply with
  | close | hang => simp [hangs, Hop.outcome]
  | answer status body location missing =>
    cases hnext : Hop.next? ⟨url, .answer status body location missing⟩ <;>
      simp [hangs, Hop.outcome, hnext]

/-- The hops from an address on, with this many redirects to follow. Behind the end of the script
connections are closed. -/
def hops (redirects : Nat) (script : List Reply) (url : Url) : List Hop :=
  match script with
  | [] => [⟨url, .close⟩]
  | reply :: script =>
    ⟨url, reply⟩ ::
      match Hop.next? ⟨url, reply⟩, redirects with
      | some next, redirects + 1 => hops redirects script next
      | some _, 0 => []
      | none, _ => []

/-- An address that the server is asked for. -/
def OnServer (authority : String) (url : Url) : Prop :=
  Trouble.ofUrl? url = none ∧ url.authority = authority

instance (authority : String) (url : Url) : Decidable (OnServer authority url) :=
  inferInstanceAs (Decidable (_ ∧ _))

/-- Hops that start at an address, take one reply of the script after another and go on over
redirects only, for as long as there are any and at most so many of them. -/
structure Follows (redirects : Nat) (script : List Reply) (url : Url) (asked : List Hop)
    (last : Hop) : Prop where
  first : asked.head?.map Hop.url = some url
  final : asked.getLast? = some last
  bounded : asked.length ≤ redirects + 1
  replies : asked.map Hop.reply <+: script ++ [.close]
  steps : asked.IsChain fun hop hop' => hop.next? = some hop'.url
  ends : last.next?.isSome → asked.length = redirects + 1

section Follows
variable {redirects : Nat} {script : List Reply} {last : Hop} {asked : List Hop} (hop : Hop)

theorem follows_single (hreply : [hop.reply] <+: script ++ [.close])
    (hends : hop.next?.isSome → redirects = 0) :
    Follows redirects script hop.url [hop] hop where
  first := rfl
  final := rfl
  bounded := by simp
  replies := hreply
  steps := List.isChain_singleton hop
  ends := fun hlast => by simp [hends hlast]

theorem Follows.cons {next : Url} (h : Follows redirects script next asked last)
    (hnext : hop.next? = some next) :
    Follows (redirects + 1) (hop.reply :: script) hop.url (hop :: asked) last where
  first := rfl
  final := by rw [List.getLast?_cons, h.final]; rfl
  bounded := by simpa using h.bounded
  replies := by simpa using h.replies
  steps := by
    refine List.isChain_cons.2 ⟨fun hop' hhop' => ?_, h.steps⟩
    have hfirst := h.first
    rw [hhop', Option.map_some, Option.some.injEq] at hfirst
    rw [hnext, hfirst]
  ends := fun hlast => by rw [List.length_cons, h.ends hlast]

end Follows

section Run
variable {authority : String} {redirects : Nat} {script : List Reply} {reply : Reply}
  {url next : Url}

theorem hops_cons (redirects : Nat) (script : List Reply) (reply : Reply) (url : Url) :
    hops redirects (reply :: script) url = ⟨url, reply⟩ ::
      match Hop.next? ⟨url, reply⟩, redirects with
      | some next, redirects + 1 => hops redirects script next
      | some _, 0 => []
      | none, _ => [] := by
  rw [hops.eq_def]

theorem hops_of_last (h : Hop.next? ⟨url, reply⟩ = none ∨ redirects = 0) :
    hops redirects (reply :: script) url = [⟨url, reply⟩] := by
  rw [hops_cons]
  rcases h with h | rfl
  · rw [h]
  · cases Hop.next? ⟨url, reply⟩ <;> rfl

theorem hops_of_next (h : Hop.next? ⟨url, reply⟩ = some next) :
    hops (redirects + 1) (reply :: script) url = ⟨url, reply⟩ :: hops redirects script next := by
  rw [hops_cons, h]

theorem run_of_last (hserver : OnServer authority url)
    (h : Hop.next? ⟨url, reply⟩ = none ∨ redirects = 0) :
    run authority redirects (reply :: script) url =
      ⟨Hop.outcome ⟨url, reply⟩, [requestFor url]⟩ := by
  obtain ⟨hurl, hauthority⟩ := hserver
  cases reply with
  | close | hang => simp [run, hurl, hauthority, Hop.outcome]
  | answer status body location missing =>
    change nextAddress? url status location = none ∨ redirects = 0 at h
    cases hnext : nextAddress? url status location with
    | none => simp [run, hurl, hauthority, Hop.outcome, Hop.next?, hnext]
    | some next =>
      obtain rfl : redirects = 0 := h.resolve_left (by simp [hnext])
      simp [run, hurl, hauthority, Hop.outcome, Hop.next?, hnext]

theorem run_of_next (hserver : OnServer authority url)
    (h : Hop.next? ⟨url, reply⟩ = some next) :
    run authority (redirects + 1) (reply :: script) url =
      ⟨(run authority redirects script next).result,
        requestFor url :: (run authority redirects script next).requests⟩ := by
  obtain ⟨hurl, hauthority⟩ := hserver
  cases reply with
  | close | hang => cases h
  | answer status body location missing =>
    have hnext : nextAddress? url status location = some next := h
    simp [run, hurl, hauthority, hnext]

/-- The hops of an exchange follow its redirects, and the last one decides it. Its requests are
those for which there is a reply. -/
theorem run_hops (h : ∀ hop ∈ hops redirects script url, OnServer authority hop.url) :
    ∃ last, Follows redirects script url (hops redirects script url) last ∧
      run authority redirects script url = ⟨last.outcome,
        ((hops redirects script url).take script.length).map fun hop => requestFor hop.url⟩ := by
  induction script generalizing redirects url with
  | nil =>
    rw [hops] at h ⊢
    obtain ⟨hurl, hauthority⟩ := h ⟨url, .close⟩ List.mem_cons_self
    refine ⟨⟨url, .close⟩, follows_single ⟨url, .close⟩ List.prefix_rfl nofun, ?_⟩
    simp [run, hurl, hauthority, Hop.outcome]
  | cons reply script ih =>
    have hserver : OnServer authority url := by
      rw [hops_cons] at h
      exact h ⟨url, reply⟩ List.mem_cons_self
    by_cases hlast : Hop.next? ⟨url, reply⟩ = none ∨ redirects = 0
    · rw [hops_of_last hlast, run_of_last hserver hlast]
      refine ⟨⟨url, reply⟩, follows_single ⟨url, reply⟩ (by simp) fun hsome => ?_, by simp⟩
      exact hlast.resolve_left (Option.isSome_iff_ne_none.1 hsome)
    · push Not at hlast
      obtain ⟨next, hnext⟩ := Option.ne_none_iff_exists'.1 hlast.1
      obtain ⟨redirects, rfl⟩ := Nat.exists_eq_succ_of_ne_zero hlast.2
      rw [Nat.succ_eq_add_one, hops_of_next hnext] at h ⊢
      obtain ⟨last, hfollows, hrun⟩ := ih fun hop hhop => h hop (List.mem_cons_of_mem _ hhop)
      refine ⟨last, hfollows.cons ⟨url, reply⟩ hnext, ?_⟩
      rw [run_of_next hserver hnext, hrun]
      rfl

end Run
end RateCard.Exchange
