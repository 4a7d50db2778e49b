import Mathlib.Tactic
import RateCard.Network.Exchange

/-!
# The last answer of an exchange

Every request of an exchange takes the next reply of the script, so that the exchange ends with the
reply to its last request. An answer that is no redirect ends the exchange that it is given in.
-/
namespace RateCard.Exchange
open RateCard.Text (Bytes)

/-- A response is what was received of the reply to the last request. -/
theorem last_of_run_ok {authority : String} {redirects : Nat} {script : List Reply} {url : Url}
    {r : Response} (h : (run authority redirects script url).result = .ok r) :
    ∃ k status body location missing,
      (run authority redirects script url).requests.length = k + 1 ∧
        script[k]? = some (.answer status body location missing) ∧
        r = received status body missing := by
  fun_induction run authority redirects script url with
  | case6 redirects url hurl hauthority status body location missing script hnext =>
    exact ⟨0, status, body, location, missing, rfl, rfl, (Except.ok.inj h).symm⟩
  | case8 url hurl hauthority status body location missing script next hnext redirects later ih =>
    obtain ⟨k, status, body, location, missing, hlength, hreply, hr⟩ := ih h
    refine ⟨k + 1, status, body, location, missing, ?_, hreply, hr⟩
    rw [List.length_cons, hlength]
  | _ => cases h

theorem nextAddress_of_isRedirect {status : Nat} (h : isRedirect status = false) (url : Url)
    (location : Option String) : nextAddress? url status location = none := by
  rw [nextAddress?, h, if_neg Bool.false_ne_true]

/-- An answer to the last request that is no redirect is the response. -/
theorem run_ok_of_last {authority : String} {redirects : Nat} {script : List Reply} {url : Url}
    {k status missing : Nat} {body : Bytes} {location : Option String}
    (hlength : (run authority redirects script url).requests.length = k + 1)
    (hreply : script[k]? = some (.answer status body location missing))
    (hstatus : isRedirect status = false) :
    (run authority redirects script url).result = .ok (received status body missing) := by
  fun_induction run authority redirects script url generalizing k with
  | case4 | case5 =>
    obtain rfl : k = 0 := by simpa using hlength.symm
    cases hreply
  | case6 redirects url hurl hauthority status' body' location' missing' script hnext =>
    obtain rfl : k = 0 := by simpa using hlength.symm
    cases hreply
    rfl
  | case7 url hurl hauthority status' body' location' missing' script next hnext =>
    obtain rfl : k = 0 := by simpa using hlength.symm
    cases hreply
    rw [nextAddress_of_isRedirect hstatus] at hnext
    cases hnext
  | case8 url hurl hauthority status' body' location' missing' script next hnext redirects later =>
    rename_i ih
    cases k with
    | zero =>
      cases hreply
      rw [nextAddress_of_isRedirect hstatus] at hnext
      cases hnext
    | succ k => exact ih (by simpa using hlength) hreply
  | _ => cases hlength

end RateCard.Exchange
