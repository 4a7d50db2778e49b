import RateCard.Proofs.Bind
import RateCard.Proofs.Network.Exchange
import RateCard.Refresh

/-!
# Fetched listings

A fetch gives a document exactly if the last answer of the exchange is a complete success whose body
is read as that document.
-/
namespace RateCard.Listing
open RateCard.Text

/-- The last request was answered with a complete body of a success, which is read as a document. -/
def Answered (network : Network) (endpoint : String) (document : Json) : Prop :=
  ∃ authority script k status body location, network = .serving authority script ∧
    (network.get endpoint).requests.length = k + 1 ∧
    script[k]? = some (.answer status body location 0) ∧
    200 ≤ status ∧ status < 300 ∧ Exchange.hasBody status = true ∧ Json.decode body = .ok document

theorem decode_nil (document : Json) : Json.decode [] ≠ .ok document := by
  intro h
  cases h

/-- What is received is a document if it comes as the whole body of a success. -/
theorem ofResponse_eq_ok {status missing : Nat} {body : Bytes} {document : Json} :
    ofResponse (Exchange.received status body missing) = .ok document ↔
      missing = 0 ∧ 200 ≤ status ∧ status < 300 ∧ Exchange.hasBody status = true ∧
        Json.decode body = .ok document := by
  have hsuccess : (Exchange.received status body missing).isSuccess = true ↔
      200 ≤ status ∧ status < 300 := by simp [Response.isSuccess, Exchange.received]
  rw [ofResponse]
  by_cases hstatus : 200 ≤ status ∧ status < 300
  · rw [if_pos (hsuccess.2 hstatus)]
    cases hbody : Exchange.hasBody status with
    | false => simp [Exchange.received, hbody, mapError_eq_ok, decode_nil]
    | true =>
      by_cases hmissing : missing = 0
      · simp [Exchange.received, hbody, hmissing, mapError_eq_ok, hstatus]
      · simp [Exchange.received, hbody, hmissing]
  · rw [if_neg (fun h => hstatus (hsuccess.1 h))]
    simp only [reduceCtorEq, false_iff]
    exact fun h => hstatus ⟨h.2.1, h.2.2.1⟩

theorem get_ok {network : Network} {endpoint : String} {r : Response}
    (h : (network.get endpoint).result = .ok r) :
    ∃ authority script k status body location missing, network = .serving authority script ∧
      (network.get endpoint).requests.length = k + 1 ∧
      script[k]? = some (.answer status body location missing) ∧
      r = Exchange.received status body missing := by
  unfold Network.get at h ⊢
  split
  · rename_i hurl
    rw [hurl] at h
    cases h
  · rename_i url hurl
    rw [hurl] at h
    cases network with
    | serving authority script =>
      obtain ⟨k, status, body, location, missing, hlast⟩ := Exchange.last_of_run_ok h
      exact ⟨authority, script, k, status, body, location, missing, rfl, hlast⟩
    | unreachable =>
      simp only at h
      split at h <;> cases h

theorem get_ok_of_last {authority endpoint : String} {script : List Reply}
    {k status missing : Nat} {body : Bytes} {location : Option String}
    (hlength : ((Network.serving authority script).get endpoint).requests.length = k + 1)
    (hreply : script[k]? = some (.answer status body location missing))
    (hstatus : Exchange.isRedirect status = false) :
    ((Network.serving authority script).get endpoint).result =
      .ok (Exchange.received status body missing) := by
  unfold Network.get at hlength ⊢
  split
  · rename_i hurl
    rw [hurl] at hlength
    cases hlength
  · rename_i url hurl
    rw [hurl] at hlength
    exact Exchange.run_ok_of_last hlength hreply hstatus

theorem isRedirect_of_success {status : Nat} (h : status < 300) :
    Exchange.isRedirect status = false := by
  rw [Exchange.isRedirect, List.contains_eq_mem, decide_eq_false_iff_not]
  intro hmem
  simp only [List.mem_cons, List.not_mem_nil, or_false] at hmem
  omega

theorem waitedMs_fetch (network : Network) (endpoint : String) (timeoutMs : Nat) :
    (fetch network endpoint timeoutMs).waitedMs = (network.get endpoint).waitedMs timeoutMs := by
  rw [fetch]
  split <;> rfl

theorem fetch_eq_ok {network : Network} {endpoint : String} {timeoutMs : Nat} {document : Json} :
    (fetch network endpoint timeoutMs).result = .ok document ↔
      Answered network endpoint document := by
  rw [fetch]
  constructor
  · intro h
    cases hget : (network.get endpoint).result with
    | error trouble => simp [hget] at h
    | ok r =>
      simp only [hget] at h
      obtain ⟨authority, script, k, status, body, location, missing, hnetwork, hlength, hreply,
        rfl⟩ := get_ok hget
      obtain ⟨rfl, hdocument⟩ := ofResponse_eq_ok.1 h
      exact ⟨authority, script, k, status, body, location, hnetwork, hlength, hreply, hdocument⟩
  · rintro ⟨authority, script, k, status, body, location, rfl, hlength, hreply, hdocument⟩
    simp only [get_ok_of_last hlength hreply (isRedirect_of_success hdocument.2.1)]
    exact ofResponse_eq_ok.2 ⟨rfl, hdocument⟩

end RateCard.Listing
