import RateCard.Proofs.Network.Hops
import RateCard.Proofs.Refresh.Body

/-!
# What decides a fetch

A fetch follows redirects and tries nothing again. The reply that ends this decides it: the status
comes before the body, and the body must be there before it is read as a document.
-/
namespace RateCard
open RateCard.Exchange (Follows Hop OnServer hasBody hops maxRedirects)
open RateCard.Json.Grammar (Document)
open RateCard.Text

def IsSuccess (status : Nat) : Prop := 200 ≤ status ∧ status < 300

instance (status : Nat) : Decidable (IsSuccess status) := inferInstanceAs (Decidable (_ ∧ _))

/-! ## Last replies -/

namespace Exchange.Hop

/-- A success comes with a whole body that spells a document. -/
def Delivers (hop : Hop) (document : Json) : Prop :=
  match hop.reply with
  | .answer status body _ missing =>
    IsSuccess status ∧ hasBody status = true ∧ missing = 0 ∧ Document document body
  | .close | .hang => False

/-- A success comes with a whole body that spells no document, as a body that is not read does. -/
def Garbles (hop : Hop) : Prop :=
  match hop.reply with
  | .answer status body _ missing =>
    IsSuccess status ∧ (hasBody status = false ∨ missing = 0 ∧ ∀ document, ¬ Document document body)
  | .close | .hang => False

/-- No success comes, and no redirect to a usable address. A body that does not come whole is told
as an empty text. -/
def Refuses (hop : Hop) (status : Nat) (text : String) : Prop :=
  match hop.reply with
  | .answer status' body _ missing =>
    status' = status ∧ ¬ IsSuccess status' ∧ hop.next? = none ∧
      String.ofList (Utf8.decodeLossy
        (if hasBody status' = true ∧ missing = 0 then body else [])) = text
  | .close | .hang => False

/-- No answer comes, or a success whose body is cut, or a redirect that is not followed. -/
def Fails (hop : Hop) : Prop :=
  match hop.reply with
  | .answer status _ _ missing =>
    hop.next?.isSome ∨ IsSuccess status ∧ hasBody status = true ∧ missing ≠ 0
  | .close | .hang => True

section Answers
variable (url : Url) (status : Nat) (body : Bytes) (location : Option String) (missing : Nat)

@[simp] theorem delivers_answer (document : Json) :
    Delivers ⟨url, .answer status body location missing⟩ document ↔
      IsSuccess status ∧ hasBody status = true ∧ missing = 0 ∧ Document document body := Iff.rfl

@[simp] theorem garbles_answer : Garbles ⟨url, .answer status body location missing⟩ ↔
    IsSuccess status ∧
      (hasBody status = false ∨ missing = 0 ∧ ∀ document, ¬ Document document body) := Iff.rfl

@[simp] theorem refuses_answer (status' : Nat) (text : String) :
    Refuses ⟨url, .answer status body location missing⟩ status' text ↔
      status = status' ∧ ¬ IsSuccess status ∧
        next? ⟨url, .answer status body location missing⟩ = none ∧
        String.ofList (Utf8.decodeLossy
          (if hasBody status = true ∧ missing = 0 then body else [])) = text := Iff.rfl

@[simp] theorem fails_answer : Fails ⟨url, .answer status body location missing⟩ ↔
    (next? ⟨url, .answer status body location missing⟩).isSome ∨
      IsSuccess status ∧ hasBody status = true ∧ missing ≠ 0 := Iff.rfl

end Answers
end Exchange.Hop

namespace Listing

/-- A fetch comes to what its last hop says. -/
structure Decides (last : Hop) (result : Except Failure Json) : Prop where
  document : ∀ document, result = .ok document ↔ last.Delivers document
  malformed : (∃ fault, result = .error (.json fault)) ↔ last.Garbles
  refused : ∀ status text, result = .error (.api status text) ↔ last.Refuses status text
  failed : (∃ trouble, result = .error (.http trouble)) ↔ last.Fails

/-- What a fetch makes of the end of its exchange. -/
def ofOutcome (outcome : Except Trouble Response) : Except Failure Json :=
  match outcome with
  | .error trouble => .error (.http trouble)
  | .ok response => ofResponse response

theorem result_of_get (network : Network) (endpoint : String) (timeoutMs : Nat) :
    (fetch network endpoint timeoutMs).result = ofOutcome (network.get endpoint).result := by
  rw [fetch]
  cases (network.get endpoint).result <;> rfl

theorem requests_of_get (network : Network) (endpoint : String) (timeoutMs : Nat) :
    (fetch network endpoint timeoutMs).requests = (network.get endpoint).requests := by
  rw [fetch]
  cases (network.get endpoint).result <;> rfl

theorem ofResponse_received (status : Nat) (body : Bytes) (missing : Nat) :
    ofResponse (Exchange.received status body missing) =
      if IsSuccess status then
        if hasBody status = false then (Json.decode []).mapError .json
        else if missing = 0 then (Json.decode body).mapError .json
        else .error (.http .bodyCut)
      else .error (.api status (String.ofList (Utf8.decodeLossy
        (if hasBody status = true ∧ missing = 0 then body else [])))) := by
  rw [ofResponse, Response.isSuccess, Exchange.received]
  simp only [Bool.and_eq_true, decide_eq_true_eq, IsSuccess]
  cases hasBody status with
  | false => simp
  | true => by_cases hmissing : missing = 0 <;> simp [hmissing]

/-- A text is read as the document that it spells, or is malformed. -/
theorem read_cases (body : Bytes) :
    (∃ document, (Json.decode body).mapError Failure.json = .ok document ∧
        ∀ document', Document document' body ↔ document = document') ∨
      (∀ document, ¬ Document document body) ∧
        ∃ fault, (Json.decode body).mapError Failure.json = .error (.json fault) := by
  simp only [← Json.decode_eq_ok_iff]
  cases hdecode : Json.decode body with
  | error fault => exact .inr ⟨by simp, fault, rfl⟩
  | ok document => exact .inl ⟨document, rfl, by simp⟩

theorem read_nil : ∃ fault, (Json.decode []).mapError Failure.json = .error (.json fault) :=
  ⟨_, rfl⟩

section Answers
variable {url : Url} {status missing : Nat} {body : Bytes} {location : Option String}

/-- A redirect is no success. -/
theorem not_isSuccess_of_next {next : Url}
    (h : Hop.next? ⟨url, .answer status body location missing⟩ = some next) :
    ¬ IsSuccess status := by
  rintro ⟨-, hhigh⟩
  have hnone := Exchange.nextAddress_of_isRedirect (isRedirect_of_success hhigh) url location
  cases h.symm.trans hnone

theorem decides_answer (h : Hop.next? ⟨url, .answer status body location missing⟩ = none) :
    Decides ⟨url, .answer status body location missing⟩
      (ofResponse (Exchange.received status body missing)) := by
  rw [ofResponse_received]
  by_cases hstatus : IsSuccess status
  case neg =>
    rw [if_neg hstatus]
    constructor <;> simp [h, hstatus]
  rw [if_pos hstatus]
  cases hbody : hasBody status with
  | false =>
    obtain ⟨fault, hfault⟩ := read_nil
    rw [if_pos rfl, hfault]
    constructor <;> simp [h, hstatus, hbody]
  | true =>
    rw [if_neg (by decide)]
    by_cases hmissing : missing = 0
    case neg =>
      rw [if_neg hmissing]
      constructor <;> simp [h, hstatus, hbody, hmissing]
    subst hmissing
    rw [if_pos rfl]
    obtain ⟨document, hok, hdocument⟩ | ⟨hnone, fault, hfault⟩ := read_cases body
    · rw [hok]
      constructor <;> simp [h, hstatus, hbody, hdocument]
    · rw [hfault]
      constructor <;> simp [h, hstatus, hbody, hnone]

end Answers

theorem decides_outcome (last : Hop) : Decides last (ofOutcome last.outcome) := by
  obtain ⟨url, reply⟩ := last
  cases reply with
  | close | hang =>
    constructor <;>
      simp [ofOutcome, Hop.outcome, Hop.Delivers, Hop.Garbles, Hop.Refuses, Hop.Fails]
  | answer status body location missing =>
    cases hnext : Hop.next? ⟨url, .answer status body location missing⟩ with
    | some next =>
      have hstatus := not_isSuccess_of_next hnext
      constructor <;> simp [ofOutcome, Hop.outcome, hnext, hstatus]
    | none =>
      have hresult : ofOutcome (Hop.outcome ⟨url, .answer status body location missing⟩) =
          ofResponse (Exchange.received status body missing) := by
        simp [ofOutcome, Hop.outcome, hnext]
      rw [hresult]
      exact decides_answer hnext

/-! ## Fetches -/

/-- A fetch whose addresses are all on the server follows redirects, one reply of the script after
another, at most `maxRedirects` of them. It sends one request for each reply, and the last one
decides what it comes to, and whether the fetch lasts as long as it may. -/
theorem fetch_decided {authority endpoint : String} {timeoutMs : Nat} {script : List Reply}
    {url : Url}
    (hurl : Url.ofString endpoint = .ok url)
    (hserver : ∀ hop ∈ hops maxRedirects script url.asked, OnServer authority hop.url) :
    let asked := hops maxRedirects script url.asked
    let fetched := fetch (.serving authority script) endpoint timeoutMs
    (∃ last, Follows maxRedirects script url.asked asked last ∧ Decides last fetched.result ∧
        fetched.waitedMs = if last.reply = .hang then timeoutMs else 0) ∧
      fetched.requests = (asked.take script.length).map (fun hop => Exchange.requestFor hop.url) ∧
      fetched.requests.length ≤ 11 ∧
      ∀ request ∈ fetched.requests,
        request.method = "GET" ∧ request.accept = "application/json" := by
  intro asked fetched
  obtain ⟨last, hfollows, hrun⟩ := Exchange.run_hops hserver
  have hget : (Network.serving authority script).get endpoint =
      Exchange.run authority maxRedirects script url.asked := by
    rw [Network.get, hurl]
  have hrequests : fetched.requests =
      (asked.take script.length).map fun hop => Exchange.requestFor hop.url := by
    rw [requests_of_get, hget, hrun]
  refine ⟨⟨last, hfollows, ?_, ?_⟩, hrequests, ?_, fun request hrequest => ?_⟩
  · rw [result_of_get, hget, hrun]
    exact decides_outcome last
  · rw [waitedMs_fetch, hget, hrun, Exchange.waitedMs]
    simp only [Exchange.hangs_outcome]
  · rw [hrequests, List.length_map, List.length_take]
    exact (Nat.min_le_right _ _).trans hfollows.bounded
  · rw [hrequests, List.mem_map] at hrequest
    obtain ⟨hop, -, rfl⟩ := hrequest
    exact ⟨rfl, rfl⟩

example :
    let around : List Reply := List.replicate 12 (.answer 301 [] (some "/") 0)
    (fetch (.serving "[::1]:80" around) "http://[::1]/").requests.length = 11 := by decide +kernel

/-- A redirect whose body is cut is followed to the next reply, which is the last one that is
taken. -/
theorem fetch_decided_redirected :
    let script := [.answer 302 [33] (some "/b") 2, .answer 200 [123, 125] none 0, .hang]
    let fetched := fetch (.serving "[::1]:80" script) "http://[::1]/a"
    (∃ document, fetched.result = .ok document) ∧
      fetched.requests =
        [⟨"GET", "/a", "application/json"⟩, ⟨"GET", "/b", "application/json"⟩] := by
  intro script fetched
  let page (name : String) : Url :=
    ⟨"http", .none, some "[::1]", none, .segments [name], none, none⟩
  have hurl : Url.ofString "http://[::1]/a" = .ok (page "a") := by decide +kernel
  have hasked : hops maxRedirects script (page "a").asked =
      [⟨page "a", .answer 302 [33] (some "/b") 2⟩, ⟨page "b", .answer 200 [123, 125] none 0⟩] := by
    decide +kernel
  have hserver : ∀ hop ∈ hops maxRedirects script (page "a").asked,
      OnServer "[::1]:80" hop.url := by decide +kernel
  obtain ⟨⟨last, hfollows, hdecides, -⟩, hrequests, -⟩ := fetch_decided hurl hserver
  have hfinal := hfollows.final
  rw [hasked] at hrequests hfinal
  obtain rfl := Option.some.inj hfinal
  have hcompact : (Json.decode [123, 125]).toOption.map Json.compact = some "\x7b\x7d" := by
    decide +kernel
  obtain ⟨document, hdocument, -⟩ := toOption_map_eq_some.1 hcompact
  refine ⟨⟨document, (hdecides.document document).2 ?_⟩, hrequests.trans (by decide +kernel)⟩
  exact ⟨by decide, by decide, rfl, Json.decode_eq_ok_iff.1 hdocument⟩

end Listing
end RateCard
