import RateCard.Proofs.Json.Exact.Value
import RateCard.Proofs.Refresh.Outcome

/-!
# Delivered bodies

A body that comes whole decides the fetch by its spelling alone: it is the document that it spells,
or a fault of the text. So bodies that spell one document make refreshes that end alike and leave
the same tree.
-/
namespace RateCard.Listing
open RateCard.Text
open RateCard.Json.Grammar (Document)

/-- The last request was answered by a success with the whole of this body. -/
def Delivered (network : Network) (endpoint : String) (body : Bytes) : Prop :=
  ∃ authority script k status location, network = .serving authority script ∧
    (network.get endpoint).requests.length = k + 1 ∧
    script[k]? = some (.answer status body location 0) ∧
    200 ≤ status ∧ status < 300 ∧ Exchange.hasBody status = true

variable {network network' : Network} {endpoint endpoint' : String} {timeoutMs : Nat}
  {body body' : Bytes}

theorem result_of_delivered (h : Delivered network endpoint body) :
    (fetch network endpoint timeoutMs).result = (Json.decode body).mapError .json := by
  obtain ⟨authority, script, k, status, location, rfl, hlength, hreply, hlow, hhigh, hbody⟩ := h
  have hget := get_ok_of_last hlength hreply (isRedirect_of_success hhigh)
  have hreceived : Exchange.received status body 0 = ⟨status, some body⟩ := by
    simp [Exchange.received, hbody]
  rw [hreceived] at hget
  have hsuccess : Response.isSuccess ⟨status, some body⟩ = true := by
    simp [Response.isSuccess, hlow, hhigh]
  simp only [fetch, hget, ofResponse, hsuccess, if_true]

theorem fetch_ok_of_delivered (h : Delivered network endpoint body) {document : Json} :
    (fetch network endpoint timeoutMs).result = .ok document ↔ Document document body := by
  rw [result_of_delivered h, mapError_eq_ok, Json.decode_eq_ok_iff]

theorem fetch_error_of_delivered (h : Delivered network endpoint body) :
    (∃ fault, (fetch network endpoint timeoutMs).result = .error (.json fault)) ↔
      ∀ document, ¬ Document document body := by
  have hok (document : Json) : (fetch network endpoint timeoutMs).result = .ok document ↔
      Document document body := fetch_ok_of_delivered h
  simp only [← hok, result_of_delivered h]
  cases Json.decode body <;> simp

/-- What a refresh comes to and what it leaves depends on the fetched document only. -/
theorem refresh_congr {t : FileTree} {output : Path}
    (h : (fetch network endpoint timeoutMs).result = (fetch network' endpoint' timeoutMs).result) :
    (refresh network t ⟨endpoint, output, timeoutMs⟩).result =
      (refresh network' t ⟨endpoint', output, timeoutMs⟩).result := by
  rw [refresh, refresh]
  simp only [h]
  cases (fetch network' endpoint' timeoutMs).result with
  | error failure => rfl
  | ok document =>
    simp only [refreshFrom]
    split <;> rfl

/-- A body that comes whole is fetched as a document exactly if it spells it, and is a fault of the
text if it spells none. If another body spells the same document, with other blanks, escapes or
exponents, both refreshes come to the same outcome and the same tree. -/
theorem fetch_delivered (h : Delivered network endpoint body) :
    (∀ document, (fetch network endpoint timeoutMs).result = .ok document ↔
        Document document body) ∧
      ((∃ fault, (fetch network endpoint timeoutMs).result = .error (.json fault)) ↔
        ∀ document, ¬ Document document body) ∧
      ∀ network' endpoint' body' document, Delivered network' endpoint' body' →
        Document document body → Document document body' →
        ∀ t output timeoutMs', (refresh network t ⟨endpoint, output, timeoutMs'⟩).result =
          (refresh network' t ⟨endpoint', output, timeoutMs'⟩).result := by
  refine ⟨fun document => fetch_ok_of_delivered h, fetch_error_of_delivered h, ?_⟩
  intro network' endpoint' body' document h' hdocument hdocument' t output timeoutMs'
  apply refresh_congr
  rw [(fetch_ok_of_delivered h).2 hdocument, (fetch_ok_of_delivered h').2 hdocument']

theorem decode_compact_of_readable {x : Json} (h : Json.Readable Json.Scan.maxDepth x) :
    Json.decode (Utf8.ofString x.compact) = .ok x := by
  apply Json.decode_document
  apply PriceList.wholeText_of_text
  rw [Json.compact, Utf8.ofString, String.toList_ofList]
  exact Json.valueText_compact h

/-- Decoded documents are told apart by their compact form. -/
theorem eq_of_compact_eq {x y : Json} (hx : Json.decode body = .ok x)
    (hy : Json.decode body' = .ok y) (h : x.compact = y.compact) : x = y := by
  have hback := decode_compact_of_readable (Json.readable_of_decode hx)
  rw [h, decode_compact_of_readable (Json.readable_of_decode hy)] at hback
  exact (Except.ok.inj hback).symm

/-- One listing in two spellings, of which the second has blanks, an escape in a key and a capital
exponent mark without its sign. -/
theorem fetch_delivered_twice :
    let tight := Utf8.ofString "\x7b\"data\":[\x7b\"pricing\":\x7b\"a\":1e+5\x7d\x7d]\x7d"
    let loose :=
      Utf8.ofString " \x7b\"d\\u0061ta\" :[ \x7b\"pricing\":\x7b\"a\":1E5\x7d\x7d]\x7d\n"
    let serving (body : Bytes) : Network := .serving "[::1]:80" [.answer 200 body none 0]
    let output : Path := ⟨false, ["data", "prices.json"]⟩
    Delivered (serving tight) "http://[::1]/" tight ∧
      (∃ document, (fetch (serving tight) "http://[::1]/").result = .ok document) ∧
      (refresh (serving loose) FileTree.fresh ⟨"http://[::1]/", output, 20000⟩).result.1.isOk ∧
      (refresh (serving tight) FileTree.fresh ⟨"http://[::1]/", output, 20000⟩).result =
        (refresh (serving loose) FileTree.fresh ⟨"http://[::1]/", output, 20000⟩).result := by
  intro tight loose serving output
  have delivered (body : Bytes)
      (hlength : ((serving body).get "http://[::1]/").requests.length = 1) :
      Delivered (serving body) "http://[::1]/" body :=
    ⟨"[::1]:80", _, 0, 200, none, rfl, hlength, rfl, by decide, by decide, by decide⟩
  have htight := delivered tight (by decide +kernel)
  have hloose := delivered loose (by decide +kernel)
  have hx : (Json.decode tight).toOption.map Json.compact =
      some "\x7b\"data\":[\x7b\"pricing\":\x7b\"a\":1e+5\x7d\x7d]\x7d" := by decide +kernel
  have hy : (Json.decode loose).toOption.map Json.compact =
      some "\x7b\"data\":[\x7b\"pricing\":\x7b\"a\":1e+5\x7d\x7d]\x7d" := by decide +kernel
  obtain ⟨x, hx, hprinted⟩ := toOption_map_eq_some.1 hx
  obtain ⟨y, hy, hprinted'⟩ := toOption_map_eq_some.1 hy
  obtain rfl := eq_of_compact_eq hx hy (hprinted.trans hprinted'.symm)
  obtain ⟨hok, -, hsame⟩ := fetch_delivered htight
  exact ⟨htight, ⟨x, (hok x).2 (Json.decode_eq_ok_iff.1 hx)⟩, by decide +kernel,
    hsame _ _ _ x hloose (Json.decode_eq_ok_iff.1 hx) (Json.decode_eq_ok_iff.1 hy) _ _ _⟩

end RateCard.Listing
