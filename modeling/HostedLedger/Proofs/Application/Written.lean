import HostedLedger.Proofs.Application.Trace
import HostedLedger.Proofs.Wire.Canonical

/-!
# Requests in writing

An application that is handed written requests does what it would do with the requests themselves,
and writes down what it would answer. Bytes that are no request are refused without an effect.

## Main results

* `Application.Effect.tag_eq`: a response is of the kind of its request
* `Application.process_of_encode`: a written request is handled as the request, in writing
* `Application.process_of_unwritten`: other bytes are refused
* `Application.after_process_eq_after_handle`: written runs lead where their requests lead
* `Application.process_commutes_with_handle`: writing a request and having it processed, against
  having it handled and writing the response
-/

namespace HostedLedger

namespace Application

variable {a a' : Application}

theorem tag_query (l : Ledger) (path : String) : (l.query path).tag = 7 := by
  rw [Ledger.query]
  split <;> rfl

/-- A response is of the kind of its request. -/
theorem Effect.tag_eq {request : Request} {response : Response}
    (h : Effect a request (.ok response) a') : response.tag = request.tag := by
  cases h with
  | query => exact tag_query a.ledger _
  | _ => rfl

/-- A written request is handled as the request, and its response is written. -/
theorem process_of_encode (a : Application) {request : Request} {bs : Bytes}
    (h : request.encode = .ok bs) :
    a.process bs =
      (a.handle request).map id (·.bind fun response => response.encode.mapError .encode) := by
  have hdecode : Request.decode bs = .ok request := Request.lawful_format.decode_eq_ok_iff.mpr h
  rw [process, hdecode]
  dsimp only
  rcases a.handle request with ⟨a', e | response⟩ <;> rfl

/-- Bytes that are the written form of no request are refused and change nothing. -/
theorem process_of_unwritten (a : Application) {bs : Bytes}
    (h : ∀ request : Request, request.encode ≠ .ok bs) :
    ∃ e, a.process bs = (a, .error (.decode e)) := by
  rw [process]
  split
  · next e _ => exact ⟨e, rfl⟩
  · next request hdecode =>
    exact absurd (Request.lawful_format.decode_eq_ok_iff.mp hdecode) (h request)

/-- **Written runs.** Requests lead an application to where their written forms lead it. -/
theorem after_process_eq_after_handle (a : Application) {requests : List Request}
    {written : List Bytes} (h : requests.mapM Request.encode = .ok written) :
    Machine.after process a written = Machine.after handle a requests := by
  induction requests generalizing a written with
  | nil =>
    cases h
    rfl
  | cons request requests ih =>
    simp only [List.mapM_cons, Format.bind_eq_ok_iff] at h
    obtain ⟨bs, hbs, rest, hrest, h⟩ := h
    cases h
    rw [Machine.after_cons, Machine.after_cons, process_of_encode a hbs]
    exact ih (a.handle request).1 hrest

/-- **Processing is handling in writing.** A request whose lengths fit has a written form, and
processing it leads to the application that handling the request leads to. If the request is
answered, then with a response of its own kind, and if the lengths of that fit, what processing
writes is read as this very response. If the request is refused, processing refuses it for the same
reason. So a run of written requests leads where the requests lead. Bytes that are the written form
of no request change nothing, and are refused as undecodable. -/
theorem process_commutes_with_handle (a : Application) :
    (∀ request : Request, request.Bounded → ∃ bs, request.encode = .ok bs ∧
      (a.process bs).1 = (a.handle request).1 ∧
      (∀ response, (a.handle request).2 = .ok response →
        response.tag = request.tag ∧
          (response.Bounded → ∃ written, (a.process bs).2 = .ok written ∧
            Response.decode written = .ok response)) ∧
      ∀ e, (a.handle request).2 = .error e → (a.process bs).2 = .error e) ∧
    (∀ (requests : List Request) (written : List Bytes),
      requests.mapM Request.encode = .ok written →
        Machine.after process a written = Machine.after handle a requests) ∧
    ∀ bs : Bytes, (∀ request : Request, request.encode ≠ .ok bs) →
      (a.process bs).1 = a ∧ ∃ e, (a.process bs).2 = .error e ∧ e.kind = .deserialization := by
  refine ⟨fun request bounded => ?_, fun requests written => a.after_process_eq_after_handle,
    fun bs hbs => ?_⟩
  · obtain ⟨bs, hbs⟩ := Request.writes_iff_bounded.mpr bounded
    have hprocess := a.process_of_encode hbs
    have heffect := obeys_effect a request
    refine ⟨bs, hbs, by rw [hprocess]; rfl, fun response hresponse => ?_, fun e he => ?_⟩
    · rw [hresponse] at heffect
      refine ⟨heffect.tag_eq, fun hfits => ?_⟩
      obtain ⟨written, hwritten⟩ := Response.writes_iff_bounded.mpr hfits
      refine ⟨written, ?_, Response.lawful_format.decode_eq_ok_iff.mpr hwritten⟩
      rw [hprocess, Prod.map_snd, hresponse]
      exact congrArg (Except.mapError Error.encode) hwritten
    · rw [hprocess, Prod.map_snd, he]
      rfl
  · obtain ⟨e, hprocess⟩ := a.process_of_unwritten hbs
    rw [hprocess]
    exact ⟨rfl, .decode e, rfl, rfl⟩

/-- Bytes that are no transaction reach the open block in a written request, and what is wrong with
them is read from the written response. Bytes that are no request are refused. -/
theorem process_commutes_with_handle_badEncoding :
    let a : Application := { ledger := default, openBlock := some ⟨1, "v1", false⟩ }
    let request : Request := .deliverTx [1, 2, 3]
    let response : Response := .deliverTx ResponseCode.badEncoding
      "deserialization failed: unexpected end of data"
    request.Bounded ∧ (∃ bs written, request.encode = .ok bs ∧ (a.process bs).2 = .ok written ∧
      Response.decode written = .ok response) ∧
      ∃ e, (a.process [8]).2 = .error e ∧ e.kind = .deserialization := by
  intro a request response
  have hbounded : request.Bounded := by
    show [1, 2, 3].length < UInt32.size
    decide
  have hresponse : (a.handle request).2 = .ok response := rfl
  have hfits : response.Bounded := by
    show (Utf8.encode "deserialization failed: unexpected end of data").length < UInt32.size
    decide +kernel
  obtain ⟨hrequests, -, hother⟩ := process_commutes_with_handle a
  obtain ⟨bs, hbs, -, hanswered, -⟩ := hrequests request hbounded
  obtain ⟨-, hwritten⟩ := hanswered response hresponse
  obtain ⟨written, hwritten, hdecode⟩ := hwritten hfits
  refine ⟨hbounded, ⟨bs, written, hbs, hwritten, hdecode⟩, (hother [8] fun r hr => ?_).2⟩
  have hdecode : Request.decode [8] = .ok r := Request.lawful_format.decode_eq_ok_iff.mpr hr
  cases hdecode

end Application

end HostedLedger
