import RequestHub.Proofs.Envelope.Fields

/-!
# Responses behind a hop

A response is written as an envelope, read again, and made a response again.  Header values of the visible
range survive this in their order, and an envelope is refused only for a status code or header fields
that no response can have.
-/

namespace RequestHub

/-! ## Responses behind the hop -/

namespace ResponseEnvelope

theorem status_of_code
    {envelope : ResponseEnvelope} (code : 100 ≤ envelope.statusCode ∧ envelope.statusCode ≤ 999) :
    envelope.status = .ok ⟨envelope.statusCode, code.1, code.2⟩ := by
  rw [ResponseEnvelope.status, Status.ofNat?, dif_pos code]

theorem status_of_no_code
    {envelope : ResponseEnvelope}
    (none_so : ¬ (100 ≤ envelope.statusCode ∧ envelope.statusCode ≤ 999)) :
    envelope.status =
      .error (.malformedReply ("invalid status code " ++ toString envelope.statusCode)) := by
  rw [ResponseEnvelope.status, Status.ofNat?, dif_neg none_so]

/-- An envelope is made a response of its status code, fields and body, if they are legal. -/
theorem toResponse_of_legal
    (envelope : ResponseEnvelope) (status : Status) (code : envelope.statusCode = status.code)
    (legal : envelope.headers.Legal) :
    ∃ reply, envelope.toResponse = .ok reply ∧ reply.status = status ∧
      reply.body = envelope.body ∧ reply.trailers = [] ∧ reply.headers.Formed ∧
      ∀ name, reply.headers.values name = envelope.headers.valuesAt name := by
  obtain ⟨added, run, values, forms⟩ := WireHeaders.addAll_of_legal legal []
  have found : envelope.status = .ok status := by
    have bounds : 100 ≤ status.code ∧ status.code ≤ 999 := ⟨status.least, status.greatest⟩
    rw [ResponseEnvelope.status, Status.ofNat?, code, dif_pos bounds]
  have fields : envelope.headerFields = .ok added := run
  refine ⟨⟨status, added, [], envelope.body⟩, ?_, rfl, rfl, rfl, forms .nil, values⟩
  simp only [toResponse, found, fields, except_ok_bind]
  rfl

/-- An envelope is refused for a status code that has not three digits, and for illegal fields. -/
theorem toResponse_eq_error_iff (envelope : ResponseEnvelope) :
    (∃ fault, envelope.toResponse = .error fault) ↔
      ¬ (100 ≤ envelope.statusCode ∧ envelope.statusCode ≤ 999) ∨ ¬ envelope.headers.Legal := by
  rw [← WireHeaders.toHeaders_eq_error_iff]
  by_cases bounds : 100 ≤ envelope.statusCode ∧ envelope.statusCode ≤ 999
  · have found := status_of_code bounds
    have whole : envelope.toResponse = envelope.headers.toHeaders.map fun headers =>
        ⟨⟨envelope.statusCode, bounds.1, bounds.2⟩, headers, [], envelope.body⟩ := by
      simp only [toResponse, found, headerFields, except_ok_bind]
      cases envelope.headers.toHeaders <;> rfl
    rw [whole]
    cases envelope.headers.toHeaders with
    | error fault => exact iff_of_true ⟨fault, rfl⟩ (.inr ⟨fault, rfl⟩)
    | ok headers =>
        refine iff_of_false ?_ ?_
        · rintro ⟨_, failed⟩
          cases failed
        · rintro (outside | ⟨_, failed⟩)
          · exact outside bounds
          · cases failed
  · have refused := status_of_no_code bounds
    have failed : envelope.toResponse =
        .error (.malformedReply ("invalid status code " ++ toString envelope.statusCode)) := by
      simp only [toResponse, refused, except_error_bind]
    exact iff_of_true ⟨_, failed⟩ (.inl bounds)

/-- A response whose values are of the visible range is the same behind the hop. -/
theorem toResponse_ofResponse
    {response : Response} (formed : response.headers.Formed) (visible : response.headers.Visible) :
    ∃ reply, (ofResponse response).toResponse = .ok reply ∧ reply.status = response.status ∧
      reply.body = response.body ∧ reply.trailers = [] ∧
      ∀ name, reply.headers.values name = response.headers.values name := by
  obtain ⟨reply, made, status, body, trailers, _, values⟩ :=
    toResponse_of_legal (ofResponse response) response.status rfl
      (WireHeaders.legal_ofHeaders formed)
  refine ⟨reply, made, status, body, trailers, fun name => ?_⟩
  rw [values]
  exact (WireHeaders.valuesAt_ofHeaders formed name).trans (formed.filter_values visible name)

end ResponseEnvelope

/--
Envelopes survive the hop.  The envelope of a request and the envelope of a response are read as they were
written; a response whose header values are of the visible range has behind the hop the same status, the
same body, the same values under every name, and no trailers; and an envelope is refused exactly for a
status code that has not three digits or for a name or value that no header field can have.
-/
theorem envelopes_survive_hop :
    (∀ envelope : RequestEnvelope, envelope.headers.Ordered →
      Survives RequestEnvelope.decoder envelope.toJson envelope) ∧
    (∀ envelope : ResponseEnvelope, envelope.headers.Ordered → envelope.statusCode < twoTo 16 →
      Survives ResponseEnvelope.decoder envelope.toJson envelope) ∧
    (∀ response : Response, response.headers.Formed → response.headers.Visible →
      ∃ envelope reply, Survives ResponseEnvelope.decoder
          (ResponseEnvelope.ofResponse response).toJson envelope ∧
        envelope.toResponse = .ok reply ∧ reply.status = response.status ∧
        reply.body = response.body ∧ reply.trailers = [] ∧
        ∀ name, reply.headers.values name = response.headers.values name) ∧
    ∀ envelope : ResponseEnvelope,
      (∃ fault, envelope.toResponse = .error fault) ↔
        ¬ (100 ≤ envelope.statusCode ∧ envelope.statusCode ≤ 999) ∨
          ∃ name texts, (name, texts) ∈ envelope.headers ∧
            (¬ IsFieldName name ∨ ∃ text ∈ texts, ¬ IsFieldText text) := by
  refine ⟨RequestEnvelope.reads_back, ResponseEnvelope.reads_back, ?_, ?_⟩
  · intro response formed visible
    obtain ⟨reply, made, same⟩ := ResponseEnvelope.toResponse_ofResponse formed visible
    have code : response.status.code < twoTo 16 :=
      Nat.lt_of_le_of_lt response.status.greatest (by decide)
    exact ⟨_, reply, ResponseEnvelope.reads_back _ (WireHeaders.ordered_ofHeaders formed.ordered) code,
      made, same⟩
  · intro envelope
    rw [ResponseEnvelope.toResponse_eq_error_iff, WireHeaders.not_legal_iff]

/-- A request with an empty query, two values under one name, and bytes that are no text. -/
def parcel : RequestEnvelope where
  id := "7"
  api := "kitchen"
  service := "pantry"
  method := "POST"
  path := "/kitchen/pantry"
  query := some ""
  headers := [("accept", ["text/plain", "*/*"]), ("x-trace", [])]
  body := [0x00, 0xFF]

/-- An envelope whose status code has 16 bits, but no three digits. -/
def receipt : ResponseEnvelope where
  statusCode := 65535
  headers := [("x-trace", ["a", "b"])]
  body := [0x6F, 0x6B]

/-- A response with two values under one name, and with a trailer. -/
def answer : Response where
  status := .created
  headers := [("x-trace", [[0x61], [0x62, 0x09]])]
  trailers := [("x-end", [[0x63]])]
  body := [0x6F]

/-- An empty query, the greatest status code of 16 bits and repeated fields go through the hop. -/
theorem envelopes_survive_hop_parcel :
    (parcel.headers.Ordered ∧ Survives RequestEnvelope.decoder parcel.toJson parcel) ∧
    (receipt.headers.Ordered ∧ receipt.statusCode < twoTo 16 ∧
      Survives ResponseEnvelope.decoder receipt.toJson receipt) ∧
    (answer.headers.Formed ∧ answer.headers.Visible ∧
      ∃ envelope reply, Survives ResponseEnvelope.decoder
          (ResponseEnvelope.ofResponse answer).toJson envelope ∧
        envelope.toResponse = .ok reply ∧ reply.status = answer.status ∧
        reply.body = answer.body ∧ reply.trailers = [] ∧
        ∀ name, reply.headers.values name = answer.headers.values name) ∧
    ∃ fault, receipt.toResponse = .error fault := by
  obtain ⟨requests, responses, replies, refusals⟩ := envelopes_survive_hop
  have accept_first : parcel.headers.Ordered := by
    unfold Names.Ordered
    decide
  have alone : receipt.headers.Ordered := List.pairwise_singleton _ _
  have small : receipt.statusCode < twoTo 16 := by decide
  have formed : answer.headers.Formed :=
    ⟨List.pairwise_singleton _ _, by decide⟩
  have visible : answer.headers.Visible := by
    unfold Headers.Visible
    decide
  refine ⟨⟨accept_first, requests parcel accept_first⟩, ⟨alone, small, responses receipt alone small⟩,
    ⟨formed, visible, replies answer formed visible⟩, (refusals receipt).mpr (.inl ?_)⟩
  decide

end RequestHub
