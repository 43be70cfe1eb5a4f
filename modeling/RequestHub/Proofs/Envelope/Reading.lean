import RequestHub.Envelope
import RequestHub.Json.Lookup
import RequestHub.Proofs.Decoder.Records
import RequestHub.Proofs.Text.Base64

/-!
# Envelopes are read as they were written

Whatever an envelope holds is read back from the JSON that is written for it, from the value and from the
text, in whatever order the members of the object stand.
-/

namespace RequestHub

open Decoder Decoder.RecordShape Json

/-! ## The parts of envelopes -/

theorem Envelope.reads_body (body : Bytes) (depth : Nat) :
    Reads Envelope.bodyDecoder depth (Envelope.bodyJson body) body := by
  refine (reads_string (Text.Base64.encode body) depth).optional.refine ?_
  rw [Option.getD_some, Text.Base64.decode_encode]
  rfl

theorem reads_strings (texts : List String) (depth : Nat) :
    Reads (.sequence .string) (depth + 2) (.ofStrings texts) texts :=
  Reads.sequence (List.forall₂_map_left_iff.mpr
    (List.forall₂_same.mpr fun text _ => reads_string text (depth + 1)))

theorem WireHeaders.reads {wire : WireHeaders} (ordered : wire.Ordered) (depth : Nat) :
    Reads WireHeaders.decoder (depth + 4) wire.toJson wire :=
  Reads.mapping ordered (List.forall₂_map_left_iff.mpr
    (List.forall₂_same.mpr fun pair _ => ⟨rfl, reads_strings pair.2 (depth + 1)⟩))

/--
A decoder gives a value back from what is written for it, as a JSON value and as text, in whatever order
the members stand.
-/
structure Survives {α : Type} (decoder : Decoder α) (json : Json) (value : α) : Prop where
  ofValue : decoder.ofValue json = .ok value
  ofText : decoder.fromText (Bytes.ofString json.render) = .ok value
  reordered : ∀ members, members.Perm json.members →
    decoder.ofValue (.object members) = .ok value ∧
      decoder.fromText (Bytes.ofString (Json.object members).render) = .ok value

theorem survives_of_reads
    {α : Type} {decoder : Decoder α} (written : List (String × Json)) {value : α}
    (apart : (written.map (·.1)).Nodup)
    (reads : ∀ members, members.Perm written →
      Reads decoder greatestDepth (.object members) value) :
    Survives decoder (.ofMembers written) value := by
  have order := Names.perm_ofList apart
  have first := reads _ order
  refine ⟨first.ofValue, ?_, fun members permuted => ?_⟩
  · rw [ofString_render]
    exact fromText_of_reads first
  · have again := reads members (permuted.trans order)
    rw [ofString_render]
    exact ⟨again.ofValue, fromText_of_reads again⟩

/-! ## Requests -/

namespace RequestEnvelope

/-- The members of the object that is written for an envelope, before they are put in order. -/
def members (envelope : RequestEnvelope) : List (String × Json) :=
  [("id", .string envelope.id), ("apiName", .string envelope.api),
      ("serviceName", .string envelope.service), ("method", .string envelope.method),
      ("path", .string envelope.path), ("headers", envelope.headers.toJson),
      ("body", Envelope.bodyJson envelope.body)] ++
    match envelope.query with
    | some query => [("query", .string query)]
    | none => []

/-- What is known of an envelope when some of its fields have been seen. -/
def part (envelope : RequestEnvelope) (seen : List String) : RequestEnvelope where
  id := if "id" ∈ seen then envelope.id else default
  api := if "apiName" ∈ seen then envelope.api else default
  service := if "serviceName" ∈ seen then envelope.service else default
  method := if "method" ∈ seen then envelope.method else default
  path := if "path" ∈ seen then envelope.path else default
  query := if "query" ∈ seen then envelope.query else default
  headers := if "headers" ∈ seen then envelope.headers else default
  body := if "body" ∈ seen then envelope.body else default

theorem adds
    {envelope : RequestEnvelope} (ordered : envelope.headers.Ordered) (depth : Nat) :
    ∀ member ∈ envelope.members, shape.Adds (depth + 4) envelope.part member := by
  refine List.forall_mem_append.mpr ⟨?_, ?_⟩
  · simp only [List.forall_mem_cons]
    refine ⟨?_, ?_, ?_, ?_, ?_, ?_, ?_, fun _ member => absurd member List.not_mem_nil⟩
    · exact adds_of_reads rfl (reads_string envelope.id _) fun seen => by simp [part]
    · exact adds_of_reads rfl (reads_string envelope.api _) fun seen => by simp [part]
    · exact adds_of_reads rfl (reads_string envelope.service _) fun seen => by simp [part]
    · exact adds_of_reads rfl (reads_string envelope.method _) fun seen => by simp [part]
    · exact adds_of_reads rfl (reads_string envelope.path _) fun seen => by simp [part]
    · exact adds_of_reads rfl (WireHeaders.reads ordered depth) fun seen => by simp [part]
    · exact adds_of_reads rfl (Envelope.reads_body envelope.body _) fun seen => by simp [part]
  · cases written : envelope.query with
    | none => exact fun _ member => absurd member List.not_mem_nil
    | some query =>
        refine List.forall_mem_singleton.mpr ?_
        refine adds_of_reads rfl (reads_string query _).optional fun seen => ?_
        simp [part, written]

theorem names_members (envelope : RequestEnvelope) :
    envelope.members.map (·.1) =
      ["id", "apiName", "serviceName", "method", "path", "headers", "body"] ++
        (envelope.query.map fun _ => "query").toList := by
  cases written : envelope.query <;> simp [members, written]

theorem nodup_names (envelope : RequestEnvelope) : (envelope.members.map (·.1)).Nodup := by
  rw [names_members]
  cases envelope.query <;> simp

/-- The envelope of a request is read as it was written. -/
theorem reads_back (envelope : RequestEnvelope) (ordered : envelope.headers.Ordered) :
    Survives decoder envelope.toJson envelope := by
  have apart := nodup_names envelope
  refine survives_of_reads envelope.members apart fun members order => ?_
  refine reads_record (adds ordered _) apart ?_ rfl ?_ order
  · simp [names_members, shape, Field.required, Field.defaulted]
  · intro seen all
    simp only [names_members, List.forall_mem_append, List.forall_mem_cons] at all
    obtain ⟨⟨id, api, service, method, path, headers, body, -⟩, query⟩ := all
    -- A query that is missing is not written, and the blank envelope has none.
    have asked : (if "query" ∈ seen then envelope.query else default) = envelope.query := by
      cases written : envelope.query with
      | none => exact ite_self _
      | some text => exact if_pos (query "query" (by simp [written]))
    simp only [part, id, api, service, method, path, headers, body, asked, if_true]

end RequestEnvelope

/-! ## Responses -/

namespace ResponseEnvelope

/-- The members of the object that is written for an envelope, before they are put in order. -/
def members (envelope : ResponseEnvelope) : List (String × Json) :=
  [("statusCode", .ofNat envelope.statusCode), ("headers", envelope.headers.toJson),
    ("body", Envelope.bodyJson envelope.body)]

/-- What is known of an envelope when some of its fields have been seen. -/
def part (envelope : ResponseEnvelope) (seen : List String) : ResponseEnvelope where
  statusCode := if "statusCode" ∈ seen then envelope.statusCode else default
  headers := if "headers" ∈ seen then envelope.headers else default
  body := if "body" ∈ seen then envelope.body else default

theorem adds
    {envelope : ResponseEnvelope} (ordered : envelope.headers.Ordered)
    (small : envelope.statusCode < twoTo 16) (depth : Nat) :
    ∀ member ∈ envelope.members, shape.Adds (depth + 4) envelope.part member := by
  simp only [members, List.forall_mem_cons]
  refine ⟨?_, ?_, ?_, fun _ member => absurd member List.not_mem_nil⟩
  · exact adds_of_reads rfl (reads_natural small (by decide) "u16" _)
      fun seen => by simp [part]
  · exact adds_of_reads rfl (WireHeaders.reads ordered depth) fun seen => by simp [part]
  · exact adds_of_reads rfl (Envelope.reads_body envelope.body _) fun seen => by simp [part]

/-- The envelope of a response is read as it was written, if its status code has 16 bits. -/
theorem reads_back
    (envelope : ResponseEnvelope) (ordered : envelope.headers.Ordered)
    (small : envelope.statusCode < twoTo 16) : Survives decoder envelope.toJson envelope := by
  have apart : (envelope.members.map (·.1)).Nodup := by simp [members]
  refine survives_of_reads envelope.members apart fun members order => ?_
  refine reads_record (adds ordered small _) apart ?_ rfl ?_ order
  · simp [ResponseEnvelope.members, shape, Field.required, Field.defaulted]
  · intro seen all
    simp only [ResponseEnvelope.members, List.map_cons, List.forall_mem_cons] at all
    obtain ⟨statusCode, headers, body, -⟩ := all
    simp only [part, statusCode, headers, body, if_true]

end ResponseEnvelope

end RequestHub
