import RequestHub.Proofs.Except
import RequestHub.Proofs.Log.Placeholders
import RequestHub.Proofs.Names

/-!
# Templates expand once, and all of them or none

What a template expands to is the text of its scan: a placeholder with a known name stands for what the
request or the response holds, and whatever that is, it is not scanned again.  A record has each name of the
fields once, where it comes first, with the text of the template that comes last under it.  There is a record
if all placeholders of all templates have known names; otherwise the first one that has none is told.
-/

namespace RequestHub.Log.Template

/-! ## Known names -/

/-- The names that stand for one thing each. -/
def fixedNames : List String :=
  ["Request.Body", "Request.Method", "Request.URL.Path", "Request.ID", "Request.APIName",
    "Request.ServiceName", "Response.StatusCode", "Response.Body"]

/-- A name that a placeholder may have: one of the fixed names, or a header field that is named somehow. -/
def Known (name : String) : Prop :=
  name ∈ fixedNames ∨ ∃ header, header ≠ "" ∧ name = "Request.Header." ++ header

/-- What a known name stands for. -/
inductive Stands (request : Request) : String → String → Prop where
  | body : Stands request "Request.Body" (Bytes.decodeLossy request.body)
  | method : Stands request "Request.Method" request.method.name
  | path : Stands request "Request.URL.Path" request.uri.path
  | id : Stands request "Request.ID" request.id.text
  | api : Stands request "Request.APIName" request.route.api
  | service : Stands request "Request.ServiceName" request.route.service
  | status {response : Response} (answered : request.response = some response) :
      Stands request "Response.StatusCode" (toString response.status.code)
  | noStatus (unanswered : request.response = none) : Stands request "Response.StatusCode" ""
  | reply {response : Response} (answered : request.response = some response) :
      Stands request "Response.Body" (Bytes.decodeLossy response.body)
  | noReply (unanswered : request.response = none) : Stands request "Response.Body" ""
  /-- The first value of a header field, if it is visible text. -/
  | header {header lower text : String} (filled : header ≠ "")
      (named : Headers.name? header = some lower)
      (held : request.headers.text? lower = some text) :
      Stands request ("Request.Header." ++ header) text
  /-- Nothing, if there is no such value or no header field can be named so. -/
  | noHeader {header : String} (filled : header ≠ "")
      (missing : ∀ lower, Headers.name? header = some lower → request.headers.text? lower = none) :
      Stands request ("Request.Header." ++ header) ""

variable {request : Request} {name text : String}

theorem fixedField?_eq_none (unknown : name ∉ fixedNames) : fixedField? request name = none := by
  unfold fixedField?
  split <;> first | rfl | exact absurd (by decide) unknown

theorem not_mem_fixedNames (header : String) : "Request.Header." ++ header ∉ fixedNames := by
  have apart : ∀ name ∈ fixedNames, Text.dropLead? headerLead name.toList = none := by decide
  intro member
  have led : Text.dropLead? headerLead ("Request.Header." ++ header).toList = some header.toList :=
    (Text.dropLead?_eq_some_iff ..).mpr String.toList_append
  rw [apart _ member] at led
  cases led

theorem headerField?_append
    (request : Request)
    {header : String}
    (filled : header ≠ "") :
    headerField? request ("Request.Header." ++ header) =
      some (((Headers.name? header).bind request.headers.text?).getD "") := by
  have led : Text.dropLead? headerLead ("Request.Header." ++ header).toList = some header.toList :=
    (Text.dropLead?_eq_some_iff ..).mpr String.toList_append
  rw [headerField?, led]
  cases split : header.toList with
  | nil => exact absurd (String.toList_eq_nil_iff.mp split) filled
  | cons char chars =>
      have whole : String.ofList (char :: chars) = header := by rw [← split, String.ofList_toList]
      rw [← whole]

theorem resolve_header
    (request : Request)
    {header : String}
    (filled : header ≠ "") :
    resolve request ("Request.Header." ++ header) =
      .ok (((Headers.name? header).bind request.headers.text?).getD "") := by
  rw [resolve, fixedField?_eq_none (not_mem_fixedNames header), headerField?_append request filled]
  rfl

/-- A known name is resolved to what it stands for. -/
theorem resolve_of_stands (stands : Stands request name text) :
    resolve request name = .ok text := by
  cases stands with
  | status answered => simp [resolve, fixedField?, answered]
  | noStatus unanswered => simp [resolve, fixedField?, unanswered]
  | reply answered => simp [resolve, fixedField?, answered]
  | noReply unanswered => simp [resolve, fixedField?, unanswered]
  | header filled named held => rw [resolve_header request filled, named, Option.bind_some, held]; rfl
  | @noHeader header filled missing =>
      rw [resolve_header request filled]
      cases named : Headers.name? header with
      | none => rfl
      | some lower => rw [Option.bind_some, missing lower named]; rfl
  | _ => rfl

theorem headerField?_eq_none
    (unknown : ∀ header, header ≠ "" → name ≠ "Request.Header." ++ header) :
    headerField? request name = none := by
  rw [headerField?]
  split
  · rename_i char chars led
    have split := (Text.dropLead?_eq_some_iff ..).mp led
    have joined : ("Request.Header." ++ String.ofList (char :: chars)).toList =
        headerLead ++ char :: chars :=
      String.toList_append.trans (congrArg (headerLead ++ ·) String.toList_ofList)
    have filled : String.ofList (char :: chars) ≠ "" := mt (congrArg String.toList) (by simp)
    exact absurd (String.toList_inj.mp (split.trans joined.symm)) (unknown _ filled)
  · rfl

theorem resolve_of_unknown (unknown : ¬ Known name) :
    resolve request name = .error (.unknownTemplate name) := by
  obtain ⟨unfixed, unheaded⟩ := not_or.mp unknown
  have missing : headerField? request name = none :=
    headerField?_eq_none fun header filled same => unheaded ⟨header, filled, same⟩
  rw [resolve, fixedField?_eq_none unfixed, Option.orElse_none, missing]

/-- Every known name stands for something, whether there is a response or not. -/
theorem exists_stands
    (request : Request)
    (known : Known name) :
    ∃ text, Stands request name text := by
  obtain fixed | ⟨header, filled, rfl⟩ := known
  · simp only [fixedNames, List.mem_cons, List.not_mem_nil, or_false] at fixed
    rcases fixed with rfl | rfl | rfl | rfl | rfl | rfl | rfl | rfl
    · exact ⟨_, .body⟩
    · exact ⟨_, .method⟩
    · exact ⟨_, .path⟩
    · exact ⟨_, .id⟩
    · exact ⟨_, .api⟩
    · exact ⟨_, .service⟩
    · cases answered : request.response with
      | none => exact ⟨_, .noStatus answered⟩
      | some response => exact ⟨_, .status answered⟩
    · cases answered : request.response with
      | none => exact ⟨_, .noReply answered⟩
      | some response => exact ⟨_, .reply answered⟩
  · cases held : (Headers.name? header).bind request.headers.text? with
    | none => exact ⟨_, .noHeader filled (Option.bind_eq_none_iff.mp held)⟩
    | some text =>
        obtain ⟨lower, named, found⟩ := Option.bind_eq_some_iff.mp held
        exact ⟨_, .header filled named found⟩

/-! ## One template -/

/-- The characters that parts of a template stand for: what comes of a placeholder is put in as it is. -/
inductive Shows (request : Request) : List Piece → List Char → Prop where
  | nil : Shows request [] []
  | plain {char : Char} {parts : List Piece} {chars : List Char}
      (behind : Shows request parts chars) :
      Shows request (.plain char :: parts) (char :: chars)
  | field {name text : String} {parts : List Piece} {chars : List Char}
      (stands : Stands request name text)
      (behind : Shows request parts chars) :
      Shows request (.field name :: parts) (text.toList ++ chars)

/-- A name is the first one in parts of a template that is not known. -/
def FirstUnknown (parts : List Piece) (name : String) : Prop :=
  ∃ before after, parts = before ++ .field name :: after ∧
    (∀ {other}, .field other ∈ before → Known other) ∧ ¬ Known name

/-- The text that a template expands to. -/
def Expands (request : Request) (template text : String) : Prop :=
  ∃ parts chars, Scans template.toList parts ∧ Shows request parts chars ∧ text = String.ofList chars

/-- The name at which a template cannot be expanded. -/
def Stops (template name : String) : Prop :=
  ∃ parts, Scans template.toList parts ∧ FirstUnknown parts name

variable {parts : List Piece} {chars : List Char} {template : String}

theorem FirstUnknown.cons
    {part : Piece}
    (known : ∀ {other}, part = .field other → Known other)
    (unknown : FirstUnknown parts name) :
    FirstUnknown (part :: parts) name := by
  obtain ⟨before, after, rfl, all, missing⟩ := unknown
  refine ⟨part :: before, after, rfl, fun {other} member => ?_, missing⟩
  rcases List.mem_cons.mp member with same | later
  · exact known same.symm
  · exact all later

/-- If not all names are known, there is a first one that is not. -/
theorem exists_firstUnknown
    (member : .field name ∈ parts)
    (unknown : ¬ Known name) :
    ∃ first, FirstUnknown parts first := by
  induction parts with
  | nil => cases member
  | cons part parts ih =>
      by_cases known : ∀ {other}, part = .field other → Known other
      · have later : .field name ∈ parts :=
          (List.mem_cons.mp member).resolve_left fun same => unknown (known same.symm)
        obtain ⟨first, found⟩ := ih later
        exact ⟨first, found.cons known⟩
      · obtain ⟨first, here⟩ := Classical.not_forall.mp known
        obtain ⟨rfl, missing⟩ := Classical.not_imp.mp here
        exact ⟨first, [], parts, rfl, fun member => (nomatch member), missing⟩

theorem exists_shows
    (request : Request)
    (known : ∀ {name}, .field name ∈ parts → Known name) :
    ∃ chars, Shows request parts chars := by
  induction parts with
  | nil => exact ⟨[], .nil⟩
  | cons part parts ih =>
      obtain ⟨chars, behind⟩ := ih fun member => known (List.mem_cons_of_mem _ member)
      cases part with
      | plain char => exact ⟨_, .plain behind⟩
      | field name =>
          obtain ⟨text, stands⟩ := exists_stands request (known List.mem_cons_self)
          exact ⟨_, .field stands behind⟩

theorem expandPieces_of_shows (shows_chars : Shows request parts chars) :
    expandPieces request parts = .ok chars := by
  induction shows_chars with
  | nil => rfl
  | plain _ ih => rw [expandPieces, ih]; rfl
  | field stands _ ih => rw [expandPieces, resolve_of_stands stands, ih]; rfl

theorem expandPieces_of_firstUnknown
    (request : Request)
    (unknown : FirstUnknown parts name) :
    expandPieces request parts = .error (.unknownTemplate name) := by
  obtain ⟨before, after, rfl, known, missing⟩ := unknown
  induction before with
  | nil => rw [List.nil_append, expandPieces, resolve_of_unknown missing]; rfl
  | cons part before ih =>
      have stopped := ih fun member => known (List.mem_cons_of_mem _ member)
      cases part with
      | plain char => rw [List.cons_append, expandPieces, stopped]; rfl
      | field first =>
          obtain ⟨text, stands⟩ := exists_stands request (known List.mem_cons_self)
          rw [List.cons_append, expandPieces, resolve_of_stands stands, stopped]
          rfl

theorem expand_of_expands (expands : Expands request template text) :
    expand request template = .ok text := by
  obtain ⟨parts, chars, scans, shows_chars, rfl⟩ := expands
  rw [expand, ← scans.eq_pieces, expandPieces_of_shows shows_chars]
  rfl

theorem expand_of_stops
    (request : Request)
    (stops : Stops template name) :
    expand request template = .error (.unknownTemplate name) := by
  obtain ⟨parts, scans, unknown⟩ := stops
  rw [expand, ← scans.eq_pieces, expandPieces_of_firstUnknown request unknown]
  rfl

/-- A template stops somewhere if it has a placeholder whose name is not known. -/
theorem exists_stops_iff :
    (∃ name, Stops template name) ↔
      ∃ parts name, Scans template.toList parts ∧ .field name ∈ parts ∧ ¬ Known name := by
  constructor
  · rintro ⟨name, _, scans, before, after, rfl, -, unknown⟩
    exact ⟨_, name, scans, by simp, unknown⟩
  · rintro ⟨parts, name, scans, member, unknown⟩
    obtain ⟨first, found⟩ := exists_firstUnknown member unknown
    exact ⟨first, parts, scans, found⟩

theorem expands_or_stops
    (request : Request)
    (template : String) :
    (∃ text, Expands request template text) ∨ ∃ name, Stops template name := by
  by_cases stops : ∃ name, Stops template name
  · exact .inr stops
  · have known : ∀ {name}, .field name ∈ pieces template.toList → Known name := by
      intro name member
      refine Classical.byContradiction fun unknown => stops (exists_stops_iff.mpr ?_)
      exact ⟨_, name, scans_pieces _, member, unknown⟩
    obtain ⟨chars, behind⟩ := exists_shows request known
    exact .inl ⟨_, _, chars, scans_pieces _, behind, rfl⟩

theorem Expands.unique
    {other : String}
    (expands : Expands request template text)
    (again : Expands request template other) :
    text = other :=
  Except.ok.inj ((expand_of_expands expands).symm.trans (expand_of_expands again))

/-! ## Records -/

/-- A record of the texts of some fields: every template expands, and the last one of a name counts. -/
structure Record (request : Request) (fields record : List (String × String)) : Prop where
  whole : ∀ field ∈ fields, ∃ text, Expands request field.2 text
  names : record.map (·.1) = (fields.map (·.1)).eraseDups
  values : ∀ {name text}, (name, text) ∈ record ↔
    ∃ template, Names.lastUnder name fields = some template ∧ Expands request template text

/-- The name at which some fields cannot be rendered: the first one of the first template that has any. -/
def Fails (fields : List (String × String)) (name : String) : Prop :=
  ∃ before field after, fields = before ++ field :: after ∧
    (∀ other ∈ before, ∀ name, ¬ Stops other.2 name) ∧ Stops field.2 name

variable {fields record pairs : List (String × String)}

theorem eraseDups_concat (names : List String) (name : String) :
    (names ++ [name]).eraseDups =
      if name ∈ names then names.eraseDups else names.eraseDups ++ [name] := by
  rw [List.eraseDups_append, List.removeAll]
  split
  · rename_i member
    simp [member]
  · rename_i missing
    simp [missing, List.eraseDups_cons]

theorem nodup_eraseDups (names : List String) : names.eraseDups.Nodup := by
  induction names using List.reverseRecOn with
  | nil => exact List.nodup_nil
  | append_singleton names name ih =>
      rw [eraseDups_concat]
      split
      · exact ih
      · rename_i missing
        have new : name ∉ names.eraseDups := mt List.mem_eraseDups.mp missing
        exact List.nodup_append.mpr ⟨ih, List.nodup_singleton name, fun other member _ last same =>
          new (List.mem_singleton.mp last ▸ same ▸ member)⟩

theorem map_fst_put (name text : String) (pairs : List (String × String)) :
    (put name text pairs).map (·.1) =
      if name ∈ pairs.map (·.1) then pairs.map (·.1) else pairs.map (·.1) ++ [name] := by
  induction pairs with
  | nil => rfl
  | cons pair pairs ih =>
      rw [put]
      split
      · rename_i same
        simp [same]
      · rename_i different
        rw [List.map_cons, ih, List.map_cons]
        simp only [List.mem_cons, Ne.symm different, false_or]
        split <;> rfl

/-- A name is bound to what was put under it, and no other name is touched. -/
theorem mem_put
    {other value : String}
    (apart : (pairs.map (·.1)).Nodup) :
    (name, text) ∈ put other value pairs ↔
      if name = other then text = value else (name, text) ∈ pairs := by
  induction pairs with
  | nil => simp [put]
  | cons pair pairs ih =>
      obtain ⟨first, apart⟩ := List.nodup_cons.mp apart
      rw [put]
      split
      · rename_i here
        have elsewhere : (other, text) ∉ pairs := fun member =>
          first (List.mem_map.mpr ⟨_, member, here.symm⟩)
        by_cases same : name = other
        · subst same
          simp [elsewhere]
        · have different : name ≠ pair.1 := fun equal => same (equal.trans here)
          simp [same, Prod.ext_iff, different]
      · rename_i there
        rw [List.mem_cons, ih apart, List.mem_cons]
        by_cases same : name = other
        · subst same
          simp [Prod.ext_iff, Ne.symm there]
        · simp [same]

/-- A field behind others that are rendered puts its text under its name, if its template expands. -/
theorem render_append_cons
    (rendered : render request fields = .ok record)
    (field : String × String)
    (after : List (String × String)) :
    render request (fields ++ field :: after) =
      (expand request field.2).bind fun text =>
        after.foldlM
          (fun pairs (name, template) => do return put name (← expand request template) pairs)
          (put field.1 text record) := by
  rw [render] at rendered ⊢
  rw [List.foldlM_append, rendered]
  simp only [except_ok_bind, List.foldlM_cons]
  cases expand request field.2 <;> rfl

/-- A record with one more field. -/
theorem Record.concat
    {field : String × String}
    (held : Record request fields record)
    (expands : Expands request field.2 text) :
    Record request (fields ++ [field]) (put field.1 text record) where
  whole := by
    intro other member
    rcases List.mem_append.mp member with before | last
    · exact held.whole other before
    · obtain rfl := List.mem_singleton.mp last
      exact ⟨text, expands⟩
  names := by
    rw [map_fst_put, held.names, List.map_append, List.map_singleton, eraseDups_concat]
    simp only [List.mem_eraseDups]
  values := by
    intro name value
    rw [mem_put (held.names ▸ nodup_eraseDups _), held.values, Names.lastUnder_concat]
    split
    · constructor
      · rintro rfl
        exact ⟨field.2, rfl, expands⟩
      · rintro ⟨template, same, again⟩
        obtain rfl := Option.some.inj same
        exact again.unique expands
    · exact Iff.rfl

/-- Pairs with different names are the same as others with the same names, if they are among them. -/
theorem eq_of_map_fst
    {others : List (String × String)}
    (apart : (pairs.map (·.1)).Nodup)
    (names : pairs.map (·.1) = others.map (·.1))
    (within : ∀ pair ∈ pairs, pair ∈ others) :
    pairs = others := by
  induction pairs generalizing others with
  | nil => exact (List.map_eq_nil_iff.mp names.symm).symm
  | cons pair pairs ih =>
      obtain ⟨first, apart⟩ := List.nodup_cons.mp apart
      cases others with
      | nil => cases names
      | cons other others =>
          have behind : pairs.map (·.1) = others.map (·.1) := List.tail_eq_of_cons_eq names
          have here : pair = other := by
            refine (List.mem_cons.mp (within pair List.mem_cons_self)).resolve_right fun later => ?_
            exact first (behind ▸ List.mem_map_of_mem later)
          subst here
          refine congrArg (pair :: ·) (ih apart behind fun next member => ?_)
          refine (List.mem_cons.mp (within next (List.mem_cons_of_mem _ member))).resolve_left ?_
          rintro rfl
          exact first (List.mem_map_of_mem member)

/-- Nothing is left open: there is one such record. -/
theorem Record.unique
    {other : List (String × String)}
    (held : Record request fields record)
    (again : Record request fields other) :
    record = other :=
  eq_of_map_fst (held.names ▸ nodup_eraseDups _) (held.names.trans again.names.symm)
    fun _ member => again.values.mpr (held.values.mp member)

/-- Fields whose templates all expand are rendered to their record. -/
theorem exists_render
    (whole : ∀ field ∈ fields, ∃ text, Expands request field.2 text) :
    ∃ record, render request fields = .ok record ∧ Record request fields record := by
  induction fields using List.reverseRecOn with
  | nil => exact ⟨[], rfl, fun _ member => (nomatch member), rfl, by simp [Names.lastUnder]⟩
  | append_singleton fields field ih =>
      obtain ⟨record, rendered, held⟩ := ih fun other member =>
        whole other (List.mem_append_left _ member)
      obtain ⟨text, expands⟩ := whole field (List.mem_append_right _ (List.mem_singleton_self _))
      refine ⟨_, ?_, held.concat expands⟩
      rw [render_append_cons rendered, expand_of_expands expands]
      rfl

theorem render_of_fails
    (request : Request)
    (fails : Fails fields name) :
    render request fields = .error (.unknownTemplate name) := by
  obtain ⟨before, field, after, rfl, earlier, stops⟩ := fails
  have whole : ∀ other ∈ before, ∃ text, Expands request other.2 text := fun other member =>
    (expands_or_stops request other.2).resolve_right fun ⟨name, stops⟩ => earlier other member name stops
  obtain ⟨record, rendered, -⟩ := exists_render whole
  rw [render_append_cons rendered, expand_of_stops request stops]
  rfl

/-- If some template stops, there is a first one that does. -/
theorem exists_fails
    {field : String × String}
    (member : field ∈ fields)
    (stops : Stops field.2 name) :
    ∃ first, Fails fields first := by
  induction fields with
  | nil => cases member
  | cons other fields ih =>
      by_cases here : ∃ first, Stops other.2 first
      · obtain ⟨first, here⟩ := here
        exact ⟨first, [], other, fields, rfl, fun _ member => (nomatch member), here⟩
      · have later : field ∈ fields := by
          refine (List.mem_cons.mp member).resolve_left ?_
          rintro rfl
          exact here ⟨name, stops⟩
        obtain ⟨first, before, next, after, rfl, earlier, found⟩ := ih later
        refine ⟨first, other :: before, next, after, rfl, ?_, found⟩
        exact List.forall_mem_cons.mpr ⟨fun name stops => here ⟨name, stops⟩, earlier⟩

theorem render_eq_error_iff
    (request : Request)
    {fault : PluginFault} :
    render request fields = .error fault ↔ ∃ name, Fails fields name ∧ fault = .unknownTemplate name := by
  constructor
  · intro failed
    by_cases fails : ∃ name, Fails fields name
    · obtain ⟨name, fails⟩ := fails
      rw [render_of_fails request fails] at failed
      exact ⟨name, fails, (Except.error.inj failed).symm⟩
    · have whole : ∀ field ∈ fields, ∃ text, Expands request field.2 text := fun field member =>
        (expands_or_stops request field.2).resolve_right fun ⟨_, stops⟩ =>
          fails (exists_fails member stops)
      obtain ⟨record, rendered, -⟩ := exists_render whole
      cases rendered.symm.trans failed
  · rintro ⟨name, fails, rfl⟩
    exact render_of_fails request fails

theorem render_eq_ok_iff : render request fields = .ok record ↔ Record request fields record := by
  constructor
  · intro rendered
    have whole : ∀ field ∈ fields, ∃ text, Expands request field.2 text := by
      intro field member
      refine (expands_or_stops request field.2).resolve_right fun ⟨_, stops⟩ => ?_
      obtain ⟨name, fails⟩ := exists_fails member stops
      cases rendered.symm.trans (render_of_fails request fails)
    obtain ⟨other, again, held⟩ := exists_render whole
    obtain rfl := Except.ok.inj (again.symm.trans rendered)
    exact held
  · intro held
    obtain ⟨other, rendered, again⟩ := exists_render held.whole
    rw [rendered, again.unique held]

/--
There is a record if every template expands; otherwise the first name that is not known is told, of the first
template that has one.  So a name is told if any placeholder has a name that is not known.  What counts as a
placeholder is settled by the scan, of which there is one for each template, and by the search for the pattern,
which takes a template apart in the same way.
-/
theorem render_all_or_nothing
    (request : Request)
    (fields : List (String × String)) :
    (∀ {record}, render request fields = .ok record ↔ Record request fields record) ∧
      (∀ {fault}, render request fields = .error fault ↔
        ∃ name, Fails fields name ∧ fault = .unknownTemplate name) ∧
      ((∃ name, Fails fields name) ↔
        ∃ field ∈ fields, ∃ parts name,
          Scans field.2.toList parts ∧ .field name ∈ parts ∧ ¬ Known name) ∧
      ∀ chars, (∃! parts, Scans chars parts) ∧
        ∀ {parts}, Finds chars parts ↔ Scans chars parts := by
  refine ⟨render_eq_ok_iff, render_eq_error_iff request, ?_, fun chars => ⟨?_, finds_iff_scans⟩⟩
  · constructor
    · rintro ⟨name, before, field, after, rfl, -, stops⟩
      exact ⟨field, by simp, exists_stops_iff.mp ⟨name, stops⟩⟩
    · rintro ⟨field, member, unknown⟩
      obtain ⟨name, stops⟩ := exists_stops_iff.mpr unknown
      exact exists_fails member stops
  · exact ⟨pieces chars, scans_pieces chars, fun parts scans => scans.eq_pieces⟩

-- The braces around the placeholder stay, and so does what its value would be as a template.
example :
    (render
      (Request.make ⟨0⟩ .post ⟨none, "", "/", none⟩ [] []
        (Bytes.ofString "\x7b\x7bRequest.ID\x7d\x7d $1"))
      [("a", "b"), ("c", "\x7b\x7b\x7b Request.Body \x7d\x7d\x7d"), ("a", "")]).toOption =
      some [("a", ""), ("c", "\x7b\x7b\x7bRequest.ID\x7d\x7d $1\x7d")] := by
  decide +kernel

end RequestHub.Log.Template
