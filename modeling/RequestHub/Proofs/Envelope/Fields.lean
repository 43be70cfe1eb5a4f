import RequestHub.Proofs.Envelope.Reading
import RequestHub.Proofs.Except

/-!
# Header fields behind a hop

An envelope holds the values of header fields as texts, under names that need not be small.  Values of the
visible range are texts, and are read back in their order; what no header field can have is refused.
-/

namespace RequestHub

/-! ## Values of the visible range -/

theorem utf8EncodeChar_small : ∀ number < 0x80,
    String.utf8EncodeChar (Char.ofNat number) = [.ofNat number] := by
  decide

theorem Bytes.utf8EncodeChar_of_visible {byte : UInt8} (visible : Bytes.isVisible byte = true) :
    String.utf8EncodeChar (Char.ofNat byte.toNat) = [byte] := by
  have small : byte.toNat < 0x80 := by
    simp only [Bytes.isVisible, Bool.or_eq_true, Bool.and_eq_true, decide_eq_true_eq,
      UInt8.lt_iff_toNat_lt, beq_iff_eq] at visible
    rcases visible with ⟨_, below⟩ | rfl
    · exact Nat.lt_trans below (by decide)
    · decide
  rw [utf8EncodeChar_small byte.toNat small, UInt8.ofNat_toNat]

/-- A value of the visible range has a text, and the text has the bytes of the value. -/
theorem Bytes.visibleText?_of_visible {value : Bytes} (visible : value.all Bytes.isVisible = true) :
    ∃ text, Bytes.visibleText? value = some text ∧ Bytes.ofString text = value := by
  refine ⟨_, if_pos visible, ?_⟩
  rw [Bytes.ofString_ofList]
  induction value with
  | nil => rfl
  | cons byte value ih =>
      obtain ⟨first, others⟩ := Bool.and_eq_true_iff.mp (List.all_cons.symm.trans visible)
      rw [List.map_cons, List.flatMap_cons, Bytes.utf8EncodeChar_of_visible first, ih others]
      rfl

theorem isValueByte_of_visible {byte : UInt8} (visible : Bytes.isVisible byte = true) :
    Headers.isValueByte byte = true := by
  simp only [Bytes.isVisible, Headers.isValueByte, Bool.or_eq_true, Bool.and_eq_true,
    decide_eq_true_eq, bne_iff_ne] at visible ⊢
  refine visible.imp_left fun ⟨low, high⟩ => ⟨low, ?_⟩
  rintro rfl
  exact absurd high (by decide)

/-! ## Legal header fields -/

/-- A text can be the name of a header field. -/
def IsFieldName (text : String) : Prop :=
  text ≠ "" ∧ text.utf8ByteSize < twoTo 16 ∧ ∀ char ∈ text.toList, Method.isTokenChar char = true

/-- A text can be a value of a header field. -/
def IsFieldText (text : String) : Prop :=
  ∀ byte ∈ Bytes.ofString text, Headers.isValueByte byte = true

/-- The names and the values of written fields can be those of header fields. -/
def WireHeaders.Legal (wire : WireHeaders) : Prop :=
  ∀ pair ∈ wire, IsFieldName pair.1 ∧ ∀ text ∈ pair.2, IsFieldText text

theorem WireHeaders.not_legal_iff (wire : WireHeaders) :
    ¬ wire.Legal ↔ ∃ name texts, (name, texts) ∈ wire ∧
      (¬ IsFieldName name ∨ ∃ text ∈ texts, ¬ IsFieldText text) := by
  simp [WireHeaders.Legal, imp_iff_not_or]

/-- Header fields as a response has them: names in order and in their small form. -/
structure Headers.Formed (headers : Headers) : Prop where
  ordered : headers.Ordered
  small : ∀ pair ∈ headers, Headers.name? pair.1 = some pair.1

/-- All values of header fields are of the visible range. -/
def Headers.Visible (headers : Headers) : Prop :=
  ∀ pair ∈ headers, ∀ value ∈ pair.2, value.all Bytes.isVisible = true

theorem Headers.name?_isSome_iff (text : String) :
    (∃ small, Headers.name? text = some small) ↔ IsFieldName text := by
  have conditions : (!text.isEmpty && text.utf8ByteSize < twoTo 16 &&
      text.toList.all Method.isTokenChar) = true ↔ IsFieldName text := by
    simp [IsFieldName, and_assoc]
  rw [← conditions, Headers.name?]
  split <;> simp_all

theorem Headers.isValue_ofString_iff (text : String) :
    Headers.isValue (Bytes.ofString text) = true ↔ IsFieldText text :=
  List.all_eq_true

/-! ## The small form of a name -/

theorem toNat_lt_of_isTokenChar {char : Char} (token : Method.isTokenChar char = true) :
    char.toNat < 0x80 := by
  have marks : "!#$%&'*+-.^_`|~".toList.all (fun char => char.toNat < 0x80) = true := by
    decide
  rw [Method.isTokenChar, Bool.or_eq_true, List.contains_iff_mem] at token
  rcases token with letter | mark
  · have code : char.toNat = char.val.toNat := rfl
    unfold Char.isAlphanum Char.isAlpha Char.isUpper Char.isLower Char.isDigit at letter
    simp [UInt32.le_iff_toNat_le] at letter
    omega
  · exact of_decide_eq_true (List.all_eq_true.mp marks char mark)

theorem toLower_spec : ∀ number < 0x80, Method.isTokenChar (Char.ofNat number) = true →
    Method.isTokenChar (Char.ofNat number).toLower = true ∧
      (Char.ofNat number).toLower.toLower = (Char.ofNat number).toLower ∧
        (Char.ofNat number).toLower.utf8Size = (Char.ofNat number).utf8Size := by
  decide

theorem toLower_of_isTokenChar {char : Char} (token : Method.isTokenChar char = true) :
    Method.isTokenChar char.toLower = true ∧ char.toLower.toLower = char.toLower ∧
      char.toLower.utf8Size = char.utf8Size := by
  have spec := toLower_spec char.toNat (toNat_lt_of_isTokenChar token)
  rw [Char.ofNat_toNat] at spec
  exact spec token

theorem lowerAscii_of_token
    {chars : List Char} (token : ∀ char ∈ chars, Method.isTokenChar char = true) :
    (∀ char ∈ chars.map Char.toLower, Method.isTokenChar char = true) ∧
      (chars.map Char.toLower).map Char.toLower = chars.map Char.toLower ∧
      (String.ofList (chars.map Char.toLower)).utf8ByteSize =
        (String.ofList chars).utf8ByteSize := by
  induction chars with
  | nil => exact ⟨fun _ member => absurd member List.not_mem_nil, rfl, rfl⟩
  | cons char chars ih =>
      obtain ⟨first, others⟩ := List.forall_mem_cons.mp token
      obtain ⟨again, same, size⟩ := toLower_of_isTokenChar first
      obtain ⟨tokens, fixed, sizes⟩ := ih others
      refine ⟨List.forall_mem_cons.mpr ⟨again, tokens⟩, ?_, ?_⟩
      · rw [List.map_cons, List.map_cons, same, fixed]
      · simp [String.ofList_cons, size, sizes]

/-- The small form of a name is its own small form. -/
theorem Headers.name?_small {text small : String} (found : Headers.name? text = some small) :
    Headers.name? small = some small := by
  rw [Headers.name?] at found
  split at found
  · rename_i legal
    obtain rfl := Option.some.inj found
    simp only [Bool.and_eq_true, Bool.not_eq_true', decide_eq_true_eq, List.all_eq_true] at legal
    obtain ⟨⟨filled, short⟩, token⟩ := legal
    obtain ⟨tokens, fixed, size⟩ := lowerAscii_of_token token
    rw [String.ofList_toList] at size
    have still_filled : (Text.lowerAscii text).isEmpty = false := by
      rw [String.isEmpty, Text.lowerAscii, size]
      exact filled
    have still_tokens : (Text.lowerAscii text).toList.all Method.isTokenChar = true := by
      rw [Text.lowerAscii, String.toList_ofList]
      exact List.all_eq_true.mpr tokens
    have still_short : (Text.lowerAscii text).utf8ByteSize < twoTo 16 := by
      rwa [Text.lowerAscii, size]
    have same : Text.lowerAscii (Text.lowerAscii text) = Text.lowerAscii text := by
      rw [Text.lowerAscii, Text.lowerAscii, String.toList_ofList, fixed]
    simp [Headers.name?, still_filled, still_tokens, still_short, same]
  · cases found

/-! ## Fields that are added -/

theorem Headers.Formed.nil : Headers.Formed [] :=
  ⟨.nil, fun _ member => absurd member List.not_mem_nil⟩

theorem Headers.Formed.append
    {headers : Headers} (formed : headers.Formed) {name : String}
    (small : Headers.name? name = some name) (value : Bytes) : (headers.append name value).Formed where
  ordered := Names.ordered_insert formed.ordered
  small := fun pair member => by
    rcases Names.mem_insert member with rfl | earlier
    · exact small
    · exact formed.small pair earlier

namespace WireHeaders

/-- The values that are written for a name, whatever the case of its letters is. -/
def valuesAt (wire : WireHeaders) (name : String) : List Bytes :=
  wire.flatMap fun pair =>
    if Headers.name? pair.1 = some name then pair.2.map Bytes.ofString else []

theorem addValues_of_legal
    {texts : List String} (legal : ∀ text ∈ texts, IsFieldText text) (headers : Headers)
    (name : String) :
    ∃ added, addValues headers name texts = .ok added ∧
      (∀ other, added.values other =
        headers.values other ++ if name = other then texts.map Bytes.ofString else []) ∧
      (headers.Formed → Headers.name? name = some name → added.Formed) := by
  induction texts generalizing headers with
  | nil => exact ⟨headers, rfl, fun other => by simp, fun formed _ => formed⟩
  | cons text texts ih =>
      obtain ⟨first, others⟩ := List.forall_mem_cons.mp legal
      obtain ⟨added, run, values, forms⟩ := ih others (headers.append name (Bytes.ofString text))
      refine ⟨added, ?_, fun other => ?_, fun formed small => forms (formed.append small _) small⟩
      · rw [addValues, if_pos ((Headers.isValue_ofString_iff text).mpr first), run]
      · rw [values, Headers.values_append, List.append_assoc]
        split <;> rfl

theorem addValues_of_not_legal
    {texts : List String} (illegal : ¬ ∀ text ∈ texts, IsFieldText text) (headers : Headers)
    (name : String) : ∃ message, addValues headers name texts = .error (.malformedReply message) := by
  induction texts generalizing headers with
  | nil => exact absurd (fun _ member => absurd member List.not_mem_nil) illegal
  | cons text texts ih =>
      by_cases first : IsFieldText text
      · have others : ¬ ∀ text ∈ texts, IsFieldText text := fun others =>
          illegal (List.forall_mem_cons.mpr ⟨first, others⟩)
        rw [addValues, if_pos ((Headers.isValue_ofString_iff text).mpr first)]
        exact ih others _
      · have refused := mt (Headers.isValue_ofString_iff text).mp first
        exact ⟨_, by rw [addValues, if_neg refused]⟩

/-- Legal fields are added, each behind the values that its name has already. -/
theorem addAll_of_legal {wire : WireHeaders} (legal : wire.Legal) (headers : Headers) :
    ∃ added, addAll headers wire = .ok added ∧
      (∀ name, added.values name = headers.values name ++ wire.valuesAt name) ∧
      (headers.Formed → added.Formed) := by
  induction wire generalizing headers with
  | nil => exact ⟨headers, rfl, fun name => (List.append_nil _).symm, fun formed => formed⟩
  | cons pair wire ih =>
      obtain ⟨name, texts⟩ := pair
      obtain ⟨⟨named, texted⟩, others⟩ := List.forall_mem_cons.mp legal
      obtain ⟨small, found⟩ := (Headers.name?_isSome_iff name).mpr named
      obtain ⟨between, first, values, forms⟩ := addValues_of_legal texted headers small
      obtain ⟨added, run, rest, others_form⟩ := ih others between
      refine ⟨added, ?_, fun other => ?_,
        fun formed => others_form (forms formed (Headers.name?_small found))⟩
      · simp only [addAll, found, first, except_ok_bind]
        exact run
      · rw [rest, values, List.append_assoc]
        simp [valuesAt, found]

theorem addAll_of_not_legal {wire : WireHeaders} (illegal : ¬ wire.Legal) (headers : Headers) :
    ∃ message, addAll headers wire = .error (.malformedReply message) := by
  induction wire generalizing headers with
  | nil => exact absurd (fun _ member => absurd member List.not_mem_nil) illegal
  | cons pair wire ih =>
      obtain ⟨name, texts⟩ := pair
      by_cases named : IsFieldName name
      · obtain ⟨small, found⟩ := (Headers.name?_isSome_iff name).mpr named
        simp only [addAll, found]
        by_cases texted : ∀ text ∈ texts, IsFieldText text
        · obtain ⟨between, first, _, _⟩ := addValues_of_legal texted headers small
          rw [first, except_ok_bind]
          exact ih (fun others => illegal (List.forall_mem_cons.mpr ⟨⟨named, texted⟩, others⟩)) between
        · obtain ⟨message, first⟩ := addValues_of_not_legal texted headers small
          exact ⟨message, by rw [first, except_error_bind]⟩
      · have missing : Headers.name? name = none :=
          Option.eq_none_iff_forall_ne_some.mpr fun small found =>
            named ((Headers.name?_isSome_iff name).mp ⟨small, found⟩)
        exact ⟨_, by rw [addAll, missing]⟩

@[simp]
theorem toHeaders_eq_error_iff (wire : WireHeaders) :
    (∃ fault, wire.toHeaders = .error fault) ↔ ¬ wire.Legal := by
  constructor
  · rintro ⟨fault, failed⟩ legal
    obtain ⟨added, run, _, _⟩ := addAll_of_legal legal []
    rw [toHeaders, run] at failed
    cases failed
  · intro illegal
    obtain ⟨message, failed⟩ := addAll_of_not_legal illegal []
    exact ⟨_, failed⟩

/-! ## Fields that are written -/

/-- A name is written with the texts of its values, unless none of them has one. -/
theorem ofHeaders_cons (name : String) (values : List Bytes) (headers : Headers) :
    ofHeaders ((name, values) :: headers) =
      (if values.filterMap Bytes.visibleText? = [] then []
        else [(name, values.filterMap Bytes.visibleText?)]) ++ ofHeaders headers := by
  cases texts : values.filterMap Bytes.visibleText? <;> simp [ofHeaders, texts]

theorem mem_ofHeaders
    {headers : Headers} {pair : String × List String} (member : pair ∈ ofHeaders headers) :
    ∃ values, (pair.1, values) ∈ headers ∧ values.filterMap Bytes.visibleText? = pair.2 := by
  induction headers with
  | nil => exact absurd member List.not_mem_nil
  | cons first headers ih =>
      obtain ⟨name, values⟩ := first
      rw [ofHeaders_cons, List.mem_append] at member
      rcases member with here | later
      · split at here
        · exact absurd here List.not_mem_nil
        · obtain rfl := List.mem_singleton.mp here
          exact ⟨values, List.mem_cons_self, rfl⟩
      · obtain ⟨values, known, texts⟩ := ih later
        exact ⟨values, List.mem_cons_of_mem _ known, texts⟩

/-- The texts of values have the bytes of those values that are of the visible range. -/
theorem texts_eq_filter (values : List Bytes) :
    (values.filterMap Bytes.visibleText?).map Bytes.ofString =
      values.filter (·.all Bytes.isVisible) := by
  induction values with
  | nil => rfl
  | cons value values ih =>
      by_cases visible : value.all Bytes.isVisible = true
      · obtain ⟨text, shown, same⟩ := Bytes.visibleText?_of_visible visible
        rw [List.filterMap_cons, shown, List.map_cons, same, ih, List.filter_cons, if_pos visible]
      · have hidden : Bytes.visibleText? value = none := if_neg visible
        rw [List.filterMap_cons, hidden, ih, List.filter_cons, if_neg visible]

theorem ordered_ofHeaders {headers : Headers} (ordered : headers.Ordered) :
    (ofHeaders headers).Ordered := by
  induction headers with
  | nil => exact .nil
  | cons first headers ih =>
      obtain ⟨name, values⟩ := first
      obtain ⟨above, others⟩ := List.pairwise_cons.mp ordered
      rw [ofHeaders_cons]
      split
      · exact ih others
      · refine List.pairwise_cons.mpr ⟨fun pair member => ?_, ih others⟩
        obtain ⟨values, known, _⟩ := mem_ofHeaders member
        exact above _ known

theorem legal_ofHeaders {headers : Headers} (formed : headers.Formed) : (ofHeaders headers).Legal := by
  intro pair member
  obtain ⟨values, known, texts⟩ := mem_ofHeaders member
  refine ⟨(Headers.name?_isSome_iff pair.1).mp ⟨_, formed.small _ known⟩, fun text written => ?_⟩
  have bytes : Bytes.ofString text ∈ values.filter (·.all Bytes.isVisible) := by
    rw [← texts_eq_filter, texts]
    exact List.mem_map_of_mem written
  have visible := List.all_eq_true.mp (List.mem_filter.mp bytes).2
  exact fun byte inside => isValueByte_of_visible (visible byte inside)

/-- Under every name the values of the visible range are written, in their order. -/
theorem valuesAt_ofHeaders {headers : Headers} (formed : headers.Formed) (name : String) :
    (ofHeaders headers).valuesAt name = (headers.values name).filter (·.all Bytes.isVisible) := by
  induction headers with
  | nil => rfl
  | cons first headers ih =>
      obtain ⟨other, values⟩ := first
      obtain ⟨above, ordered⟩ := List.pairwise_cons.mp formed.ordered
      obtain ⟨small, others_small⟩ := List.forall_mem_cons.mp formed.small
      have rest := ih ⟨ordered, others_small⟩
      have here : (ofHeaders ((other, values) :: headers)).valuesAt name =
          (if other = name then values.filter (·.all Bytes.isVisible) else []) ++
            (ofHeaders headers).valuesAt name := by
        rw [ofHeaders_cons, valuesAt, List.flatMap_append, ← texts_eq_filter]
        refine congrArg (· ++ _) ?_
        split
        · rename_i none_shown
          simp [none_shown]
        · simp [small]
      rw [here, rest, Headers.values, Headers.values, Names.find?_cons]
      by_cases same : name = other
      · subst same
        have alone : Names.find? name headers = none := Names.find?_of_before above
        simp [alone]
      · simp [same, Ne.symm same]

end WireHeaders

/-- Where all values are of the visible range, no value is left out under any name. -/
theorem Headers.Formed.filter_values
    {headers : Headers} (formed : headers.Formed) (visible : headers.Visible) (name : String) :
    (headers.values name).filter (·.all Bytes.isVisible) = headers.values name := by
  refine List.filter_eq_self.mpr fun value held => ?_
  rw [Headers.values] at held
  cases found : headers.find? name with
  | none => simp [found] at held
  | some values =>
      rw [found] at held
      exact visible _ ((Names.find?_eq_some_iff formed.ordered name values).mp found) value held

end RequestHub
