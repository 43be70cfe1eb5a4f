import RequestHub.Proofs.Envelope.Fields
import RequestHub.Proofs.Names
import RequestHub.Proofs.Text.Utf8

/-!
# Header values that an envelope shows

An envelope holds header values as texts, and only bytes of the visible range are taken for texts.  So a
value that is no text at all is left out, but so is any text with a character beyond that range.  The main
statement says for all header fields which values are written, which are left out, and what is read back.
-/

namespace RequestHub

/-! ## Header fields as they are made -/

namespace Headers

/-- Header fields as they are made by adding values: no name is without a value, and every value is legal. -/
structure IsMap (headers : Headers) : Prop where
  formed : headers.Formed
  filled : ∀ pair ∈ headers, pair.2 ≠ []
  legal : ∀ pair ∈ headers, ∀ value ∈ pair.2, isValue value = true

theorem IsMap.nil : IsMap [] :=
  ⟨.nil, fun _ member => absurd member List.not_mem_nil, fun _ member => absurd member List.not_mem_nil⟩

variable {headers : Headers}

theorem IsMap.legal_of_mem_values
    (isMap : headers.IsMap) {name : String} {value : Bytes} (held : value ∈ headers.values name) :
    isValue value = true := by
  rw [values] at held
  cases found : headers.find? name with
  | none => simp [found] at held
  | some values =>
      rw [found] at held
      exact isMap.legal _ ((Names.find?_eq_some_iff isMap.formed.ordered name values).mp found) value held

theorem IsMap.append
    (isMap : headers.IsMap) {name : String} (small : name? name = some name) {value : Bytes}
    (legal : isValue value = true) : (headers.append name value).IsMap where
  formed := isMap.formed.append small value
  filled := fun pair member => by
    obtain rfl | earlier := Names.mem_insert member
    · exact List.append_ne_nil_of_right_ne_nil _ (List.cons_ne_nil _ _)
    · exact isMap.filled pair earlier
  legal := fun pair member => by
    obtain rfl | earlier := Names.mem_insert member
    · refine List.forall_mem_append.mpr ⟨fun held member => isMap.legal_of_mem_values member, ?_⟩
      exact List.forall_mem_singleton.mpr legal
    · exact isMap.legal pair earlier

theorem IsMap.of_foldlM
    {pairs : List (String × Bytes)} {start : Headers} (isMap : start.IsMap)
    (made : pairs.foldlM
      (fun headers (name, value) =>
        match name? name with
        | none => .error .name
        | some name => if isValue value then .ok (headers.append name value) else .error .value)
      start = (.ok headers : Except Refusal Headers)) :
    headers.IsMap := by
  induction pairs generalizing start with
  | nil =>
      cases made
      exact isMap
  | cons pair pairs ih =>
      obtain ⟨name, value⟩ := pair
      rw [List.foldlM_cons] at made
      cases found : name? name with
      | none =>
          simp only [found] at made
          cases made
      | some small =>
          by_cases legal : isValue value = true
          · simp only [found, legal, if_true] at made
            exact ih (isMap.append (name?_small found) legal) made
          · simp only [found, legal] at made
            cases made

/-- Header fields that are added from pairs are a map. -/
theorem IsMap.ofPairs {pairs : List (String × Bytes)} (made : ofPairs pairs = .ok headers) :
    headers.IsMap :=
  .of_foldlM .nil made

/-- A name is found with its values, unless it has none. -/
theorem IsMap.find?_eq (isMap : headers.IsMap) (name : String) :
    headers.find? name = if headers.values name = [] then none else some (headers.values name) := by
  rw [values]
  cases found : headers.find? name with
  | none => rfl
  | some values =>
      have filled := isMap.filled _ ((Names.find?_eq_some_iff isMap.formed.ordered name values).mp found)
      exact (if_neg filled).symm

/-- Maps with the same values under every name are the same. -/
theorem IsMap.eq_of_values
    {other : Headers} (isMap : headers.IsMap) (isMap' : other.IsMap)
    (same : ∀ name, headers.values name = other.values name) : headers = other := by
  refine Names.eq_of_find? isMap.formed.ordered isMap'.formed.ordered fun name => ?_
  rw [isMap.find?_eq, isMap'.find?_eq, same]

end Headers

/-! ## Header fields as they are read -/

namespace WireHeaders

theorem addValues_isMap
    {headers added : Headers} {name : String} {texts : List String}
    (small : Headers.name? name = some name) (isMap : headers.IsMap)
    (made : addValues headers name texts = .ok added) : added.IsMap := by
  induction texts generalizing headers with
  | nil =>
      cases made
      exact isMap
  | cons text texts ih =>
      rw [addValues] at made
      split at made
      · rename_i legal
        exact ih (isMap.append small legal) made
      · cases made

theorem addAll_isMap
    {headers added : Headers} {wire : WireHeaders} (isMap : headers.IsMap)
    (made : addAll headers wire = .ok added) : added.IsMap := by
  induction wire generalizing headers with
  | nil =>
      cases made
      exact isMap
  | cons pair wire ih =>
      obtain ⟨name, texts⟩ := pair
      rw [addAll] at made
      cases found : Headers.name? name with
      | none =>
          rw [found] at made
          cases made
      | some small =>
          rw [found] at made
          cases first : addValues headers small texts with
          | error fault =>
              simp only [first, except_error_bind] at made
              cases made
          | ok between =>
              simp only [first, except_ok_bind] at made
              exact ih (addValues_isMap (Headers.name?_small found) isMap first) made

/-- Header fields are read back with those values that are of the visible range. -/
theorem toHeaders_ofHeaders {headers : Headers} (formed : headers.Formed) :
    ∃ back, (ofHeaders headers).toHeaders = .ok back ∧ back.IsMap ∧
      ∀ name, back.values name = (headers.values name).filter (·.all Bytes.isVisible) := by
  obtain ⟨back, read, values, -⟩ := addAll_of_legal (legal_ofHeaders formed) []
  refine ⟨back, read, addAll_isMap .nil read, fun name => ?_⟩
  rw [values, valuesAt_ofHeaders formed]
  rfl

/-- A name is written with the texts of its values, unless it has none. -/
theorem find?_ofHeaders {headers : Headers} (ordered : headers.Ordered) (name : String) :
    (ofHeaders headers).find? name =
      if (headers.values name).filterMap Bytes.visibleText? = [] then none
      else some ((headers.values name).filterMap Bytes.visibleText?) := by
  induction headers with
  | nil => rfl
  | cons first headers ih =>
      obtain ⟨other, values⟩ := first
      obtain ⟨above, others⟩ := List.pairwise_cons.mp ordered
      have rest := ih others
      rw [ofHeaders_cons, Headers.values, Names.find?_cons]
      by_cases same : name = other
      · subst same
        have alone : Names.find? name headers = none := Names.find?_of_before above
        have unwritten : Names.find? name (ofHeaders headers) = none := by
          rw [rest, Headers.values, alone]
          rfl
        rw [if_pos rfl, Option.getD_some]
        by_cases none_shown : values.filterMap Bytes.visibleText? = []
        · rw [if_pos none_shown, if_pos none_shown]
          exact unwritten
        · rw [if_neg none_shown, if_neg none_shown]
          exact (Names.find?_cons ..).trans (if_pos rfl)
      · rw [if_neg same, ← Headers.values, ← rest]
        split
        · rfl
        · rw [List.singleton_append, Names.find?_cons, if_neg same]

end WireHeaders

/-! ## Values that are shown, and values that are texts -/

namespace Bytes

theorem isVisible_iff_small : ∀ number < 256, Headers.isValueByte (.ofNat number) = true →
    (isVisible (.ofNat number) = false ↔ (0x80 : UInt8) ≤ .ofNat number) := by
  decide +kernel

/-- A byte that a header value may have is out of the visible range if it is not of seven bits. -/
theorem isVisible_eq_false_iff {byte : UInt8} (legal : Headers.isValueByte byte = true) :
    isVisible byte = false ↔ 0x80 ≤ byte := by
  have number := isVisible_iff_small byte.toNat byte.toNat_lt
  rw [UInt8.ofNat_toNat] at number
  exact number legal

/-- A legal value is not shown if it has a byte that is not of seven bits. -/
theorem not_visible_iff {value : Bytes} (legal : Headers.isValue value = true) :
    ¬ value.all isVisible = true ↔ ∃ byte ∈ value, 0x80 ≤ byte := by
  rw [Bool.not_eq_true, List.all_eq_false]
  refine exists_congr fun byte => and_congr_right fun inside => ?_
  rw [Bool.not_eq_true]
  exact isVisible_eq_false_iff (List.all_eq_true.mp legal byte inside)

/-- A value that is shown is a text. -/
theorem decode?_isSome_of_visible {value : Bytes} (visible : value.all isVisible = true) :
    ∃ text, visibleText? value = some text ∧ decode? value = some text := by
  obtain ⟨text, shown, same⟩ := visibleText?_of_visible visible
  refine ⟨text, shown, ?_⟩
  rw [← same]
  exact decode?_ofString text

end Bytes

namespace WireHeaders

/-- What the written form has of header fields, and what is read back from it. -/
structure ShowsVisible (headers : Headers) : Prop where
  /-- Under every name the texts of the values of the visible range are written, in their order. -/
  written : ∀ name, ((ofHeaders headers).find? name).getD [] =
    (headers.values name).filterMap Bytes.visibleText?
  bytes : ∀ name, (((ofHeaders headers).find? name).getD []).map Bytes.ofString =
    (headers.values name).filter (·.all Bytes.isVisible)
  /-- A value is left out if it has a byte that is not of seven bits, be it a text or not. -/
  left_out_iff : ∀ name, ∀ value ∈ headers.values name,
    ¬ value.all Bytes.isVisible = true ↔ ∃ byte ∈ value, 0x80 ≤ byte
  /-- Every value that is no text is left out. -/
  undecodable : ∀ value, Bytes.decode? value = none → ¬ value.all Bytes.isVisible = true
  read_back : ∃ back, (ofHeaders headers).toHeaders = .ok back ∧ back.IsMap ∧
    ∀ name, back.values name = (headers.values name).filter (·.all Bytes.isVisible)
  /-- The header fields themselves are read back if all their values are of the visible range. -/
  same_iff : (ofHeaders headers).toHeaders = .ok headers ↔
    ∀ name, ∀ value ∈ headers.values name, value.all Bytes.isVisible = true

/--
An envelope shows exactly the values of the visible range.  Every value that is no text is left out, but so
is every text with a character beyond seven bits; and header fields are read back as they were exactly if
they have no such value.
-/
theorem shows_visible (headers : Headers) (isMap : headers.IsMap) : ShowsVisible headers := by
  have formed := isMap.formed
  have written (name : String) : ((ofHeaders headers).find? name).getD [] =
      (headers.values name).filterMap Bytes.visibleText? := by
    rw [find?_ofHeaders formed.ordered]
    split
    · rename_i none_shown
      exact none_shown.symm
    · rfl
  obtain ⟨back, read, isMap_back, values⟩ := toHeaders_ofHeaders formed
  refine
    { written
      bytes := fun name => ?_
      left_out_iff := fun name value held => Bytes.not_visible_iff (isMap.legal_of_mem_values held)
      undecodable := fun value undecodable visible => ?_
      read_back := ⟨back, read, isMap_back, values⟩
      same_iff := ?_ }
  · rw [written, texts_eq_filter]
  · obtain ⟨text, -, decoded⟩ := Bytes.decode?_isSome_of_visible visible
    cases undecodable.symm.trans decoded
  · rw [read, Except.ok.injEq]
    constructor
    · rintro rfl name
      exact List.filter_eq_self.mp (values name).symm
    · exact fun visible => isMap_back.eq_of_values isMap fun name =>
        (values name).trans (List.filter_eq_self.mpr (visible name))

/-- Header fields with a text in a foreign script, with values of the visible range, and with no text. -/
def menu : Headers :=
  [("x-dish", [Bytes.ofString "soup", Bytes.ofString "crème", Bytes.ofString "a\tb"]),
    ("x-raw", [[0xFF]])]

theorem shows_visible_menu :
    menu.IsMap ∧ ShowsVisible menu ∧ ofHeaders menu = [("x-dish", ["soup", "a\tb"])] := by
  have isMap : menu.IsMap := by
    have made : Headers.ofPairs [("X-Dish", Bytes.ofString "soup"), ("x-raw", [0xFF]),
        ("x-dish", Bytes.ofString "crème"), ("x-dish", Bytes.ofString "a\tb")] = .ok menu := by
      decide +kernel
    exact .ofPairs made
  exact ⟨isMap, shows_visible menu isMap, by decide +kernel⟩

/-- A value with the letter è, which is a text. -/
def dish : Headers :=
  [("x-dish", [Bytes.ofString "crème"])]

/-- A value that is a text may be left out, and then it is not read back. -/
theorem dish_not_shown :
    Headers.ofPairs [("x-dish", Bytes.ofString "crème")] = .ok dish ∧
      Bytes.decode? (Bytes.ofString "crème") = some "crème" ∧
      ofHeaders dish = [] ∧ (ofHeaders dish).toHeaders ≠ .ok dish := by
  refine ⟨by decide +kernel, Bytes.decode?_ofString "crème", by decide +kernel, ?_⟩
  decide +kernel

end WireHeaders

end RequestHub
