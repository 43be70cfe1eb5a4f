import RequestHub.Settings.Variable

/-!
# Settings by name and by value

A variable names a setting by one spelling alone: the prefix, and each part of the setting's name behind two
low lines.  What it gives the setting is one value, which is read from its text and from nothing else.

The sixteen values make up the settings.  Assigning one of them changes it and none of the others, and two
settings with the same values are the same.
-/

namespace RequestHub

/-- A value that a setting has. -/
inductive SettingValue where
  | text (text : String)
  /-- A text that may be missing. -/
  | optional (text : Option String)
  | natural (number : Nat)
  | format (format : LogFormat)
  | flag (flag : Bool)
  | share (number : Real64)
deriving DecidableEq, Repr

namespace Setting

variable {setting : Setting} {text : String} {settings next : Settings} {value : SettingValue}

/-! ## Values -/

/-- The value that a setting has. -/
def read (settings : Settings) : Setting → SettingValue
  | .publicAddress => .text settings.server.publicAddress
  | .privateAddress => .optional settings.server.privateAddress
  | .shutdownSeconds => .natural settings.server.shutdownSeconds
  | .bodyLimit => .natural settings.server.bodyLimit
  | .requestSeconds => .natural settings.server.requestSeconds
  | .serviceName => .text settings.telemetry.serviceName
  | .level => .text settings.telemetry.logging.level
  | .format => .format settings.telemetry.logging.format
  | .metricsEnabled => .flag settings.telemetry.metrics.enabled
  | .metricsAddress => .optional settings.telemetry.metrics.address
  | .tracingEnabled => .flag settings.telemetry.tracing.enabled
  | .endpoint => .text settings.telemetry.tracing.endpoint
  | .environment => .text settings.telemetry.tracing.environment
  | .sampleRatio => .share settings.telemetry.tracing.sampleRatio
  | .name => .text settings.application.name
  | .home => .text settings.application.home

/-- The value that a text gives a setting, if it fits the setting. -/
def parse? (text : String) : Setting → Option SettingValue
  | .publicAddress | .serviceName | .level | .endpoint | .environment | .name | .home =>
      some (.text text)
  | .privateAddress | .metricsAddress => some (.optional (text? text))
  | .shutdownSeconds | .bodyLimit | .requestSeconds => (natural? text).map .natural
  | .format => (LogFormat.names.lookup (Text.lower text)).map .format
  | .metricsEnabled | .tracingEnabled => (bool? text).map .flag
  | .sampleRatio => (Decimal.real? text.toList).map .share

/-- Settings are made up of their sixteen values. -/
theorem ext_read
    {left right : Settings}
    (same : ∀ setting, read left setting = read right setting) :
    left = right := by
  obtain ⟨⟨_, _, _, _, _⟩, ⟨_, ⟨_, _⟩, ⟨_, _, _, _⟩, ⟨_, _⟩⟩, ⟨_, _⟩⟩ := left
  obtain ⟨⟨_, _, _, _, _⟩, ⟨_, ⟨_, _⟩, ⟨_, _, _, _⟩, ⟨_, _⟩⟩, ⟨_, _⟩⟩ := right
  cases SettingValue.text.inj (same .publicAddress)
  cases SettingValue.optional.inj (same .privateAddress)
  cases SettingValue.natural.inj (same .shutdownSeconds)
  cases SettingValue.natural.inj (same .bodyLimit)
  cases SettingValue.natural.inj (same .requestSeconds)
  cases SettingValue.text.inj (same .serviceName)
  cases SettingValue.text.inj (same .level)
  cases SettingValue.format.inj (same .format)
  cases SettingValue.flag.inj (same .metricsEnabled)
  cases SettingValue.optional.inj (same .metricsAddress)
  cases SettingValue.flag.inj (same .tracingEnabled)
  cases SettingValue.text.inj (same .endpoint)
  cases SettingValue.text.inj (same .environment)
  cases SettingValue.share.inj (same .sampleRatio)
  cases SettingValue.text.inj (same .name)
  cases SettingValue.text.inj (same .home)
  rfl

/-- Settings in which one has another value than before. -/
structure Assigned (setting : Setting) (value : SettingValue) (before after : Settings) : Prop where
  here : read after setting = value
  elsewhere : ∀ other, other ≠ setting → read after other = read before other

theorem expect_of_some
    {α : Type}
    {found : Option α}
    {held : α}
    (given : found = some held)
    (expected : String) :
    expect expected found = .ok held := by
  rw [given, expect]

/-- A text that fits a setting is assigned as the value that it gives. -/
theorem assign_of_parse?
    (fits : setting.parse? text = some value)
    (settings : Settings) :
    ∃ next, setting.assign text settings = .ok next ∧ Assigned setting value settings next := by
  have assigned {next : Settings} (done : setting.assign text settings = .ok next)
      (here : read next setting = value)
      (elsewhere : ∀ other, other ≠ setting → read next other = read settings other) :
      ∃ next, setting.assign text settings = .ok next ∧ Assigned setting value settings next :=
    ⟨next, done, here, elsewhere⟩
  cases setting with
  | publicAddress | privateAddress | serviceName | level | metricsAddress | endpoint | environment
  | name | home =>
      cases Option.some.inj fits
      refine assigned rfl rfl fun other different => ?_
      cases other <;> first | rfl | exact absurd rfl different
  | shutdownSeconds | bodyLimit | requestSeconds | format | metricsEnabled | tracingEnabled
  | sampleRatio =>
      obtain ⟨held, given, rfl⟩ := Option.map_eq_some_iff.mp fits
      refine assigned (by simp only [assign, expect_of_some given]; rfl) rfl fun other different => ?_
      cases other <;> first | rfl | exact absurd rfl different

/-- A text that does not fit a setting is refused, whatever the settings are. -/
theorem assign_of_not_fits
    (unfit : setting.parse? text = none)
    (settings : Settings) :
    ∃ expected, setting.assign text settings = .error expected := by
  cases setting with
  | publicAddress | privateAddress | serviceName | level | metricsAddress | endpoint | environment
  | name | home => cases unfit
  | shutdownSeconds | bodyLimit | requestSeconds | format | metricsEnabled | tracingEnabled
  | sampleRatio =>
      have missing := Option.map_eq_none_iff.mp unfit
      exact ⟨_, by simp only [assign, missing, expect]; rfl⟩

/-! ## Names -/

/-- The name of the variable with a prefix that names a setting. -/
def variableName (lead : String) (setting : Setting) : String :=
  lead ++ "__" ++ "__".intercalate setting.parts

@[simp]
theorem ofParts?_eq_some_iff
    (parts : List String)
    (setting : Setting) :
    ofParts? parts = some setting ↔ setting.parts = parts := by
  constructor
  · intro found
    have named := List.find?_some found
    exact of_decide_eq_true named
  · rintro rfl
    cases setting <;> decide

end Setting

namespace Variable

theorem cutName_ne_nil (chars : List Char) : cutName chars ≠ [] := by
  induction chars using cutName.induct with
  | case1 rest ih => exact List.cons_ne_nil _ _
  | case2 char rest alone none ih => exact absurd none ih
  | case3 char rest alone part parts cut ih =>
      rw [cutName.eq_2 char rest alone, cut]
      exact List.cons_ne_nil _ _
  | case4 => exact List.cons_ne_nil _ _

/-- Cutting at two low lines loses nothing but these. -/
theorem intercalate_cutName (chars : List Char) :
    ['_', '_'].intercalate (cutName chars) = chars := by
  have extended (char : Char) (part : List Char) (parts : List (List Char)) :
      ['_', '_'].intercalate ((char :: part) :: parts) =
        char :: ['_', '_'].intercalate (part :: parts) := by
    cases parts with
    | nil => rfl
    | cons next parts => rfl
  induction chars using cutName.induct with
  | case1 rest ih =>
      rw [cutName, List.intercalate_cons_of_ne_nil (cutName_ne_nil rest), ih]
      rfl
  | case2 char rest alone none ih =>
      rw [cutName.eq_2 char rest alone, none]
      rw [none] at ih
      exact congrArg (char :: ·) ih
  | case3 char rest alone part parts cut ih =>
      rw [cutName.eq_2 char rest alone, cut]
      rw [cut] at ih
      exact (extended char part parts).trans (congrArg (char :: ·) ih)
  | case4 => rfl

/-- The parts of a name behind a prefix are those between two low lines each. -/
theorem parts?_eq_some_iff
    (lead name : String)
    (parts : List String) :
    parts? lead name = some parts ↔
      ∃ rest, name.toList = lead.toList ++ '_' :: '_' :: rest ∧
        (cutName rest).map String.ofList = parts := by
  simp only [parts?, bind, Option.bind_eq_some_iff, Text.dropLead?_eq_some_iff, pure,
    Option.some.injEq]
  constructor
  · rintro ⟨_, behind, rest, rfl, same⟩
    exact ⟨rest, behind, same⟩
  · rintro ⟨rest, behind, same⟩
    exact ⟨_, behind, rest, rfl, same⟩

/-- The name of a variable goes on behind a prefix with two low lines. -/
def Continues (lead : String) (held : Variable) : Prop :=
  ∃ rest, held.name = lead ++ "__" ++ rest

/-- The name of a variable is the one that spells a setting. -/
def Spells (lead : String) (setting : Setting) (held : Variable) : Prop :=
  held.name = setting.variableName lead

variable {lead : String} {held : Variable} {setting : Setting}

theorem toList_behind (lead rest : String) :
    (lead ++ "__" ++ rest).toList = lead.toList ++ '_' :: '_' :: rest.toList := by
  simp

theorem parts?_eq_none_iff (lead : String) (held : Variable) :
    parts? lead held.name = none ↔ ¬ held.Continues lead := by
  rw [Option.eq_none_iff_forall_ne_some, Continues, not_exists]
  constructor
  · intro none rest behind
    refine none _ ((parts?_eq_some_iff ..).mpr ⟨rest.toList, ?_, rfl⟩)
    rw [behind, toList_behind]
  · intro other parts found
    obtain ⟨rest, behind, -⟩ := (parts?_eq_some_iff ..).mp found
    refine other (String.ofList rest) (String.toList_inj.mp ?_)
    rw [toList_behind, String.toList_ofList, behind]

/-- The parts of the name of a setting are cut from the name that they make up. -/
theorem cutName_variableName (setting : Setting) :
    (cutName ("__".intercalate setting.parts).toList).map String.ofList = setting.parts := by
  cases setting <;> decide

/-- A name leads to a setting exactly if it is the one that spells the setting. -/
theorem spells_iff :
    held.Spells lead setting ↔
      ∃ parts, parts? lead held.name = some parts ∧ Setting.ofParts? parts = some setting := by
  simp only [parts?_eq_some_iff, Setting.ofParts?_eq_some_iff]
  constructor
  · intro spelled
    refine ⟨setting.parts, ⟨_, ?_, cutName_variableName setting⟩, rfl⟩
    rw [spelled, Setting.variableName, toList_behind]
  · rintro ⟨_, ⟨rest, behind, cut⟩, rfl⟩
    have chars : (cutName rest).map (String.toList ∘ String.ofList) = cutName rest :=
      (List.map_congr_left fun _ _ => String.toList_ofList).trans (List.map_id _)
    have joined : ("__".intercalate setting.parts).toList = rest := by
      rw [String.toList_intercalate, ← cut, List.map_map, chars]
      exact intercalate_cutName rest
    rw [Spells, Setting.variableName, ← String.toList_inj, toList_behind, joined, behind]

theorem Spells.continues (spelled : held.Spells lead setting) : held.Continues lead :=
  ⟨_, spelled⟩

/-- A variable spells one setting at most. -/
theorem Spells.unique
    {other : Setting}
    (first : held.Spells lead setting)
    (second : held.Spells lead other) :
    setting = other := by
  obtain ⟨parts, found, named⟩ := spells_iff.mp first
  obtain ⟨others, again, same⟩ := spells_iff.mp second
  cases found.symm.trans again
  exact Option.some.inj (named.symm.trans same)

theorem belongs_iff (lead : String) (held : Variable) :
    held.belongs lead = true ↔ ∃ rest, held.name = lead ++ rest := by
  rw [belongs, Option.isSome_iff_exists]
  simp only [Text.dropLead?_eq_some_iff]
  constructor
  · rintro ⟨rest, behind⟩
    exact ⟨String.ofList rest, String.toList_inj.mp (by simp [behind])⟩
  · rintro ⟨rest, behind⟩
    exact ⟨rest.toList, by simp [behind]⟩

theorem Continues.belongs (continues : held.Continues lead) : held.belongs lead = true := by
  obtain ⟨rest, behind⟩ := continues
  exact (belongs_iff ..).mpr ⟨"__" ++ rest, by rw [behind, String.append_assoc]⟩

end Variable

end RequestHub
