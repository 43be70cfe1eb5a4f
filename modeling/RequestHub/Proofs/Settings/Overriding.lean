import RequestHub.Proofs.Except
import RequestHub.Proofs.Settings.Naming
import RequestHub.Settings.Loader

/-!
# Variables override settings in any order

The variables of an environment are visited in an order that nobody chose, and the first one that is
malformed ends the visit.  What comes of it does not depend on the order as long as no two variables have
one name: `Overrides` says what every setting is afterwards, by the variable that spells it or else by what
it was before, and there are no two settings of which it says the same.
-/

namespace RequestHub

open Setting (Assigned)

/-- A variable that starts with a prefix and has not the form of an override, by its name or its value. -/
inductive Variable.Malformed (lead : String) (held : Variable) : Prop where
  /-- The name goes on otherwise than with two low lines. -/
  | name (starts : ∃ rest, held.name = lead ++ rest) (broken : ¬ held.Continues lead)
  /-- The value does not fit the setting that the name spells. -/
  | value {setting : Setting} (spelled : held.Spells lead setting)
      (unfit : setting.parse? held.value = none)

/-- Settings are those of a seed, except for the values that variables give to what they spell. -/
structure Overrides (lead : String) (environment : List Variable) (seed settings : Settings) :
    Prop where
  given : ∀ {setting : Setting} {held : Variable}, held ∈ environment → held.Spells lead setting →
    setting.parse? held.value = some (setting.read settings)
  kept : ∀ {setting : Setting}, (∀ held ∈ environment, ¬ held.Spells lead setting) →
    setting.read settings = setting.read seed

variable {lead : String} {seed settings next : Settings} {environment order : List Variable}
  {held : Variable} {setting : Setting} {value : SettingValue}

namespace Overrides

/-- Nothing is left open: there are no two settings like that. -/
theorem unique
    (left : Overrides lead environment seed settings)
    (right : Overrides lead environment seed next) :
    settings = next := by
  refine Setting.ext_read fun setting => ?_
  by_cases spelled : ∃ held ∈ environment, held.Spells lead setting
  · obtain ⟨held, member, spelled⟩ := spelled
    exact Option.some.inj ((left.given member spelled).symm.trans (right.given member spelled))
  · have unspelled : ∀ held ∈ environment, ¬ held.Spells lead setting :=
      fun held member here => spelled ⟨held, member, here⟩
    rw [left.kept unspelled, right.kept unspelled]

/-- It counts which variables there are, and not in which order. -/
theorem of_perm
    (overrides : Overrides lead order seed settings)
    (perm : order.Perm environment) :
    Overrides lead environment seed settings where
  given member := overrides.given (perm.mem_iff.mpr member)
  kept unspelled := overrides.kept fun held member => unspelled held (perm.mem_iff.mp member)

theorem nil (lead : String) (seed : Settings) : Overrides lead [] seed seed where
  given member := nomatch member
  kept _ := rfl

theorem cons_of_unspelled
    (overrides : Overrides lead environment seed settings)
    (unspelled : ∀ setting, ¬ held.Spells lead setting) :
    Overrides lead (held :: environment) seed settings where
  given := by
    intro setting other member spelled
    rcases List.mem_cons.mp member with rfl | later
    · exact absurd spelled (unspelled setting)
    · exact overrides.given later spelled
  kept none := overrides.kept fun held member => none held (List.mem_cons_of_mem _ member)

/-- A variable gives its value to the setting that it spells, and no other one spells the setting. -/
theorem cons_of_assigned
    (overrides : Overrides lead environment next settings)
    (spelled : held.Spells lead setting)
    (fits : setting.parse? held.value = some value)
    (assigned : Assigned setting value seed next)
    (apart : ∀ other ∈ environment, other.name ≠ held.name) :
    Overrides lead (held :: environment) seed settings where
  given := by
    intro wanted other member here
    rcases List.mem_cons.mp member with rfl | later
    · cases here.unique spelled
      have untouched : ∀ other ∈ environment, ¬ other.Spells lead setting :=
        fun other member there => apart other member (there.trans spelled.symm)
      rw [fits, overrides.kept untouched, assigned.here]
    · exact overrides.given later here
  kept := by
    intro wanted none
    have different : wanted ≠ setting := by
      rintro rfl
      exact none held List.mem_cons_self spelled
    rw [overrides.kept fun other member => none other (List.mem_cons_of_mem _ member),
      assigned.elsewhere wanted different]

end Overrides

/-! ## One variable -/

namespace Variable

theorem override_of_broken
    (broken : ¬ held.Continues lead)
    (settings : Settings) :
    override lead settings held = .error (.environment held.name "invalid key format") := by
  rw [override, (parts?_eq_none_iff ..).mpr broken]

theorem override_of_unspelled
    (continues : held.Continues lead)
    (unspelled : ∀ setting, ¬ held.Spells lead setting)
    (settings : Settings) :
    override lead settings held = .ok settings := by
  cases found : parts? lead held.name with
  | none => exact absurd continues ((parts?_eq_none_iff ..).mp found)
  | some parts =>
      have unknown : Setting.ofParts? parts = none := by
        rw [Option.eq_none_iff_forall_ne_some]
        exact fun setting named => unspelled setting (spells_iff.mpr ⟨parts, found, named⟩)
      simp only [override, found, unknown]

theorem override_of_spelled
    (spelled : held.Spells lead setting)
    (settings : Settings) :
    override lead settings held =
      (setting.assign held.value settings).mapError (.environment held.name) := by
  obtain ⟨parts, found, named⟩ := spells_iff.mp spelled
  simp only [override, found, named]

/-- A malformed variable is refused by its name, whatever the settings are. -/
theorem override_of_malformed
    (malformed : held.Malformed lead)
    (settings : Settings) :
    ∃ reason, override lead settings held = .error (.environment held.name reason) := by
  cases malformed with
  | name _ broken => exact ⟨_, override_of_broken broken settings⟩
  | value spelled unfit =>
      obtain ⟨expected, refused⟩ := Setting.assign_of_not_fits unfit settings
      exact ⟨expected, by rw [override_of_spelled spelled, refused]; rfl⟩

/-- A variable with a prefix that is not malformed spells no setting, or assigns the one that it spells. -/
theorem override_of_wellFormed
    (starts : held.belongs lead = true)
    (wellFormed : ¬ held.Malformed lead)
    (settings : Settings) :
    ∃ next, override lead settings held = .ok next ∧
      (((∀ setting, ¬ held.Spells lead setting) ∧ next = settings) ∨
        ∃ setting value, held.Spells lead setting ∧ setting.parse? held.value = some value ∧
          Assigned setting value settings next) := by
  have continues : held.Continues lead := Classical.byContradiction fun broken =>
    wellFormed (.name ((belongs_iff ..).mp starts) broken)
  by_cases spelled : ∃ setting, held.Spells lead setting
  · obtain ⟨setting, spelled⟩ := spelled
    cases fits : setting.parse? held.value with
    | none => exact absurd (.value spelled fits) wellFormed
    | some value =>
        obtain ⟨next, done, assigned⟩ := Setting.assign_of_parse? fits settings
        refine ⟨next, ?_, .inr ⟨setting, value, spelled, fits, assigned⟩⟩
        rw [override_of_spelled spelled, done]
        rfl
  · have unspelled := not_exists.mp spelled
    exact ⟨settings, override_of_unspelled continues unspelled settings, .inl ⟨unspelled, rfl⟩⟩

theorem Malformed.belongs (malformed : held.Malformed lead) : held.belongs lead = true := by
  cases malformed with
  | name starts _ => exact (belongs_iff ..).mpr starts
  | value spelled _ => exact spelled.continues.belongs

/-! ## The variables of an environment -/

theorem overrideAll_cons
    (lead : String)
    (settings : Settings)
    (held : Variable)
    (environment : List Variable) :
    overrideAll lead settings (held :: environment) =
      if held.belongs lead then
        (override lead settings held).bind (overrideAll lead · environment)
      else overrideAll lead settings environment := by
  unfold overrideAll
  rw [List.filter_cons]
  split
  · rfl
  · rfl

@[simp]
theorem overrideAll_append
    (lead : String)
    (settings : Settings)
    (front back : List Variable) :
    overrideAll lead settings (front ++ back) =
      (overrideAll lead settings front).bind (overrideAll lead · back) := by
  unfold overrideAll
  rw [List.filter_append, List.foldlM_append]
  rfl

/-- A variable that is not malformed is passed over, or assigns the setting that it spells. -/
theorem overrideAll_cons_of_wellFormed
    (wellFormed : ¬ held.Malformed lead)
    (settings : Settings)
    (environment : List Variable) :
    ∃ next, overrideAll lead settings (held :: environment) = overrideAll lead next environment ∧
      (((∀ setting, ¬ held.Spells lead setting) ∧ next = settings) ∨
        ∃ setting value, held.Spells lead setting ∧ setting.parse? held.value = some value ∧
          Assigned setting value settings next) := by
  rw [overrideAll_cons]
  by_cases starts : held.belongs lead = true
  · obtain ⟨next, done, change⟩ := override_of_wellFormed starts wellFormed settings
    exact ⟨next, by rw [if_pos starts, done]; rfl, change⟩
  · have unspelled : ∀ setting, ¬ held.Spells lead setting :=
      fun setting spelled => starts spelled.continues.belongs
    exact ⟨settings, if_neg starts, .inl ⟨unspelled, rfl⟩⟩

/-- Without malformed variables every setting has the value of the variable that spells it. -/
theorem overrideAll_of_wellFormed
    (distinct : (environment.map name).Nodup)
    (wellFormed : ∀ held ∈ environment, ¬ held.Malformed lead)
    (seed : Settings) :
    ∃ settings, overrideAll lead seed environment = .ok settings ∧
      Overrides lead environment seed settings := by
  induction environment generalizing seed with
  | nil => exact ⟨seed, rfl, .nil lead seed⟩
  | cons held environment ih =>
      obtain ⟨apart, distinct⟩ := List.nodup_cons.mp distinct
      obtain ⟨first, others⟩ := List.forall_mem_cons.mp wellFormed
      obtain ⟨next, reached, change⟩ := overrideAll_cons_of_wellFormed first seed environment
      obtain ⟨settings, finished, overrides⟩ := ih distinct others next
      refine ⟨settings, reached.trans finished, ?_⟩
      rcases change with ⟨unspelled, rfl⟩ | ⟨setting, value, spelled, fits, assigned⟩
      · exact overrides.cons_of_unspelled unspelled
      · exact overrides.cons_of_assigned spelled fits assigned fun other member same =>
          apart (List.mem_map.mpr ⟨other, member, same⟩)

/-- The first malformed variable of an order is the one that is told. -/
theorem overrideAll_of_malformed
    (seed : Settings)
    (malformed : ∃ held ∈ environment, held.Malformed lead) :
    ∃ held ∈ environment, held.Malformed lead ∧
      ∃ reason, overrideAll lead seed environment = .error (.environment held.name reason) := by
  induction environment generalizing seed with
  | nil =>
      obtain ⟨held, member, -⟩ := malformed
      exact absurd member List.not_mem_nil
  | cons first environment ih =>
      by_cases here : first.Malformed lead
      · obtain ⟨reason, refused⟩ := override_of_malformed here seed
        refine ⟨first, List.mem_cons_self, here, reason, ?_⟩
        rw [overrideAll_cons, if_pos here.belongs, refused]
        rfl
      · have later : ∃ held ∈ environment, held.Malformed lead := by
          obtain ⟨held, member, malformed⟩ := malformed
          rcases List.mem_cons.mp member with rfl | member
          · exact absurd malformed here
          · exact ⟨held, member, malformed⟩
        obtain ⟨next, reached, -⟩ := overrideAll_cons_of_wellFormed here seed environment
        obtain ⟨held, member, malformed, reason, told⟩ := ih next later
        exact ⟨held, List.mem_cons_of_mem _ member, malformed, reason, reached.trans told⟩

/-- A variable that spells no setting and is not malformed is passed over wherever it stands. -/
theorem overrideAll_of_unspelled
    (wellFormed : ¬ held.Malformed lead)
    (unspelled : ∀ setting, ¬ held.Spells lead setting)
    (seed : Settings)
    (front back : List Variable) :
    overrideAll lead seed (front ++ held :: back) = overrideAll lead seed (front ++ back) := by
  have passed (settings : Settings) :
      overrideAll lead settings (held :: back) = overrideAll lead settings back := by
    obtain ⟨next, reached, ⟨-, rfl⟩ | ⟨setting, value, spelled, -⟩⟩ :=
      overrideAll_cons_of_wellFormed wellFormed settings back
    · exact reached
    · exact absurd spelled (unspelled setting)
  rw [overrideAll_append, overrideAll_append]
  exact congrArg _ (funext passed)

end Variable

/-! ## Loading -/

namespace Settings.Loader

/-- What a loader makes of the variables of an environment, in whatever order it visits them. -/
structure VisitsFreely (loader : Loader) (lead : String) (environment : List Variable) : Prop where
  /-- Without malformed variables every order leads to the same settings, which are then checked. -/
  overridden : (∀ held ∈ environment, ¬ held.Malformed lead) →
    ∃ settings, Overrides lead environment loader.settings settings ∧
      (∀ other, Overrides lead environment loader.settings other → other = settings) ∧
      ∀ order, order.Perm environment →
        loader.overridden order = .ok settings ∧ loader.load order = settings.checked
  /-- With a malformed variable every order fails, and one that is malformed is told. -/
  refused : (∃ held ∈ environment, held.Malformed lead) → ∀ order, order.Perm environment →
    ∃ held ∈ environment, held.Malformed lead ∧
      ∃ reason, loader.load order = .error (.environment held.name reason)
  /-- A variable that spells no setting and is not malformed changes nothing. -/
  unspelled : ∀ held, ¬ held.Malformed lead → (∀ setting, ¬ held.Spells lead setting) →
    ∀ front back, loader.load (front ++ held :: back) = loader.load (front ++ back)
  /-- Settings are loaded exactly if nothing is malformed and they pass the check. -/
  loads_iff : ∀ order settings, order.Perm environment →
    (loader.load order = .ok settings ↔
      (∀ held ∈ environment, ¬ held.Malformed lead) ∧
        Overrides lead environment loader.settings settings ∧ settings.check = .ok ())

@[simp]
theorem checked_eq_ok_iff
    (settings other : Settings) :
    settings.checked = .ok other ↔ settings.check = .ok () ∧ settings = other := by
  rw [checked]
  cases settings.check with
  | error failure =>
      constructor
      · rintro ⟨⟩
      · rintro ⟨⟨⟩, _⟩
  | ok => simp [pure, Except.pure]

theorem overridden_withVariables
    (loader : Loader)
    (named : String)
    (environment : List Variable) :
    (loader.withVariables named).overridden environment =
      Variable.overrideAll (Text.upper named) loader.settings environment := rfl

theorem load_of_overridden
    {loader : Loader}
    (overridden : loader.overridden environment = .ok settings) :
    loader.load environment = settings.checked := by
  rw [load, overridden]
  rfl

theorem load_of_refused
    {loader : Loader}
    {failure : ConfigFailure}
    (refused : loader.overridden environment = .error failure) :
    loader.load environment = .error failure := by
  rw [load, refused]
  rfl

/-- Without malformed variables every order leads to the same settings. -/
theorem overridden_of_wellFormed
    (loader : Loader)
    (named : String)
    (distinct : (environment.map Variable.name).Nodup)
    (wellFormed : ∀ held ∈ environment, ¬ held.Malformed (Text.upper named)) :
    ∃ settings, Overrides (Text.upper named) environment loader.settings settings ∧
      ∀ order, order.Perm environment →
        (loader.withVariables named).overridden order = .ok settings := by
  obtain ⟨settings, -, overrides⟩ :=
    Variable.overrideAll_of_wellFormed distinct wellFormed loader.settings
  refine ⟨settings, overrides, fun order perm => ?_⟩
  obtain ⟨next, done, again⟩ := Variable.overrideAll_of_wellFormed
    ((perm.map Variable.name).nodup_iff.mpr distinct)
    (fun held member => wellFormed held (perm.mem_iff.mp member)) loader.settings
  rw [overridden_withVariables, done, (again.of_perm perm).unique overrides]

/-- With a malformed variable no order leads to settings. -/
theorem load_of_malformed
    (loader : Loader)
    (named : String)
    (malformed : ∃ held ∈ environment, held.Malformed (Text.upper named))
    (perm : order.Perm environment) :
    ∃ held ∈ environment, held.Malformed (Text.upper named) ∧
      ∃ reason, (loader.withVariables named).load order = .error (.environment held.name reason) := by
  obtain ⟨held, member, malformed⟩ := malformed
  obtain ⟨culprit, among, broken, reason, told⟩ := Variable.overrideAll_of_malformed
    loader.settings ⟨held, perm.mem_iff.mpr member, malformed⟩
  exact ⟨culprit, perm.mem_iff.mp among, broken, reason, load_of_refused told⟩

/-- Variables with different names override settings alike in every order in which they are visited. -/
theorem visits_freely
    (loader : Loader)
    (named : String)
    {environment : List Variable}
    (distinct : (environment.map Variable.name).Nodup) :
    VisitsFreely (loader.withVariables named) (Text.upper named) environment := by
  refine ⟨fun wellFormed => ?_, fun malformed _ perm => load_of_malformed loader named malformed perm,
    fun held wellFormed unspelled front back => ?_, fun order other perm => ?_⟩
  · obtain ⟨settings, overrides, done⟩ := overridden_of_wellFormed loader named distinct wellFormed
    exact ⟨settings, overrides, fun other again => again.unique overrides,
      fun order perm => ⟨done order perm, load_of_overridden (done order perm)⟩⟩
  · have passed := Variable.overrideAll_of_unspelled wellFormed unspelled loader.settings front back
    rw [load, load, overridden_withVariables, overridden_withVariables, passed]
  · by_cases malformed : ∃ held ∈ environment, held.Malformed (Text.upper named)
    · obtain ⟨held, member, broken, reason, told⟩ := load_of_malformed loader named malformed perm
      simp only [told, reduceCtorEq, false_iff]
      exact fun loaded => loaded.1 held member broken
    · have wellFormed : ∀ held ∈ environment, ¬ held.Malformed (Text.upper named) :=
        fun held member broken => malformed ⟨held, member, broken⟩
      obtain ⟨settings, overrides, done⟩ := overridden_of_wellFormed loader named distinct wellFormed
      rw [load_of_overridden (done order perm), checked_eq_ok_iff]
      constructor
      · rintro ⟨passes, rfl⟩
        exact ⟨wellFormed, overrides, passes⟩
      · rintro ⟨-, again, passes⟩
        obtain rfl := again.unique overrides
        exact ⟨passes, rfl⟩

/-- The environment of a bakery: two settings, a name that is none, and a variable of somebody else. -/
def bakery : List Variable :=
  [⟨"BAKERY__SERVER__MAX_BODY_BYTES", "1024"⟩, ⟨"BAKERY__OVEN", "hot"⟩,
    ⟨"BAKERY__APPLICATION__NAME", "rye"⟩, ⟨"PATH", "/bin"⟩]

theorem visits_freely_bakery :
    (bakery.map Variable.name).Nodup ∧
      VisitsFreely (Loader.withVariables {} "bakery") (Text.upper "bakery") bakery :=
  ⟨by decide, visits_freely {} "bakery" (by decide)⟩

example :
    ((Loader.withVariables {} "bakery").load bakery.reverse).toOption =
      some { server := { bodyLimit := 1024 }, application := { name := "rye" } } := by
  decide +kernel

end Settings.Loader

end RequestHub
