import RequestHub.Workflow

/-!
# The arrangement of the steps of a workflow

A workflow is made by adding steps, one at a time or many at once, and its steps stand in the stable
order of their precedences.  `Arranges` says what that order is without reference to a way of sorting:
precedences do not decrease, and the steps of one precedence stand as they were added.  At most one list
arranges given steps, so that it is the one that a stable sort gives.

Steps are added to buckets.  `Sound` is what every addition keeps: the precedences of the buckets increase,
none of them is empty, and each holds steps of its own precedence.  `Holds` adds that the buckets, one
behind the other, are an arrangement of the steps that were added.
-/

namespace RequestHub

namespace Workflow

/-! ## Stable order -/

/-- Whether a step runs no later than another by its precedence. -/
def noLater (left right : Step) : Bool :=
  left.precedence ≤ right.precedence

/-- A list of steps is the stable order of the steps as they were added. -/
structure Arranges (arranged added : List Step) : Prop where
  ordered : arranged.Pairwise fun left right => left.precedence ≤ right.precedence
  alike : ∀ precedence : Int,
    arranged.filter (·.precedence = precedence) = added.filter (·.precedence = precedence)

namespace Arranges

theorem nil : Arranges [] [] where
  ordered := List.Pairwise.nil
  alike _ := rfl

/-- What is added before or behind can itself be arranged first. -/
theorem trans
    {arranged middle added : List Step}
    (outer : Arranges arranged middle)
    (inner : ∀ precedence : Int,
      middle.filter (·.precedence = precedence) = added.filter (·.precedence = precedence)) :
    Arranges arranged added where
  ordered := outer.ordered
  alike precedence := (outer.alike precedence).trans (inner precedence)

theorem mem_iff
    {arranged added : List Step}
    (arranges : Arranges arranged added)
    (step : Step) :
    step ∈ arranged ↔ step ∈ added := by
  have same := arranges.alike step.precedence
  constructor
  · intro member
    have kept : step ∈ arranged.filter (·.precedence = step.precedence) := by
      simpa using member
    rw [same] at kept
    exact (List.mem_filter.mp kept).1
  · intro member
    have kept : step ∈ added.filter (·.precedence = step.precedence) := by
      simpa using member
    rw [← same] at kept
    exact (List.mem_filter.mp kept).1

theorem eq_nil_iff
    {arranged added : List Step}
    (arranges : Arranges arranged added) :
    arranged = [] ↔ added = [] := by
  rw [List.eq_nil_iff_forall_not_mem, List.eq_nil_iff_forall_not_mem]
  constructor
  · intro empty step member
    exact empty step ((arranges.mem_iff step).mpr member)
  · intro empty step member
    exact empty step ((arranges.mem_iff step).mp member)

/-- The first of some ordered steps has the least precedence. -/
theorem least
    {first : Step}
    {arranged added : List Step}
    (arranges : Arranges (first :: arranged) added)
    {step : Step}
    (member : step ∈ added) :
    first.precedence ≤ step.precedence := by
  have present := (arranges.mem_iff step).mpr member
  rcases List.mem_cons.mp present with rfl | later
  · exact Int.le_refl _
  · exact (List.pairwise_cons.mp arranges.ordered).1 step later

theorem tail
    {first : Step}
    {arranged added : List Step}
    (arranges : Arranges (first :: arranged) (first :: added)) :
    Arranges arranged added where
  ordered := (List.pairwise_cons.mp arranges.ordered).2
  alike precedence := by
    have same := arranges.alike precedence
    simp only [List.filter_cons] at same
    split at same
    · exact (List.cons.inj same).2
    · exact same

/-- Steps can be arranged in one way only. -/
theorem unique
    {left right added : List Step}
    (leftArranges : Arranges left added)
    (rightArranges : Arranges right added) :
    left = right := by
  have between : Arranges left right :=
    leftArranges.trans fun precedence => (rightArranges.alike precedence).symm
  have ordered := rightArranges.ordered
  clear leftArranges rightArranges
  induction left generalizing right with
  | nil => exact (between.eq_nil_iff.mp rfl).symm
  | cons first left ih =>
      cases right with
      | nil => exact between.eq_nil_iff.mpr rfl
      | cons other right =>
          have rising : first.precedence ≤ other.precedence := between.least List.mem_cons_self
          have falling : other.precedence ≤ first.precedence := by
            have present := (between.mem_iff first).mp List.mem_cons_self
            rcases List.mem_cons.mp present with rfl | later
            · exact Int.le_refl _
            · exact (List.pairwise_cons.mp ordered).1 first later
          have level := Int.le_antisymm rising falling
          -- Both are the first of the steps with their precedence.
          have same : first = other := by
            have alike := between.alike first.precedence
            simp only [List.filter_cons, level, decide_true, if_true] at alike
            exact (List.cons.inj alike).1
          subst same
          rw [ih between.tail (List.pairwise_cons.mp ordered).2]

theorem noLater_trans
    (first second third : Step)
    (lower : noLater first second = true)
    (upper : noLater second third = true) :
    noLater first third = true :=
  decide_eq_true (Int.le_trans (of_decide_eq_true lower) (of_decide_eq_true upper))

theorem noLater_total
    (first second : Step) :
    (noLater first second || noLater second first) = true := by
  simpa [noLater] using Int.le_total first.precedence second.precedence

/-- A stable sort arranges. -/
theorem mergeSort (added : List Step) : Arranges (added.mergeSort noLater) added := by
  constructor
  · have ordered := List.pairwise_mergeSort noLater_trans noLater_total added
    exact ordered.imp of_decide_eq_true
  · intro precedence
    have level : (added.filter (·.precedence = precedence)).Pairwise
        fun left right => noLater left right = true := by
      apply List.pairwise_of_forall_mem_list
      intro left leftMember right rightMember
      have leftAt := of_decide_eq_true (List.mem_filter.mp leftMember).2
      have rightAt := of_decide_eq_true (List.mem_filter.mp rightMember).2
      exact decide_eq_true (Int.le_of_eq (leftAt.trans rightAt.symm))
    -- Steps of one precedence are a sublist of the sorted steps, and none of them is missing.
    have kept := List.sublist_mergeSort noLater_trans noLater_total level List.filter_sublist
    have filtered := kept.filter (·.precedence = precedence)
    rw [List.filter_filter] at filtered
    simp only [Bool.and_self] at filtered
    have sorted := List.mergeSort_perm added noLater
    have counted := (sorted.filter (·.precedence = precedence)).length_eq
    exact (filtered.eq_of_length counted.symm).symm

theorem eq_mergeSort
    {arranged added : List Step}
    (arranges : Arranges arranged added) :
    arranged = added.mergeSort noLater :=
  arranges.unique (mergeSort added)

theorem length_eq
    {arranged added : List Step}
    (arranges : Arranges arranged added) :
    arranged.length = added.length := by
  rw [arranges.eq_mergeSort, List.length_mergeSort]

end Arranges

/-! ## Entries of ordered maps -/

section

variable {α : Type} {key : Int} {default : α} {change : α → α} {entries : List (Int × α)}

/-- What a change leaves in a map was there before, or is the changed value or the changed default. -/
theorem mem_changeEntry
    {entry : Int × α}
    (member : entry ∈ changeEntry key default change entries) :
    entry ∈ entries ∨ entry = (key, change default) ∨
      ∃ held, (key, held) ∈ entries ∧ entry = (key, change held) := by
  induction entries with
  | nil => exact Or.inr (Or.inl (List.mem_singleton.mp member))
  | cons first entries ih =>
      obtain ⟨other, held⟩ := first
      simp only [changeEntry] at member
      split at member
      · rcases List.mem_cons.mp member with entered | later
        · exact Or.inr (Or.inl entered)
        · exact Or.inl later
      · split at member
        · rename_i same
          subst same
          rcases List.mem_cons.mp member with changed | later
          · exact Or.inr (Or.inr ⟨held, List.mem_cons_self, changed⟩)
          · exact Or.inl (List.mem_cons_of_mem _ later)
        · rcases List.mem_cons.mp member with kept | later
          · exact Or.inl (kept ▸ List.mem_cons_self)
          · rcases ih later with kept | entered | ⟨held, among, changed⟩
            · exact Or.inl (List.mem_cons_of_mem _ kept)
            · exact Or.inr (Or.inl entered)
            · exact Or.inr (Or.inr ⟨held, List.mem_cons_of_mem _ among, changed⟩)

/-- A change adds at most its own key. -/
theorem key_of_mem_changeEntry
    {entry : Int × α}
    (member : entry ∈ changeEntry key default change entries) :
    entry.1 = key ∨ entry ∈ entries := by
  rcases mem_changeEntry member with kept | rfl | ⟨held, -, rfl⟩
  · exact Or.inr kept
  · exact Or.inl rfl
  · exact Or.inl rfl

/-- The keys still increase after a change. -/
theorem changeEntry_increases
    (increase : entries.Pairwise fun left right => left.1 < right.1) :
    (changeEntry key default change entries).Pairwise fun left right => left.1 < right.1 := by
  induction entries with
  | nil => exact List.pairwise_singleton _ _
  | cons first entries ih =>
      obtain ⟨other, held⟩ := first
      obtain ⟨above, rest⟩ := List.pairwise_cons.mp increase
      simp only [changeEntry]
      split
      · rename_i below
        refine List.pairwise_cons.mpr ⟨?_, increase⟩
        intro entry member
        rcases List.mem_cons.mp member with rfl | later
        · exact below
        · exact Int.lt_trans below (above entry later)
      · rename_i notBelow
        split
        · exact List.pairwise_cons.mpr ⟨above, rest⟩
        · rename_i different
          refine List.pairwise_cons.mpr ⟨?_, ih rest⟩
          intro entry member
          rcases key_of_mem_changeEntry member with own | kept
          · change other < entry.1
            omega
          · exact above entry kept

end

/-! ## Adding steps -/

/-- The buckets of a workflow are in order, none is empty, and each holds steps of its precedence. -/
structure Sound (workflow : Workflow) : Prop where
  increase : workflow.buckets.Pairwise fun left right => left.1 < right.1
  filled : ∀ bucket ∈ workflow.buckets, bucket.2 ≠ []
  level : ∀ bucket ∈ workflow.buckets, ∀ step ∈ bucket.2, step.precedence = bucket.1

theorem Sound.empty : Workflow.empty.Sound where
  increase := List.Pairwise.nil
  filled _ member := absurd member List.not_mem_nil
  level _ member := absurd member List.not_mem_nil

theorem Sound.push
    {workflow : Workflow}
    (sound : workflow.Sound)
    (step : Step) :
    (workflow.push step).Sound where
  increase := changeEntry_increases sound.increase
  filled := by
    intro bucket member
    rcases mem_changeEntry member with kept | rfl | ⟨held, -, rfl⟩
    · exact sound.filled bucket kept
    · exact List.append_ne_nil_of_right_ne_nil _ (List.cons_ne_nil _ _)
    · exact List.append_ne_nil_of_right_ne_nil _ (List.cons_ne_nil _ _)
  level := by
    intro bucket member other inside
    rcases mem_changeEntry member with kept | rfl | ⟨held, among, rfl⟩
    · exact sound.level bucket kept other inside
    · obtain rfl := List.mem_singleton.mp inside
      rfl
    · rcases List.mem_append.mp inside with before | own
      · exact sound.level _ among other before
      · obtain rfl := List.mem_singleton.mp own
        rfl

/-- Buckets that increase hold their steps in order. -/
theorem Sound.ordered
    {workflow : Workflow}
    (sound : workflow.Sound) :
    workflow.steps.Pairwise fun left right => left.precedence ≤ right.precedence := by
  refine List.pairwise_flatMap.mpr ⟨?_, ?_⟩
  · intro bucket member
    apply List.pairwise_of_forall_mem_list
    intro left leftInside right rightInside
    have leftAt := sound.level bucket member left leftInside
    have rightAt := sound.level bucket member right rightInside
    exact Int.le_of_eq (leftAt.trans rightAt.symm)
  · refine sound.increase.imp_of_mem ?_
    intro lower upper lowerMember upperMember below left leftInside right rightInside
    rw [sound.level lower lowerMember left leftInside, sound.level upper upperMember right rightInside]
    exact Int.le_of_lt below

/-- No step of buckets above a precedence has it. -/
theorem filter_eq_nil_of_above
    {buckets : List (Int × List Step)}
    (level : ∀ bucket ∈ buckets, ∀ step ∈ bucket.2, step.precedence = bucket.1)
    {precedence : Int}
    (above : ∀ bucket ∈ buckets, precedence < bucket.1) :
    (buckets.flatMap (·.2)).filter (·.precedence = precedence) = [] := by
  rw [List.filter_eq_nil_iff]
  intro step inside
  obtain ⟨bucket, among, held⟩ := List.mem_flatMap.mp inside
  have greater := above bucket among
  rw [← level bucket among step held] at greater
  simp only [decide_eq_true_eq]
  omega

/-- A step is placed behind the steps of its own precedence, and others stay as they stand. -/
theorem filter_changeEntry
    (step : Step)
    {buckets : List (Int × List Step)}
    (increase : buckets.Pairwise fun left right => left.1 < right.1)
    (level : ∀ bucket ∈ buckets, ∀ step ∈ bucket.2, step.precedence = bucket.1)
    (precedence : Int) :
    ((changeEntry step.precedence [] (· ++ [step]) buckets).flatMap (·.2)).filter
        (·.precedence = precedence) =
      (buckets.flatMap (·.2) ++ [step]).filter (·.precedence = precedence) := by
  induction buckets with
  | nil => rfl
  | cons first buckets ih =>
      obtain ⟨other, held⟩ := first
      obtain ⟨above, rest⟩ := List.pairwise_cons.mp increase
      have onward := fun bucket member => level bucket (List.mem_cons_of_mem _ member)
      simp only [changeEntry]
      split
      · rename_i below
        by_cases own : step.precedence = precedence
        · have none : (((other, held) :: buckets).flatMap (·.2)).filter
              (·.precedence = precedence) = [] := by
            apply filter_eq_nil_of_above level
            intro bucket member
            rcases List.mem_cons.mp member with rfl | later
            · exact own ▸ below
            · exact own ▸ Int.lt_trans below (above bucket later)
          rw [List.flatMap_cons, List.filter_append, none, List.append_nil,
            List.filter_append (((other, held) :: buckets).flatMap (·.2)), none]
          rfl
        · simp [own]
      · split
        · rename_i same
          subst same
          rw [List.flatMap_cons, List.flatMap_cons, List.append_assoc, List.append_assoc,
            List.filter_append, List.filter_append held]
          congr 1
          by_cases own : step.precedence = precedence
          · rw [List.filter_append, List.filter_append,
              filter_eq_nil_of_above onward fun bucket member => own ▸ above bucket member]
            simp
          · simp [own]
        · rw [List.flatMap_cons, List.flatMap_cons, List.append_assoc, List.filter_append,
            List.filter_append, ih rest onward]

/-- A workflow holds the steps that were added to it, in buckets. -/
structure Holds (workflow : Workflow) (added : List Step) : Prop where
  sound : workflow.Sound
  arranges : Arranges workflow.steps added

namespace Holds

theorem empty : Workflow.empty.Holds [] where
  sound := .empty
  arranges := .nil

theorem push
    {workflow : Workflow}
    {added : List Step}
    (holds : workflow.Holds added)
    (step : Step) :
    (workflow.push step).Holds (added ++ [step]) where
  sound := holds.sound.push step
  arranges := {
    ordered := (holds.sound.push step).ordered
    alike := by
      intro precedence
      have placed := filter_changeEntry step holds.sound.increase holds.sound.level precedence
      rw [List.filter_append, ← holds.arranges.alike precedence, ← List.filter_append]
      exact placed }

theorem extend
    {workflow : Workflow}
    {added : List Step}
    (holds : workflow.Holds added)
    (steps : List Step) :
    (workflow.extend steps).Holds (added ++ steps) := by
  induction steps generalizing workflow added with
  | nil => simpa using holds
  | cons step steps ih => simpa using ih (holds.push step)

end Holds

/-- How a workflow is made. -/
inductive Recipe where
  | empty
  | collect (steps : List Step)
  | push (recipe : Recipe) (step : Step)
  | extend (recipe : Recipe) (steps : List Step)
  /-- The steps of the second workflow are added to the first one. -/
  | join (left right : Recipe)

namespace Recipe

/-- The workflow that is made. -/
def workflow : Recipe → Workflow
  | .empty => Workflow.empty
  | .collect steps => .ofSteps steps
  | .push recipe step => recipe.workflow.push step
  | .extend recipe steps => recipe.workflow.extend steps
  | .join left right => left.workflow.extend right.workflow.steps

/-- The steps in the order in which they were added. -/
def added : Recipe → List Step
  | .empty => []
  | .collect steps => steps
  | .push recipe step => recipe.added ++ [step]
  | .extend recipe steps => recipe.added ++ steps
  | .join left right => left.added ++ right.added

/-- However a workflow is made, it holds the steps that were added. -/
theorem holds (recipe : Recipe) : recipe.workflow.Holds recipe.added := by
  induction recipe with
  | empty => exact .empty
  | collect steps => exact Holds.empty.extend steps
  | push recipe step ih => exact ih.push step
  | extend recipe steps ih => exact ih.extend steps
  | join left right leftHolds rightHolds =>
      have joined := leftHolds.extend right.workflow.steps
      refine ⟨joined.sound, joined.arranges.trans ?_⟩
      intro precedence
      rw [List.filter_append, rightHolds.arranges.alike precedence, ← List.filter_append]
      rfl

end Recipe

/-! ## Buckets -/

/-- A bucket holds all steps of its precedence. -/
theorem filter_of_mem_buckets
    {buckets : List (Int × List Step)}
    (increase : buckets.Pairwise fun left right => left.1 < right.1)
    (level : ∀ bucket ∈ buckets, ∀ step ∈ bucket.2, step.precedence = bucket.1)
    {bucket : Int × List Step}
    (member : bucket ∈ buckets) :
    (buckets.flatMap (·.2)).filter (·.precedence = bucket.1) = bucket.2 := by
  induction buckets with
  | nil => cases member
  | cons first buckets ih =>
      obtain ⟨above, rest⟩ := List.pairwise_cons.mp increase
      have onward := fun bucket member => level bucket (List.mem_cons_of_mem first member)
      rw [List.flatMap_cons, List.filter_append]
      rcases List.mem_cons.mp member with rfl | later
      · have own : bucket.2.filter (·.precedence = bucket.1) = bucket.2 := by
          rw [List.filter_eq_self]
          intro step inside
          exact decide_eq_true (level bucket member step inside)
        rw [own, filter_eq_nil_of_above onward above, List.append_nil]
      · have before : first.2.filter (·.precedence = bucket.1) = [] := by
          rw [List.filter_eq_nil_iff]
          intro step inside
          have greater := above bucket later
          have at_first := level first List.mem_cons_self step inside
          simp only [decide_eq_true_eq]
          omega
        rw [before, List.nil_append, ih rest onward later]

/-- The lengths of the buckets add up to the length of all of them, one behind the other. -/
theorem foldl_length (buckets : List (Int × List Step)) (start : Nat) :
    buckets.foldl (fun total bucket => total + bucket.2.length) start =
      start + (buckets.flatMap (·.2)).length := by
  induction buckets generalizing start with
  | nil => rfl
  | cons bucket buckets ih =>
      rw [List.foldl_cons, ih, List.flatMap_cons, List.length_append, Nat.add_assoc]

namespace Holds

variable {workflow : Workflow} {added : List Step}

/-- There is a bucket of each precedence with which a step was added, and no other. -/
theorem mem_precedences_iff (holds : workflow.Holds added) (precedence : Int) :
    precedence ∈ workflow.precedences ↔ ∃ step ∈ added, step.precedence = precedence := by
  constructor
  · intro member
    obtain ⟨bucket, among, rfl⟩ := List.mem_map.mp member
    obtain ⟨step, inside⟩ := List.exists_mem_of_ne_nil bucket.2 (holds.sound.filled bucket among)
    have present : step ∈ workflow.steps := List.mem_flatMap.mpr ⟨bucket, among, inside⟩
    exact ⟨step, (holds.arranges.mem_iff step).mp present, holds.sound.level bucket among step inside⟩
  · rintro ⟨step, member, rfl⟩
    have present := (holds.arranges.mem_iff step).mpr member
    obtain ⟨bucket, among, inside⟩ := List.mem_flatMap.mp present
    exact List.mem_map.mpr ⟨bucket, among, (holds.sound.level bucket among step inside).symm⟩

/-- The buckets: for each precedence the steps that were added with it, if any. -/
theorem mem_buckets_iff (holds : workflow.Holds added) (precedence : Int) (steps : List Step) :
    (precedence, steps) ∈ workflow.buckets ↔
      steps ≠ [] ∧ steps = added.filter (·.precedence = precedence) := by
  have whole {bucket : Int × List Step} (member : bucket ∈ workflow.buckets) :
      added.filter (·.precedence = bucket.1) = bucket.2 := by
    rw [← holds.arranges.alike]
    exact filter_of_mem_buckets holds.sound.increase holds.sound.level member
  constructor
  · intro member
    exact ⟨holds.sound.filled _ member, (whole member).symm⟩
  · rintro ⟨filled, rfl⟩
    obtain ⟨step, inside⟩ := List.exists_mem_of_ne_nil _ filled
    obtain ⟨among, at_precedence⟩ := List.mem_filter.mp inside
    have present := (holds.mem_precedences_iff precedence).mpr
      ⟨step, among, of_decide_eq_true at_precedence⟩
    obtain ⟨bucket, member, rfl⟩ := List.mem_map.mp present
    rw [whole member]
    exact member

theorem size_eq (holds : workflow.Holds added) : workflow.size = added.length := by
  rw [← holds.arranges.length_eq, steps, size, foldl_length, Nat.zero_add]

/-- A workflow without buckets has no steps, because no bucket is empty. -/
theorem isEmpty_iff (holds : workflow.Holds added) : workflow.isEmpty = true ↔ added = [] := by
  rw [isEmpty, List.isEmpty_iff, ← holds.arranges.eq_nil_iff, steps, List.flatMap_eq_nil_iff]
  constructor
  · rintro none bucket member
    rw [none] at member
    exact absurd member List.not_mem_nil
  · intro hollow
    rw [List.eq_nil_iff_forall_not_mem]
    intro bucket member
    exact holds.sound.filled bucket member (hollow bucket member)

end Holds

end Workflow

end RequestHub
