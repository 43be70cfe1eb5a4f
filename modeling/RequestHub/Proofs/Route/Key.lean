import Mathlib.Data.List.Basic
import RequestHub.Route

/-!
# Routing keys

A routing key is written in small letters as a whole, and the small form of a letter can depend on its
neighbours.  A slash ends a word, so that the two names of a key are written in small letters apart from
each other.  As no other character becomes a slash, the key of two names without slashes is the key of
exactly those names that agree with them up to case.
-/

namespace RequestHub

namespace Text

namespace Case

/-! ## A slash ends a word -/

@[simp]
theorem isIgnorable_slash : isIgnorable '/' = false := by decide +kernel

@[simp]
theorem isCased_slash : isCased '/' = false := by decide +kernel

@[simp]
theorem lowerChar_slash : lowerChar '/' = ['/'] := by decide

/-- What comes behind a slash is not seen from before it. -/
@[simp]
theorem meetsCased_append_slash (chars hidden : List Char) :
    meetsCased (chars ++ '/' :: hidden) = meetsCased chars := by
  induction chars with
  | nil => simp [meetsCased]
  | cons char chars ih =>
      by_cases skipped : isIgnorable char = true
      · simpa [meetsCased, skipped] using ih
      · simp [meetsCased, skipped]

@[simp]
theorem lowerAfter_behind_slash (near hidden chars : List Char) :
    lowerAfter (near ++ '/' :: hidden) chars = lowerAfter near chars := by
  induction chars generalizing near with
  | nil => rfl
  | cons char chars ih =>
      rw [lowerAfter, lowerAfter, meetsCased_append_slash, ← List.cons_append, ih]

/-- The parts before and behind a slash are written in small letters apart from each other. -/
@[simp]
theorem lowerAfter_append_slash (before left right : List Char) :
    lowerAfter before (left ++ '/' :: right) =
      lowerAfter before left ++ '/' :: lowerAfter [] right := by
  induction left generalizing before with
  | nil =>
      have apart := lowerAfter_behind_slash [] before right
      rw [List.nil_append] at apart
      simp [lowerAfter, apart]
  | cons char left ih =>
      rw [List.cons_append, lowerAfter, lowerAfter, meetsCased_append_slash, ih]
      simp

/-! ## No other character becomes a slash -/

theorem ofNat_ne_slash {number : Nat} (above : 0x30 ≤ number) : Char.ofNat number ≠ '/' := by
  intro same
  have value : (Char.ofNat number).toNat = 0x2F := congrArg Char.toNat same
  unfold Char.ofNat at value
  by_cases valid : number.isValidChar
  · rw [dif_pos valid] at value
    have moved : number = 0x2F := value
    omega
  · rw [dif_neg valid] at value
    cases value

theorem toLower_ne_slash {char : Char} (ascii : char.toNat < 128) (other : char ≠ '/') :
    char.toLower ≠ '/' := by
  have each : ∀ number < 128, Char.ofNat number ≠ '/' → (Char.ofNat number).toLower ≠ '/' := by
    decide
  have image := each char.toNat ascii
  rw [Char.ofNat_toNat] at image
  exact image other

/-- The small forms of the tables are letters, which come behind the slash. -/
theorem le_image_of_mem_lowerRuns : ∀ run ∈ lowerRuns, 0x30 ≤ run.image := by decide +kernel

theorem mapThrough_ne_slash {char : Char} (other : char ≠ '/') :
    mapThrough lowerRuns char ≠ '/' := by
  unfold mapThrough
  split
  · rename_i image found
    rcases List.exists_of_findSome?_eq_some found with ⟨run, member, moved⟩
    have above : 0x30 ≤ image := by
      have low := le_image_of_mem_lowerRuns run member
      unfold Run.image? at moved
      split at moved
      · have moved := Option.some.inj moved
        omega
      · cases moved
    exact ofNat_ne_slash above
  · exact other

theorem slash_not_mem_lowerChar {char : Char} (other : char ≠ '/') : '/' ∉ lowerChar char := by
  unfold lowerChar
  split
  · rename_i ascii
    exact fun member => toLower_ne_slash ascii other (List.mem_singleton.mp member).symm
  · split
    · decide
    · exact fun member => mapThrough_ne_slash other (List.mem_singleton.mp member).symm

theorem slash_not_mem_lowerAfter
    {chars : List Char} (whole : '/' ∉ chars) (before : List Char) :
    '/' ∉ lowerAfter before chars := by
  induction chars generalizing before with
  | nil => exact List.not_mem_nil
  | cons char chars ih =>
      rcases not_or.mp (mt List.mem_cons.mpr whole) with ⟨other, rest⟩
      rw [lowerAfter, List.mem_append, not_or]
      refine ⟨?_, ih rest _⟩
      split
      · split <;> decide
      · exact slash_not_mem_lowerChar (Ne.symm other)

/-- A slash stays one, so that the small form has one only if the text has. -/
@[simp]
theorem slash_mem_lowerAfter_iff (before chars : List Char) :
    '/' ∈ lowerAfter before chars ↔ '/' ∈ chars := by
  constructor
  · exact fun member => Decidable.byContradiction fun whole =>
      slash_not_mem_lowerAfter whole before member
  · intro member
    rcases List.append_of_mem member with ⟨left, right, rfl⟩
    rw [lowerAfter_append_slash]
    exact List.mem_append_right _ List.mem_cons_self

theorem lowerChar_ne_nil (char : Char) : lowerChar char ≠ [] := by
  unfold lowerChar
  split
  · exact List.cons_ne_nil _ _
  · split <;> exact List.cons_ne_nil _ _

@[simp]
theorem lowerAfter_eq_nil_iff (before chars : List Char) :
    lowerAfter before chars = [] ↔ chars = [] := by
  cases chars with
  | nil => simp [lowerAfter]
  | cons char chars =>
      rw [lowerAfter, List.append_eq_nil_iff]
      constructor
      · rintro ⟨image, -⟩
        split at image
        · split at image <;> cases image
        · exact absurd image (lowerChar_ne_nil char)
      · rintro ⟨⟩

end Case

/-! ## Keys of two names -/

/-- A text without slashes. -/
def Whole (text : String) : Prop :=
  '/' ∉ text.toList

instance (text : String) : Decidable (Whole text) :=
  inferInstanceAs (Decidable ('/' ∉ text.toList))

@[simp]
theorem toList_lower (text : String) : (lower text).toList = Case.lowerAfter [] text.toList :=
  String.toList_ofList

@[simp]
theorem whole_lower_iff (text : String) : Whole (lower text) ↔ Whole text := by
  rw [Whole, toList_lower, Case.slash_mem_lowerAfter_iff, Whole]

@[simp]
theorem lower_eq_empty_iff (text : String) : lower text = "" ↔ text = "" := by
  rw [← String.toList_inj, toList_lower, ← String.toList_inj]
  exact Case.lowerAfter_eq_nil_iff [] text.toList

end Text

open Text

/-- The two names of a key are written in small letters apart from each other. -/
theorem toList_routingKey (api name : String) :
    (routingKey api name).toList = (lower api).toList ++ '/' :: (lower name).toList := by
  have spelled : (api ++ "/" ++ name).toList = api.toList ++ '/' :: name.toList := by simp
  rw [routingKey, toList_lower, toList_lower, toList_lower, spelled, Case.lowerAfter_append_slash]

/-- A key of names without slashes is cut into the two names again. -/
theorem routingKey_eq_iff
    {api name : String} (apiWhole : Whole api) (nameWhole : Whole name) (other another : String) :
    routingKey other another = routingKey api name ↔
      lower other = lower api ∧ lower another = lower name := by
  constructor
  · intro same
    have lists := congrArg String.toList same.symm
    rw [toList_routingKey, toList_routingKey] at lists
    obtain ⟨sameApi, -, sameName⟩ := (List.append_cons_inj_of_notMem
      ((whole_lower_iff api).mpr apiWhole) ((whole_lower_iff name).mpr nameWhole)).mp lists
    exact ⟨String.toList_inj.mp sameApi.symm, String.toList_inj.mp sameName.symm⟩
  · rintro ⟨sameApi, sameName⟩
    rw [← String.toList_inj, toList_routingKey, toList_routingKey, sameApi, sameName]

end RequestHub
