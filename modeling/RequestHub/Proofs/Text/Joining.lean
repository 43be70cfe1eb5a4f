import Mathlib.Data.List.Basic

/-!
# Two texts joined by a mark

A key is written by putting a mark between two texts.  Where a text may have marks of its own, two pairs
of texts can be written alike: one of the first texts then goes on, behind a mark, with what the other
second text begins with.
-/

namespace RequestHub.Text

/-- Two sequences that are joined in the same way have the same parts, or one goes on into the other. -/
theorem append_cons_eq_append_cons_iff
    {α : Type} (separator : α) (left right other another : List α) :
    left ++ separator :: right = other ++ separator :: another ↔
      (left = other ∧ right = another) ∨
        (∃ middle, other = left ++ separator :: middle ∧ right = middle ++ separator :: another) ∨
          ∃ middle, left = other ++ separator :: middle ∧ another = middle ++ separator :: right := by
  rw [List.append_eq_append_iff]
  constructor
  -- What the one left part has beyond the other is nothing, or it begins with a separator.
  · rintro (⟨rest, rfl, joined⟩ | ⟨rest, rfl, joined⟩)
    · cases rest with
      | nil => exact Or.inl ⟨(List.append_nil _).symm, (List.cons.inj joined).2⟩
      | cons first middle =>
          obtain ⟨rfl, same⟩ := List.cons.inj joined
          exact Or.inr (Or.inl ⟨middle, rfl, same⟩)
    · cases rest with
      | nil => exact Or.inl ⟨List.append_nil _, (List.cons.inj joined).2.symm⟩
      | cons first middle =>
          obtain ⟨rfl, same⟩ := List.cons.inj joined
          exact Or.inr (Or.inr ⟨middle, rfl, same⟩)
  · rintro (⟨rfl, rfl⟩ | ⟨middle, rfl, rfl⟩ | ⟨middle, rfl, rfl⟩)
    · exact Or.inl ⟨[], (List.append_nil _).symm, rfl⟩
    · exact Or.inl ⟨separator :: middle, rfl, rfl⟩
    · exact Or.inr ⟨separator :: middle, rfl, rfl⟩

/-- The other text goes on, behind the mark, with what the text on the right begins with. -/
def RunsOn
    (mark : String)
    (left right other another : String) : Prop :=
  ∃ middle, other = left ++ mark ++ middle ∧ right = middle ++ mark ++ another

/-- Of two pairs of texts the first text of one runs on into the other pair. -/
def Overlap
    (mark : String)
    (left right other another : String) : Prop :=
  RunsOn mark left right other another ∨ RunsOn mark other another left right

section Mark

variable {mark : String} {char : Char} (single : mark.toList = [char])
include single

theorem toList_joined
    (left right : String) :
    (left ++ mark ++ right).toList = left.toList ++ char :: right.toList := by
  rw [String.toList_append, String.toList_append, single, List.append_assoc, List.singleton_append]

theorem runsOn_iff
    (left right other another : String) :
    RunsOn mark left right other another ↔
      ∃ middle,
        other.toList = left.toList ++ char :: middle ∧
          right.toList = middle ++ char :: another.toList := by
  constructor
  · rintro ⟨middle, first, second⟩
    refine ⟨middle.toList, ?_, ?_⟩
    · rw [first, toList_joined single]
    · rw [second, toList_joined single]
  · rintro ⟨middle, first, second⟩
    refine ⟨String.ofList middle, String.toList_inj.mp ?_, String.toList_inj.mp ?_⟩
    · rw [toList_joined single, String.toList_ofList, first]
    · rw [toList_joined single, String.toList_ofList, second]

/-- Two pairs of texts are joined alike exactly if they are the same or overlap. -/
theorem joined_eq_joined_iff
    (left right other another : String) :
    left ++ mark ++ right = other ++ mark ++ another ↔
      (left = other ∧ right = another) ∨ Overlap mark left right other another := by
  rw [← String.toList_inj, toList_joined single, toList_joined single,
    append_cons_eq_append_cons_iff, Overlap, runsOn_iff single, runsOn_iff single,
    String.toList_inj, String.toList_inj]

/-- A text that runs on has the mark, and so has the text into which it runs. -/
theorem RunsOn.mark_mem
    {left right other another : String}
    (runs : RunsOn mark left right other another) :
    char ∈ other.toList ∧ char ∈ right.toList := by
  obtain ⟨middle, first, second⟩ := (runsOn_iff single ..).mp runs
  rw [first, second]
  constructor
  · exact List.mem_append_right _ List.mem_cons_self
  · exact List.mem_append_right _ List.mem_cons_self

/-- Pairs do not overlap where no first text has the mark, or no second one. -/
theorem not_overlap_of_unmarked
    {left right other another : String}
    (unmarked : (char ∉ left.toList ∧ char ∉ other.toList) ∨
      (char ∉ right.toList ∧ char ∉ another.toList)) :
    ¬ Overlap mark left right other another := by
  intro overlap
  cases overlap with
  | inl runs =>
      have marked := runs.mark_mem single
      exact unmarked.elim (fun firsts => firsts.2 marked.1) fun seconds => seconds.1 marked.2
  | inr runs =>
      have marked := runs.mark_mem single
      exact unmarked.elim (fun firsts => firsts.1 marked.1) fun seconds => seconds.2 marked.2

/-- A pair does not overlap with itself. -/
theorem not_overlap_self
    (left right : String) :
    ¬ Overlap mark left right left right := by
  have longer : ¬ RunsOn mark left right left right := by
    intro runs
    obtain ⟨middle, first, -⟩ := (runsOn_iff single ..).mp runs
    have length := congrArg List.length first
    rw [List.length_append, List.length_cons] at length
    omega
  exact fun overlap => overlap.elim longer longer

end Mark

end RequestHub.Text
