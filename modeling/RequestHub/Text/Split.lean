/-!
# Splitting

Paths, queries and lists in header values are cut at a separator.  Cutting never loses anything:
the pieces, joined by the separator, give back what was cut, and there is always at least one.
-/

namespace RequestHub.Text

/-- The pieces between the occurrences of a separator; at least one, possibly empty. -/
def cut {α : Type} [DecidableEq α] (separator : α) : List α → List (List α)
  | [] => [[]]
  | item :: items =>
      if item = separator then [] :: cut separator items
      else
        match cut separator items with
        | [] => [[item]]
        | piece :: pieces => (item :: piece) :: pieces

/-- The part before the first separator and, if there is one, the part after it. -/
def cutOnce {α : Type} [DecidableEq α] (separator : α) : List α → List α × Option (List α)
  | [] => ([], none)
  | item :: items =>
      if item = separator then ([], some items)
      else
        let (before, after) := cutOnce separator items
        (item :: before, after)

theorem cut_ne_nil {α : Type} [DecidableEq α] (separator : α) (items : List α) :
    cut separator items ≠ [] := by
  cases items with
  | nil => simp [cut]
  | cons item items =>
      simp only [cut]
      split
      · simp
      · split <;> simp

@[simp]
theorem cut_nil {α : Type} [DecidableEq α] (separator : α) : cut separator [] = [[]] := rfl

@[simp]
theorem cut_separator {α : Type} [DecidableEq α] (separator : α) (items : List α) :
    cut separator (separator :: items) = [] :: cut separator items := by
  rw [cut, if_pos rfl]

/-- What is no separator stands at the front of the first piece. -/
theorem cut_of_ne {α : Type} [DecidableEq α] {separator item : α} (different : item ≠ separator)
    (items : List α) :
    cut separator (item :: items) = (cut separator items).modifyHead (item :: ·) := by
  rw [cut, if_neg different]
  cases found : cut separator items with
  | nil => exact absurd found (cut_ne_nil _ _)
  | cons piece pieces => rfl

/-- Nothing but the separators is lost by cutting. -/
@[simp]
theorem intercalate_cut {α : Type} [DecidableEq α] (separator : α) (items : List α) :
    [separator].intercalate (cut separator items) = items := by
  induction items with
  | nil => simp [cut, List.intercalate]
  | cons item items ih =>
      by_cases equal : item = separator
      · subst equal
        rw [cut_separator]
        cases found : cut item items with
        | nil => exact absurd found (cut_ne_nil _ _)
        | cons piece pieces =>
            rw [found] at ih
            simp only [List.intercalate, List.intersperse_cons_cons, List.flatten_cons,
              List.nil_append, List.singleton_append] at ih ⊢
            rw [ih]
      · rw [cut_of_ne equal]
        cases found : cut separator items with
        | nil => exact absurd found (cut_ne_nil _ _)
        | cons piece pieces =>
            rw [found] at ih
            cases pieces with
            | nil => simpa [List.intercalate] using ih
            | cons next pieces => simpa [List.intercalate] using ih

/-- What has no separator in it is one piece. -/
theorem cut_of_not_mem {α : Type} [DecidableEq α] {separator : α} {items : List α}
    (absent : separator ∉ items) : cut separator items = [items] := by
  induction items with
  | nil => rfl
  | cons item items ih =>
      obtain ⟨different, rest⟩ := not_or.mp (mt List.mem_cons.mpr absent)
      rw [cut_of_ne (Ne.symm different), ih rest, List.modifyHead_cons]

/-- What stands before a separator and what stands behind it are cut apart from each other. -/
theorem cut_append_separator {α : Type} [DecidableEq α] (separator : α) (front back : List α) :
    cut separator (front ++ separator :: back) = cut separator front ++ cut separator back := by
  induction front with
  | nil => simp
  | cons item front ih =>
      rw [List.cons_append]
      by_cases equal : item = separator
      · rw [equal, cut_separator, cut_separator, ih, List.cons_append]
      · rw [cut_of_ne equal, cut_of_ne equal, ih]
        cases found : cut separator front with
        | nil => exact absurd found (cut_ne_nil _ _)
        | cons piece pieces => rfl

/-- The part before the first separator is the first piece. -/
theorem cut_append_cons {α : Type} [DecidableEq α] {separator : α} {piece : List α}
    (absent : separator ∉ piece) (items : List α) :
    cut separator (piece ++ separator :: items) = piece :: cut separator items := by
  rw [cut_append_separator, cut_of_not_mem absent]
  rfl

/-- The part before the first separator ends there. -/
theorem cutOnce_append_cons {α : Type} [DecidableEq α] {separator : α} {front : List α}
    (absent : separator ∉ front) (items : List α) :
    cutOnce separator (front ++ separator :: items) = (front, some items) := by
  induction front with
  | nil => rw [List.nil_append, cutOnce, if_pos rfl]
  | cons item front ih =>
      obtain ⟨different, rest⟩ := not_or.mp (mt List.mem_cons.mpr absent)
      rw [List.cons_append, cutOnce, if_neg (Ne.symm different), ih rest]

/-- Pieces have no separator in them. -/
theorem not_mem_of_mem_cut {α : Type} [DecidableEq α] {separator : α} {items piece : List α}
    (member : piece ∈ cut separator items) : separator ∉ piece := by
  induction items generalizing piece with
  | nil =>
      obtain rfl := List.mem_singleton.mp member
      exact List.not_mem_nil
  | cons item items ih =>
      by_cases equal : item = separator
      · rw [equal, cut_separator] at member
        rcases List.mem_cons.mp member with rfl | later
        · exact List.not_mem_nil
        · exact ih later
      · rw [cut_of_ne equal] at member
        cases found : cut separator items with
        | nil => exact absurd found (cut_ne_nil _ _)
        | cons first pieces =>
            rw [found] at ih member
            rcases List.mem_cons.mp member with rfl | later
            · exact List.not_mem_cons_of_ne_of_not_mem (Ne.symm equal) (ih List.mem_cons_self)
            · exact ih (List.mem_cons_of_mem _ later)

/-- A sequence without a leading part, if it starts with that part. -/
def dropLead? {α : Type} [DecidableEq α] : List α → List α → Option (List α)
  | [], items => some items
  | _ :: _, [] => none
  | expected :: lead, item :: items =>
      if expected = item then dropLead? lead items else none

@[simp]
theorem dropLead?_eq_some_iff {α : Type} [DecidableEq α] (lead items rest : List α) :
    dropLead? lead items = some rest ↔ items = lead ++ rest := by
  induction lead generalizing items with
  | nil => simp [dropLead?, eq_comm]
  | cons expected lead ih =>
      cases items with
      | nil => simp [dropLead?]
      | cons item items =>
          simp only [dropLead?, List.cons_append, List.cons.injEq]
          split
          · rename_i equal
            simp [equal, ih]
          · rename_i different
            simp [Ne.symm different]

end RequestHub.Text
