import RequestHub.Text.Blank

/-!
# Trimmed texts

Trimming a text leaves the part of it that neither begins nor ends with what is to be dropped and has nothing
else at its two sides.  There is one such part.
-/

namespace RequestHub.Text

variable {drop : Char → Bool} {written name : List Char}

/-- What is left of a text when everything that is to be dropped is gone from its two ends. -/
structure Trims (drop : Char → Bool) (written name : List Char) : Prop where
  within : ∃ front back, written = front ++ name ++ back ∧
    (∀ char ∈ front, drop char = true) ∧ ∀ char ∈ back, drop char = true
  first : ∀ char ∈ name.head?, drop char = false
  last : ∀ char ∈ name.getLast?, drop char = false

theorem dropWhile_of_first
    (first : ∀ char ∈ name.head?, drop char = false) :
    name.dropWhile drop = name := by
  cases name with
  | nil => rfl
  | cons char chars => exact List.dropWhile_cons_of_neg (by simp [first char rfl])

/-- Nothing is left open: there is one such text. -/
theorem Trims.eq_trimBy (trims : Trims drop written name) : name = trimBy drop written := by
  obtain ⟨⟨front, back, rfl, allFront, allBack⟩, first, last⟩ := trims
  have turned : ∀ char ∈ back.reverse, drop char = true :=
    fun char member => allBack char (List.mem_reverse.mp member)
  rw [trimBy, List.append_assoc, List.dropWhile_append_of_pos allFront]
  cases name with
  | nil =>
      have gone : back.dropWhile drop = [] := by
        rw [← List.append_nil back, List.dropWhile_append_of_pos allBack, List.dropWhile_nil]
      rw [List.nil_append, gone]
      rfl
  | cons char chars =>
      have stays : (char :: chars ++ back).dropWhile drop = char :: chars ++ back :=
        dropWhile_of_first first
      rw [stays, List.reverse_append, List.dropWhile_append_of_pos turned, dropWhile_of_first,
        List.reverse_reverse]
      rwa [List.head?_reverse]

theorem not_dropped_of_head?_dropWhile
    {chars : List Char}
    {char : Char}
    (first : char ∈ (chars.dropWhile drop).head?) :
    drop char = false := by
  have stays := List.head?_dropWhile_not drop chars
  rwa [Option.mem_def.mp first] at stays

/-- A part at the front of what is left behind the first drops begins with something that stays. -/
theorem first_of_append
    {chars back : List Char}
    (split : name ++ back = chars.dropWhile drop) :
    ∀ char ∈ name.head?, drop char = false := by
  intro char member
  have first : char ∈ (chars.dropWhile drop).head? := by
    rw [← split, List.head?_append, Option.mem_def.mp member]
    rfl
  exact not_dropped_of_head?_dropWhile first

/-- Trimming drops something behind what it leaves, once it has dropped something before it. -/
theorem trimBy_append_eq
    (drop : Char → Bool)
    (written : List Char) :
    trimBy drop written ++ ((written.dropWhile drop).reverse.takeWhile drop).reverse =
      written.dropWhile drop := by
  rw [trimBy, ← List.reverse_append, List.takeWhile_append_dropWhile, List.reverse_reverse]

theorem trims_trimBy
    (drop : Char → Bool)
    (written : List Char) :
    Trims drop written (trimBy drop written) where
  within := by
    refine ⟨written.takeWhile drop, ((written.dropWhile drop).reverse.takeWhile drop).reverse, ?_,
      List.all_eq_true.mp List.all_takeWhile, fun char member => ?_⟩
    · rw [List.append_assoc, trimBy_append_eq, List.takeWhile_append_dropWhile]
    · exact List.all_eq_true.mp List.all_takeWhile char (List.mem_reverse.mp member)
  first := first_of_append (trimBy_append_eq drop written)
  last := by
    intro char member
    rw [trimBy, List.getLast?_reverse] at member
    exact not_dropped_of_head?_dropWhile member

end RequestHub.Text
