import Mathlib.Algebra.Ring.Nat
import RequestHub.Decimal.Reading

/-!
# Digits of a radix

Numbers are written in the digits of a radix, perhaps with zeros in front up to a fixed number of digits.
They are read by adding one digit after another to the radix times what was read before; whoever knows the
digits reads back the number that was written.
-/

namespace RequestHub.Digits

variable {radix : Nat}

/-- What is true of each digit is true of all the digits of a number. -/
theorem forall_mem_toDigits
    (several : 1 < radix)
    {holds : Char → Prop}
    (each : ∀ digit < radix, holds (Nat.digitChar digit))
    (number : Nat) :
    ∀ char ∈ Nat.toDigits radix number, holds char := by
  induction number using Nat.strongRecOn with
  | ind number ih =>
      have last := each (number % radix) (Nat.mod_lt _ (Nat.zero_lt_of_lt several))
      by_cases single : number < radix
      · rw [Nat.toDigits_of_lt_base single, List.forall_mem_singleton]
        rwa [Nat.mod_eq_of_lt single] at last
      · rw [Nat.toDigits_of_base_le several (Nat.le_of_not_lt single)]
        refine List.forall_mem_append.mpr ⟨ih (number / radix) (Nat.div_lt_self ?_ several), ?_⟩
        · omega
        · exact List.forall_mem_singleton.mpr last

/-- The number that some digits spell behind a number that was read before. -/
def spelled (radix : Nat) (value? : Char → Option Nat) (before : Option Nat) (chars : List Char) :
    Option Nat :=
  chars.foldl (fun value char => do return (← value) * radix + (← value? char)) before

variable {value? : Char → Option Nat}

theorem spelled_zeros
    (zero : value? '0' = some 0)
    (count : Nat)
    (chars : List Char) :
    spelled radix value? (some 0) (List.replicate count '0' ++ chars) =
      spelled radix value? (some 0) chars := by
  induction count with
  | zero => rfl
  | succ count ih =>
      rw [List.replicate_succ, List.cons_append, spelled, List.foldl_cons]
      simp only [zero, Option.pure_def, Option.bind_eq_bind, Option.bind_some, Nat.zero_mul]
      exact ih

/-- The digits of a number spell the number. -/
theorem spelled_toDigits
    (several : 1 < radix)
    (reads : ∀ digit < radix, value? (Nat.digitChar digit) = some digit)
    (number : Nat) :
    spelled radix value? (some 0) (Nat.toDigits radix number) = some number := by
  induction number using Nat.strongRecOn with
  | ind number ih =>
      have last := reads (number % radix) (Nat.mod_lt _ (Nat.zero_lt_of_lt several))
      by_cases single : number < radix
      · rw [Nat.toDigits_of_lt_base single]
        rw [Nat.mod_eq_of_lt single] at last
        simp [spelled, last]
      · have front := ih (number / radix) (Nat.div_lt_self (by omega) several)
        rw [Nat.toDigits_of_base_le several (Nat.le_of_not_lt single), spelled, List.foldl_append]
        change List.foldl _ (spelled radix value? (some 0) (Nat.toDigits radix (number / radix))) _ = _
        rw [front]
        simp [last, Nat.div_add_mod']

/-- A number that is not zero is written without zeros in front. -/
theorem exists_leading
    (several : 1 < radix)
    {number : Nat}
    (positive : 0 < number) :
    ∃ digit chars, 0 < digit ∧ digit < radix ∧
      Nat.toDigits radix number = Nat.digitChar digit :: chars := by
  induction number using Nat.strongRecOn with
  | ind number ih =>
      by_cases single : number < radix
      · exact ⟨number, [], positive, single, Nat.toDigits_of_lt_base single⟩
      · have front : 0 < number / radix :=
          Nat.div_pos (Nat.le_of_not_lt single) (Nat.zero_lt_of_lt several)
        obtain ⟨digit, chars, nonzero, below, form⟩ :=
          ih (number / radix) (Nat.div_lt_self positive several) front
        refine ⟨digit, chars ++ [Nat.digitChar (number % radix)], nonzero, below, ?_⟩
        rw [Nat.toDigits_of_base_le several (Nat.le_of_not_lt single), form, List.cons_append]

end RequestHub.Digits
