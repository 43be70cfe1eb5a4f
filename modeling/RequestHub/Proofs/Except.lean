/-!
# Computations that may fail

A sequence of computations succeeds exactly if each of them does, on what the ones before it gave.
-/

namespace RequestHub

variable {α β ε : Type}

@[simp]
theorem except_ok_bind (first : α) (next : α → Except ε β) :
    (Except.ok first >>= next) = next first := rfl

@[simp]
theorem except_error_bind (error : ε) (next : α → Except ε β) :
    (Except.error error >>= next) = .error error := rfl

theorem except_bind_eq_ok_iff
    {part : Except ε α} {next : α → Except ε β} {value : β} :
    (part >>= next) = .ok value ↔ ∃ first, part = .ok first ∧ next first = .ok value := by
  cases part with
  | ok first => simp
  | error error => exact iff_of_false nofun nofun

theorem option_mapM_some_eq_ok
    {step : α → Except ε β} {first : α} {value : Option β}
    (done : (some first).mapM step = .ok value) :
    ∃ second, step first = .ok second ∧ value = some second := by
  rw [Option.mapM_some] at done
  cases made : step first with
  | error error =>
      rw [made] at done
      cases done
  | ok second =>
      rw [made] at done
      cases done
      exact ⟨second, rfl, rfl⟩

/-- What is done to a list only depends on what is done to its items. -/
theorem list_mapM_congr
    {step other : α → Except ε β} {items : List α}
    (same : ∀ item ∈ items, step item = other item) : items.mapM step = items.mapM other := by
  induction items with
  | nil => rfl
  | cons item items ih =>
      obtain ⟨first, others⟩ := List.forall_mem_cons.mp same
      rw [List.mapM_cons, List.mapM_cons, first, ih others]

end RequestHub
