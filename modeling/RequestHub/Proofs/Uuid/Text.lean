import RequestHub.Proofs.Text.Digits
import RequestHub.Uuid

/-!
# Identifiers and their texts

The digits of an identifier can be read back, so that identifiers of 128 bits with one text are equal.
New identifiers are told apart by the numbers with which they are made, as far as there is room for
those numbers beside the time.
-/

namespace RequestHub.Uuid

theorem hexValue?_digitChar :
    ∀ digit < 16, hexValue? (Nat.digitChar digit) = some digit := by
  decide

theorem digitChar_ne_hyphen :
    ∀ digit < 16, Nat.digitChar digit ≠ '-' := by
  decide

@[simp]
theorem length_digits (id : Uuid) : id.digits.length = 32 := by
  have bounded : id.value % twoTo 128 < 16 ^ 32 := Nat.mod_lt _ (by decide)
  have short := (Nat.length_toDigits_le_iff (by decide) (by decide)).mpr bounded
  rw [digits, List.length_append, List.length_replicate]
  omega

theorem hyphen_not_mem_digits (id : Uuid) : '-' ∉ id.digits := by
  have plain : ∀ char ∈ Nat.toDigits 16 (id.value % twoTo 128), char ≠ '-' :=
    Digits.forall_mem_toDigits (by decide) digitChar_ne_hyphen _
  rw [digits, List.mem_append]
  rintro (zero | digit)
  · exact absurd (List.eq_of_mem_replicate zero) (by decide)
  · exact plain '-' digit rfl

/-- What is written is read back. -/
@[simp]
theorem ofDigits?_digits (id : Uuid) : ofDigits? id.digits = some ⟨id.value % twoTo 128⟩ := by
  rw [ofDigits?, if_pos id.length_digits]
  change (Digits.spelled 16 hexValue? (some 0) id.digits).map mk = _
  rw [digits, Digits.spelled_zeros rfl, Digits.spelled_toDigits (by decide) hexValue?_digitChar]
  rfl

/-- Without the hyphens, the groups are the digits that were cut. -/
theorem filter_group
    {lengths : List Nat}
    {chars : List Char}
    (some_group : lengths ≠ [])
    (whole : lengths.sum = chars.length)
    (plain : '-' ∉ chars) :
    (group lengths chars).filter (· ≠ '-') = chars := by
  have kept {chars : List Char} (plain : '-' ∉ chars) : chars.filter (· ≠ '-') = chars := by
    rw [List.filter_eq_self]
    intro char member
    exact decide_eq_true fun equal => plain (equal ▸ member)
  induction lengths generalizing chars with
  | nil => exact absurd rfl some_group
  | cons length lengths ih =>
      cases lengths with
      | nil =>
          rw [List.sum_cons, List.sum_nil, Nat.add_zero] at whole
          rw [group, whole, List.take_length, kept plain]
      | cons second lengths =>
          have front : '-' ∉ chars.take length := fun member => plain (List.mem_of_mem_take member)
          have rest : '-' ∉ chars.drop length := fun member => plain (List.mem_of_mem_drop member)
          have remaining : (second :: lengths).sum = (chars.drop length).length := by
            rw [List.sum_cons] at whole
            rw [List.length_drop]
            omega
          rw [group, List.filter_append, List.filter_cons_of_neg (by simp), kept front,
            ih (by simp) remaining rest, List.take_append_drop]
          simp

@[simp]
theorem filter_text (id : Uuid) : id.text.toList.filter (· ≠ '-') = id.digits := by
  have whole : groupLengths.sum = id.digits.length := by
    rw [id.length_digits]
    rfl
  rw [text, String.toList_ofList]
  exact filter_group (by decide) whole id.hyphen_not_mem_digits

theorem value_of_text_eq
    {left right : Uuid}
    (same : left.text = right.text) :
    left.value % twoTo 128 = right.value % twoTo 128 := by
  have read := left.ofDigits?_digits
  rw [← left.filter_text, same, right.filter_text, right.ofDigits?_digits] at read
  exact congrArg value (Option.some.inj read.symm)

/-- Identifiers that are made with different numbers have different texts. -/
theorem text_fresh_ne
    {millis later serial next : Nat}
    (before : serial < next)
    (room : next < twoTo 74) :
    (fresh millis serial).text ≠ (fresh later next).text := by
  intro same
  have values := value_of_text_eq same
  simp only [fresh, twoTo, Nat.pow_eq, Nat.reducePow] at values room
  omega

end RequestHub.Uuid
