import RequestHub.Text.Utf8

/-!
# Texts as bytes and back

The UTF-8 form of a text is read back as the text.  A leading byte says in which ranges the bytes after it
must lie; for the form of a scalar value they lie there, and together they carry its bits.
-/

namespace RequestHub.Bytes

theorem ofString_ofList (chars : List Char) :
    ofString (String.ofList chars) = chars.flatMap String.utf8EncodeChar := by
  rw [ofString, String.toList_ofList]

/-! ## Leading bytes, by the length of the form -/

theorem lead?_one : ∀ number < 0x80, lead? (.ofNat number) = some (number, []) := by
  decide

theorem lead?_two : ∀ bits < 0x1E,
    lead? (.ofNat (bits + 0xC2)) = some (bits + 2, [(0x80, 0xBF)]) := by
  decide

/-- Shorter forms and surrogates are left out of the range of the second byte. -/
theorem lead?_three : ∀ bits < 0x10,
    lead? (.ofNat (bits + 0xE0)) = some (bits,
      [(if bits = 0 then 0xA0 else 0x80, if bits = 0xD then 0x9F else 0xBF), (0x80, 0xBF)]) := by
  decide

/-- Shorter forms and numbers beyond the last scalar value are left out of that range. -/
theorem lead?_four : ∀ bits < 5,
    lead? (.ofNat (bits + 0xF0)) = some (bits,
      [(if bits = 0 then 0x90 else 0x80, if bits = 4 then 0x8F else 0xBF), (0x80, 0xBF),
        (0x80, 0xBF)]) := by
  decide

/-- A byte in its range adds six bits. -/
theorem follow_of_mem
    {low high : UInt8} {number : Nat} (above : low.toNat ≤ number) (below : number ≤ high.toNat)
    (value : Nat) (ranges : List (UInt8 × UInt8)) (rest : Bytes) :
    follow value ((low, high) :: ranges) (.ofNat number :: rest) =
      follow (value * 64 + number % 64) ranges rest := by
  have small : number < 256 := Nat.lt_of_le_of_lt below high.toNat_lt
  have same : (UInt8.ofNat number).toNat = number := UInt8.toNat_ofNat_of_lt' small
  have inside : low ≤ .ofNat number ∧ .ofNat number ≤ high := by
    rw [UInt8.le_iff_toNat_le, UInt8.le_iff_toNat_le, same]
    exact ⟨above, below⟩
  rw [follow, if_pos inside, same]

/-- A scalar value is read from its form, and what stands behind it is left. -/
theorem scan_utf8EncodeChar (char : Char) (rest : Bytes) :
    ∃ first more, String.utf8EncodeChar char = first :: more ∧
      scan first (more ++ rest) = (some char, rest) := by
  have valid : char.val.toNat < 0xD800 ∨ (0xDFFF < char.val.toNat ∧ char.val.toNat < 0x110000) :=
    char.valid
  have last (value : Nat) (same : value = char.val.toNat) :
      follow value [] rest = (some char, rest) := by
    rw [follow, same]
    exact congrArg (fun scalar => (some scalar, rest)) (Char.ofNat_toNat char)
  rw [String.utf8EncodeChar]
  generalize char.val.toNat = value at valid last
  split
  · refine ⟨_, _, rfl, ?_⟩
    rw [scan, lead?_one value (by omega)]
    exact last value rfl
  split
  · have lead := lead?_two (value / 64 - 2) (by omega)
    rw [show value / 64 - 2 + 0xC2 = value / 64 % 32 + 0xC0 by omega] at lead
    refine ⟨_, _, rfl, ?_⟩
    rw [scan, lead]
    dsimp only [List.cons_append, List.nil_append]
    rw [follow_of_mem (by simp) (by simp; omega)]
    exact last _ (by omega)
  split
  · have lead := lead?_three (value / 4096) (by omega)
    refine ⟨_, _, rfl, ?_⟩
    rw [scan, show value / 4096 % 16 + 0xE0 = value / 4096 + 0xE0 by omega, lead]
    dsimp only [List.cons_append, List.nil_append]
    -- Shorter forms would begin at `value / 4096 = 0`, and the surrogates lie at `0xD`.
    have above : (if value / 4096 = 0 then 0xA0 else 0x80 : UInt8).toNat ≤
        value / 64 % 64 + 0x80 := by
      split
      · change 0xA0 ≤ value / 64 % 64 + 0x80
        omega
      · exact Nat.le_add_left ..
    have below : value / 64 % 64 + 0x80 ≤
        (if value / 4096 = 0xD then 0x9F else 0xBF : UInt8).toNat := by
      split
      · change value / 64 % 64 + 0x80 ≤ 0x9F
        omega
      · change value / 64 % 64 + 0x80 ≤ 0xBF
        omega
    rw [follow_of_mem above below, follow_of_mem (by simp) (by simp; omega)]
    exact last _ (by omega)
  · have lead := lead?_four (value / 262144) (by omega)
    refine ⟨_, _, rfl, ?_⟩
    rw [scan, show value / 262144 % 8 + 0xF0 = value / 262144 + 0xF0 by omega, lead]
    dsimp only [List.cons_append, List.nil_append]
    have above : (if value / 262144 = 0 then 0x90 else 0x80 : UInt8).toNat ≤
        value / 4096 % 64 + 0x80 := by
      split
      · change 0x90 ≤ value / 4096 % 64 + 0x80
        omega
      · exact Nat.le_add_left ..
    have below : value / 4096 % 64 + 0x80 ≤
        (if value / 262144 = 4 then 0x8F else 0xBF : UInt8).toNat := by
      split
      · change value / 4096 % 64 + 0x80 ≤ 0x8F
        omega
      · change value / 4096 % 64 + 0x80 ≤ 0xBF
        omega
    rw [follow_of_mem above below, follow_of_mem (by simp) (by simp; omega),
      follow_of_mem (by simp) (by simp; omega)]
    exact last _ (by omega)

/-- The scalar values of a form are those of the text. -/
@[simp]
theorem scalars_flatMap (chars : List Char) :
    scalars (chars.flatMap String.utf8EncodeChar) = chars.map some := by
  induction chars with
  | nil => rw [List.flatMap_nil, scalars, List.map_nil]
  | cons char chars ih =>
      obtain ⟨first, more, form, scanned⟩ :=
        scan_utf8EncodeChar char (chars.flatMap String.utf8EncodeChar)
      rw [List.flatMap_cons, form, List.cons_append, scalars, scanned, ih, List.map_cons]

/-- The text of a form is the text. -/
@[simp]
theorem decode?_ofString (text : String) : decode? (ofString text) = some text := by
  have read : (text.toList.map some).mapM id = some text.toList := by
    rw [List.mapM_map]
    exact (List.mapM_pure (m := Option) (f := id)).trans (congrArg some (List.map_id _))
  rw [decode?, ofString, scalars_flatMap, read, Option.map_some, String.ofList_toList]

end RequestHub.Bytes
