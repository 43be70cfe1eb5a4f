import RequestHub.Proofs.Except
import RequestHub.Proofs.Text.Utf8
import RequestHub.Text.Base64

/-!
# Bodies in sixty-four characters and back

What encoding writes for a byte sequence is decoded to the byte sequence, whatever its length is: whole
groups one by one, and the last group with as much padding as it has.
-/

namespace RequestHub.Text.Base64

/-- The byte of the character of a value. -/
def sign (value : Nat) : UInt8 :=
  .ofNat (letter value).toNat

/-- The characters of the alphabet are single bytes, which have their values and are not padding. -/
theorem sign_spec : ∀ value < 64,
    String.utf8EncodeChar (letter value) = [sign value] ∧ value? (sign value) = some value ∧
      sign value ≠ 0x3D := by
  decide

theorem utf8EncodeChar_letter {value : Nat} (small : value < 64) :
    String.utf8EncodeChar (letter value) = [sign value] :=
  (sign_spec value small).1

theorem symbol_sign {value : Nat} (small : value < 64) (offset : Nat) :
    symbol offset (sign value) = .ok value := by
  rw [symbol, (sign_spec value small).2.1]

theorem sign_ne_padding {value : Nat} (small : value < 64) : sign value ≠ 0x3D :=
  (sign_spec value small).2.2

/-! ## The values of one group -/

section

variable (first second third : UInt8)

theorem quarter_one_lt : first.toNat / 4 < 64 := by
  have := first.toNat_lt
  omega

theorem quarter_two_lt : first.toNat % 4 * 16 + second.toNat / 16 < 64 := by
  have := second.toNat_lt
  omega

theorem quarter_three_lt : second.toNat % 16 * 4 + third.toNat / 64 < 64 := by
  have := third.toNat_lt
  omega

theorem quarter_four_lt : third.toNat % 64 < 64 := by
  omega

/-- The bytes of a group are those whose bits its values have. -/
theorem group_quarters :
    group (first.toNat / 4) (first.toNat % 4 * 16 + second.toNat / 16)
      (second.toNat % 16 * 4 + third.toNat / 64) (third.toNat % 64) = [first, second, third] := by
  have one := first.toNat_lt
  have two := second.toNat_lt
  have three := third.toNat_lt
  rw [group, show first.toNat / 4 * 4 + (first.toNat % 4 * 16 + second.toNat / 16) / 16 =
      first.toNat by omega,
    show (first.toNat % 4 * 16 + second.toNat / 16) % 16 * 16 +
      (second.toNat % 16 * 4 + third.toNat / 64) / 4 = second.toNat by omega,
    show (second.toNat % 16 * 4 + third.toNat / 64) % 4 * 64 + third.toNat % 64 =
      third.toNat by omega]
  simp

end

/-! ## What is written -/

/-- The bytes of the text of a byte sequence. -/
def written (bytes : Bytes) : Bytes :=
  (encodeChars bytes).flatMap String.utf8EncodeChar

@[simp]
theorem written_one (first : UInt8) :
    written [first] =
      [sign (first.toNat / 4), sign (first.toNat % 4 * 16), 0x3D, 0x3D] := by
  have two : first.toNat % 4 * 16 < 64 := by omega
  have padding : String.utf8EncodeChar '=' = [0x3D] := by decide
  simp [written, encodeChars, utf8EncodeChar_letter (quarter_one_lt first),
    utf8EncodeChar_letter two, padding]

@[simp]
theorem written_two (first second : UInt8) :
    written [first, second] =
      [sign (first.toNat / 4), sign (first.toNat % 4 * 16 + second.toNat / 16),
        sign (second.toNat % 16 * 4), 0x3D] := by
  have three : second.toNat % 16 * 4 < 64 := by omega
  have padding : String.utf8EncodeChar '=' = [0x3D] := by decide
  simp [written, encodeChars, utf8EncodeChar_letter (quarter_one_lt first),
    utf8EncodeChar_letter (quarter_two_lt first second), utf8EncodeChar_letter three, padding]

@[simp]
theorem written_group (first second third : UInt8) (rest : Bytes) :
    written (first :: second :: third :: rest) =
      sign (first.toNat / 4) :: sign (first.toNat % 4 * 16 + second.toNat / 16) ::
        sign (second.toNat % 16 * 4 + third.toNat / 64) :: sign (third.toNat % 64) ::
        written rest := by
  simp [written, encodeChars, utf8EncodeChar_letter (quarter_one_lt first),
    utf8EncodeChar_letter (quarter_two_lt first second),
    utf8EncodeChar_letter (quarter_three_lt second third),
    utf8EncodeChar_letter (quarter_four_lt third)]

/-- Every group is written in four bytes. -/
theorem length_written_mod (bytes : Bytes) : (written bytes).length % 4 = 0 := by
  induction bytes using encodeChars.induct with
  | case1 => rfl
  | case2 first => simp
  | case3 first second => simp
  | case4 first second third rest ih =>
      rw [written_group]
      simp only [List.length_cons]
      omega

theorem written_ne_nil (first : UInt8) (rest : Bytes) : written (first :: rest) ≠ [] := by
  cases rest with
  | nil => simp
  | cons second rest =>
      cases rest with
      | nil => simp
      | cons third rest => simp

/-! ## What is decoded -/

theorem lastValues_signs
    {values : List Nat} (small : ∀ value ∈ values, value < 64) (offset position : Nat)
    (before : List Nat) (rest : Bytes) :
    lastValues offset position before 0 (values.map sign ++ rest) =
      lastValues offset (position + values.length) (values.reverse ++ before) 0 rest := by
  induction values generalizing position before with
  | nil => rfl
  | cons value values ih =>
      have first := small value List.mem_cons_self
      have others := ih fun other member => small other (List.mem_cons_of_mem _ member)
      rw [List.map_cons, List.cons_append, lastValues, if_neg (sign_ne_padding first),
        if_neg (Nat.lt_irrefl 0), symbol_sign first]
      change lastValues offset (position + 1) (value :: before) 0 _ = _
      rw [others, List.length_cons, List.reverse_cons, List.append_assoc]
      congr 1
      omega

theorem lastValues_padding
    {position : Nat} (behind : 2 ≤ position) (offset : Nat) (values : List Nat)
    (padding count : Nat) :
    lastValues offset position values padding (List.replicate count 0x3D) =
      .ok (values.reverse, padding + count) := by
  induction count generalizing position padding with
  | zero => rfl
  | succ count ih =>
      rw [List.replicate_succ, lastValues, if_pos rfl, if_neg (Nat.not_lt.mpr behind),
        ih (Nat.le_succ_of_le behind), Nat.add_assoc, Nat.add_comm 1]

/-- The values in front of the padding are those that were written. -/
theorem lastValues_written
    (values : List Nat) (small : ∀ value ∈ values, value < 64) (several : 2 ≤ values.length)
    (offset count : Nat) :
    lastValues offset 0 [] 0 (values.map sign ++ List.replicate count 0x3D) =
      .ok (values, count) := by
  rw [lastValues_signs small, lastValues_padding (by omega), List.append_nil, List.reverse_reverse,
    Nat.zero_add]

/-- A last group of one byte has two values, the second of which has four bits to spare. -/
theorem decodeLast_one (offset : Nat) (first : UInt8) :
    decodeLast offset (written [first]) = .ok [first] := by
  have two : first.toNat % 4 * 16 < 64 := by omega
  have spare : first.toNat % 4 * 16 % 16 = 0 := by omega
  have bits : first.toNat / 4 * 4 + first.toNat % 4 * 16 / 16 = first.toNat := by omega
  have bytes : (group (first.toNat / 4) (first.toNat % 4 * 16) 0 0).take 1 = [first] := by
    rw [group, bits]
    simp
  have read : lastValues offset 0 [] 0 (written [first]) =
      .ok ([first.toNat / 4, first.toNat % 4 * 16], 2) := by
    rw [written_one]
    exact lastValues_written [first.toNat / 4, first.toNat % 4 * 16]
      (by simp [quarter_one_lt first, two]) (by simp) offset 2
  simp only [decodeLast, read, except_ok_bind]
  simp [spare, bytes]

/-- A last group of two bytes has three values, the third of which has two bits to spare. -/
theorem decodeLast_two (offset : Nat) (first second : UInt8) :
    decodeLast offset (written [first, second]) = .ok [first, second] := by
  have one_small := first.toNat_lt
  have two_small := second.toNat_lt
  have three : second.toNat % 16 * 4 < 64 := by omega
  have spare : second.toNat % 16 * 4 % 4 = 0 := by omega
  have bits : first.toNat / 4 * 4 + (first.toNat % 4 * 16 + second.toNat / 16) / 16 =
      first.toNat := by omega
  have more_bits : (first.toNat % 4 * 16 + second.toNat / 16) % 16 * 16 +
      second.toNat % 16 * 4 / 4 = second.toNat := by omega
  have bytes : (group (first.toNat / 4) (first.toNat % 4 * 16 + second.toNat / 16)
      (second.toNat % 16 * 4) 0).take 2 = [first, second] := by
    rw [group, bits, more_bits]
    simp
  have read : lastValues offset 0 [] 0 (written [first, second]) =
      .ok ([first.toNat / 4, first.toNat % 4 * 16 + second.toNat / 16, second.toNat % 16 * 4],
        1) := by
    rw [written_two]
    exact lastValues_written [first.toNat / 4,
      first.toNat % 4 * 16 + second.toNat / 16, second.toNat % 16 * 4]
      (by simp [quarter_one_lt first, quarter_two_lt first second, three]) (by simp) offset 1
  simp only [decodeLast, read, except_ok_bind]
  simp [spare, bytes]

theorem decodeLast_three (offset : Nat) (first second third : UInt8) :
    decodeLast offset (written [first, second, third]) = .ok [first, second, third] := by
  have read : lastValues offset 0 [] 0 (written [first, second, third]) =
      .ok ([first.toNat / 4, first.toNat % 4 * 16 + second.toNat / 16,
        second.toNat % 16 * 4 + third.toNat / 64, third.toNat % 64], 0) := by
    rw [written_group]
    exact lastValues_written [first.toNat / 4,
      first.toNat % 4 * 16 + second.toNat / 16, second.toNat % 16 * 4 + third.toNat / 64,
      third.toNat % 64]
      (by simp [quarter_one_lt first, quarter_two_lt first second, quarter_three_lt second third,
        quarter_four_lt third]) (by simp) offset 0
  simp only [decodeLast, read, except_ok_bind]
  simp [group_quarters first second third]

/-- From any offset on, what was written for some bytes is decoded to them. -/
theorem decodeFrom_written
    (offset : Nat) (bytes : Bytes) (several : bytes ≠ []) :
    decodeFrom offset (written bytes) = .ok bytes := by
  induction bytes using encodeChars.induct generalizing offset with
  | case1 => exact absurd rfl several
  | case2 first =>
      rw [← decodeLast_one offset first, written_one]
      rfl
  | case3 first second =>
      rw [← decodeLast_two offset first second, written_two]
      rfl
  | case4 first second third rest ih =>
      cases rest with
      | nil =>
          rw [← decodeLast_three offset first second third, written_group]
          rfl
      | cons next rest =>
          obtain ⟨ahead, behind, form⟩ := List.exists_cons_of_ne_nil (written_ne_nil next rest)
          have others := ih (offset + 4) (List.cons_ne_nil _ _)
          rw [form] at others
          rw [written_group, form, decodeFrom, symbol_sign (quarter_one_lt first),
            symbol_sign (quarter_two_lt first second), symbol_sign (quarter_three_lt second third),
            symbol_sign (quarter_four_lt third), others]
          exact congrArg (fun bytes => Except.ok (bytes ++ next :: rest))
            (group_quarters first second third)

/-- The text of a byte sequence stands for the byte sequence. -/
@[simp]
theorem decode_encode (bytes : Bytes) : decode (encode bytes) = .ok bytes := by
  have form : Bytes.ofString (encode bytes) = written bytes := Bytes.ofString_ofList _
  cases bytes with
  | nil => rfl
  | cons first rest =>
      have whole := length_written_mod (first :: rest)
      have some_written : (written (first :: rest)).isEmpty = false := by
        simpa using written_ne_nil first rest
      have decoded := decodeFrom_written 0 (first :: rest) (List.cons_ne_nil _ _)
      simp only [decode, form, some_written, whole, decoded]
      simp

end RequestHub.Text.Base64
