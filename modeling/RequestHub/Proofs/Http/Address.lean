import Mathlib.Data.Nat.Digits.Defs
import RequestHub.Http.Address
import RequestHub.Proofs.Text.Digits

/-!
# The written form of an address

An address and a port are read back from their written form.  What is written is read from the front: a
number ends where no digit follows, the groups in front of a run of zeros end at the second of two colons,
and those behind it at the bracket.  So each reader is followed over what was written for it and whatever
stands behind.

The written form exists for any numbers, but it is a form only of an address whose numbers have room in
their places.  `WellFormed` says that they have, and every address that was read from a text is well-formed.
-/

namespace RequestHub.SocketAddress

/-! ## Numbers -/

/-- A text does not begin with a digit. -/
def Stops (radix : Nat) (rest : List Char) : Prop :=
  (rest.takeWhile fun char => (Decimal.digitValue? radix char).isSome) = []

theorem stops_cons
    {radix : Nat} {char : Char} (other : Decimal.digitValue? radix char = none) (rest : List Char) :
    Stops radix (char :: rest) :=
  List.takeWhile_cons_of_neg (by rw [other]; exact Bool.false_ne_true)

section Radix

variable {radix : Nat} (several : 1 < radix)
  (known : ∀ digit < radix, Decimal.digitValue? radix (Nat.digitChar digit) = some digit)
include several known

theorem natural?_toDigits (number : Nat) :
    Decimal.natural? radix (Nat.toDigits radix number) = some number := by
  have written : (Nat.toDigits radix number).isEmpty = false :=
    List.isEmpty_eq_false_iff.mpr Nat.toDigits_ne_nil
  rw [Decimal.natural?, written, if_neg Bool.false_ne_true]
  exact Digits.spelled_toDigits several known number

/-- Only zero is written with a zero in front. -/
theorem not_padded_toDigits (number : Nat) :
    ¬ (1 < (Nat.toDigits radix number).length ∧
      (Nat.toDigits radix number).head? = some '0') := by
  rintro ⟨long, zero⟩
  cases number with
  | zero =>
      rw [Nat.toDigits_of_lt_base (Nat.zero_lt_of_lt several)] at long
      exact absurd long (Nat.lt_irrefl 1)
  | succ number =>
      obtain ⟨digit, chars, nonzero, below, form⟩ :=
        Digits.exists_leading several (Nat.succ_pos number)
      rw [form, List.head?_cons, Option.some.injEq] at zero
      have same : some digit = some 0 := by
        rw [← known digit below, zero]
        exact known 0 (Nat.zero_lt_of_lt several)
      exact Nat.ne_of_gt nonzero (Option.some.inj same)

/-- A number is read back from its digits if it has room in its place, whatever stands behind them. -/
theorem number?_toDigits
    {most : Option Nat} {zeros : Bool} {bound number : Nat} {rest : List Char}
    (short : ∀ room ∈ most, (Nat.toDigits radix number).length ≤ room) (stops : Stops radix rest) :
    number? radix most zeros bound (Nat.toDigits radix number ++ rest) =
      if number < bound then some (number, rest) else none := by
  have digits : ((Nat.toDigits radix number ++ rest).takeWhile fun char =>
      (Decimal.digitValue? radix char).isSome) = Nat.toDigits radix number := by
    have all : ∀ char ∈ Nat.toDigits radix number,
        (Decimal.digitValue? radix char).isSome = true := by
      refine Digits.forall_mem_toDigits several ?_ number
      intro digit below
      rw [known digit below]
      rfl
    rw [List.takeWhile_append_of_pos all, stops, List.append_nil]
  have fits : (most.any fun room => room < (Nat.toDigits radix number).length) = false := by
    cases most with
    | none => rfl
    | some room => exact decide_eq_false (Nat.not_lt.mpr (short room rfl))
  have bare : (!zeros && decide ((Nat.toDigits radix number).length > 1) &&
      decide ((Nat.toDigits radix number).head? = some '0')) = false := by
    refine Bool.eq_false_iff.mpr fun padded => not_padded_toDigits several known number ?_
    simp only [Bool.and_eq_true, decide_eq_true_eq] at padded
    exact ⟨padded.1.2, padded.2⟩
  simp only [number?, digits, natural?_toDigits several known, Option.bind_eq_bind, Option.bind_some,
    fits, bare, Bool.false_or, Bool.or_false, decide_eq_true_eq, List.drop_left, Option.pure_def]
  by_cases below : number < bound
  · rw [if_pos below, if_neg (Nat.not_le.mpr below)]
  · rw [if_neg below, if_pos (Nat.not_lt.mp below)]

end Radix

theorem known_ten :
    ∀ digit < 10, Decimal.digitValue? 10 (Nat.digitChar digit) = some digit := by
  decide

theorem known_sixteen :
    ∀ digit < 16, Decimal.digitValue? 16 (Nat.digitChar digit) = some digit := by
  decide

/-- What is read of a number is below the bound, and begins behind the digits. -/
theorem number?_spec
    {radix bound value : Nat} {most : Option Nat} {zeros : Bool} {chars rest : List Char}
    (read : number? radix most zeros bound chars = some (value, rest)) :
    value < bound ∧
      rest = chars.dropWhile fun char => (Decimal.digitValue? radix char).isSome := by
  simp only [number?, Option.bind_eq_bind, Option.bind_eq_some_iff] at read
  obtain ⟨number, -, checked⟩ := read
  split at checked
  · cases checked
  · rename_i accepted
    cases checked
    simp only [Bool.or_eq_true, decide_eq_true_eq, not_or, Nat.not_le] at accepted
    refine ⟨accepted.1.2, ?_⟩
    exact (congrArg (List.drop _) List.takeWhile_append_dropWhile.symm).trans List.drop_left

/-- Nothing is read where no digit stands. -/
theorem number?_of_stops
    {radix bound : Nat} {most : Option Nat} {zeros : Bool} {chars : List Char}
    (stops : Stops radix chars) : number? radix most zeros bound chars = none := by
  have none : Decimal.natural? radix [] = none := rfl
  rw [Stops] at stops
  simp only [number?, stops, none, Option.bind_eq_bind, Option.bind_none]

/-! ## Four bytes -/

/-- Four numbers that have room in bytes. -/
def AreBytes (bytes : List Nat) : Prop :=
  bytes.length = 4 ∧ ∀ byte ∈ bytes, byte < 256

theorem number?_byte
    {byte : Nat} {rest : List Char} (below : byte < 256) (stops : Stops 10 rest) :
    number? 10 (some 3) false 256 (Nat.toDigits 10 byte ++ rest) = some (byte, rest) := by
  have short : (Nat.toDigits 10 byte).length ≤ 3 :=
    Nat.toDigits_length 10 byte 3 (by decide) (by omega)
  rw [number?_toDigits (by decide) known_ten (by rintro room ⟨⟩; exact short) stops, if_pos below]

theorem toList_fourText (first second third fourth : Nat) :
    (fourText [first, second, third, fourth]).toList =
      Nat.toDigits 10 first ++ '.' :: (Nat.toDigits 10 second ++ '.' ::
        (Nat.toDigits 10 third ++ '.' :: Nat.toDigits 10 fourth)) := by
  simp [fourText]

/-- Four bytes are read back from their written form. -/
theorem four?_written
    {bytes : List Nat} {rest : List Char} (bounded : AreBytes bytes) (stops : Stops 10 rest) :
    four? ((fourText bytes).toList ++ rest) = some (bytes, rest) := by
  obtain ⟨four, below⟩ := bounded
  match bytes, four with
  | [first, second, third, fourth], _ =>
      simp only [List.forall_mem_cons] at below
      obtain ⟨one, two, three, last, -⟩ := below
      have point (behind : List Char) : Stops 10 ('.' :: behind) := stops_cons (by decide) behind
      simp only [toList_fourText, List.append_assoc, List.cons_append, four?,
        number?_byte one (point _), number?_byte two (point _), number?_byte three (point _),
        number?_byte last stops, after?, if_true, Option.bind_eq_bind, Option.bind_some,
        Option.pure_def]

theorem areBytes_of_four?
    {chars rest : List Char} {bytes : List Nat} (read : four? chars = some (bytes, rest)) :
    AreBytes bytes := by
  simp only [four?, Option.bind_eq_bind, Option.bind_eq_some_iff, Option.pure_def,
    Option.some.injEq, Prod.exists, Prod.mk.injEq] at read
  obtain ⟨first, _, one, _, -, second, _, two, _, -, third, _, three, _, -, fourth, _, four, rfl, -⟩ :=
    read
  refine ⟨rfl, ?_⟩
  simp only [List.forall_mem_cons]
  exact ⟨(number?_spec one).1, (number?_spec two).1, (number?_spec three).1, (number?_spec four).1,
    List.forall_mem_nil _⟩

/-- There are no four bytes where no point follows the first number. -/
theorem four?_eq_none
    {chars : List Char}
    (pointless : after? '.'
      (chars.dropWhile fun char => (Decimal.digitValue? 10 char).isSome) = none) :
    four? chars = none := by
  rw [four?]
  cases read : number? 10 (some 3) false 256 chars with
  | none => rfl
  | some first =>
      obtain ⟨value, rest⟩ := first
      have behind := (number?_spec read).2
      simp only [Option.bind_eq_bind, Option.bind_some, behind, pointless, Option.bind_none]

/-- A character is not found behind digits if it is not among them, and another one ends them. -/
theorem after?_dropWhile
    {digit : Char → Bool} {expected mark : Char} {front behind : List Char}
    (absent : expected ∉ front) (other : mark ≠ expected) (ends : digit mark = false) :
    after? expected ((front ++ mark :: behind).dropWhile digit) = none := by
  induction front with
  | nil =>
      rw [List.nil_append, List.dropWhile_cons_of_neg (by rw [ends]; exact Bool.false_ne_true),
        after?, if_neg other]
  | cons char front ih =>
      obtain ⟨first, others⟩ := not_or.mp (mt List.mem_cons.mpr absent)
      rw [List.cons_append]
      by_cases inside : digit char = true
      · rw [List.dropWhile_cons_of_pos inside]
        exact ih others
      · rw [List.dropWhile_cons_of_neg inside, after?, if_neg (Ne.symm first)]

/-! ## Groups -/

/-- Numbers that have room in groups of four hexadecimal digits. -/
def AreGroups (groups : List Nat) : Prop :=
  ∀ group ∈ groups, group < 65536

/-- A text begins with one of the marks that stand behind groups. -/
def Barred (rest : List Char) : Prop :=
  ∃ mark behind, rest = mark :: behind ∧ mark ∈ [':', '%', ']']

/-- No group can be read behind a text, with a colon in front of the group or without. -/
structure Ends (rest : List Char) : Prop where
  barred : Barred rest
  behind : ∀ start, after? ':' rest = some start → Barred start

theorem barred_colon (behind : List Char) : Barred (':' :: behind) :=
  ⟨':', behind, rfl, by decide⟩

theorem Barred.stops {rest : List Char} (barred : Barred rest) : Stops 10 rest ∧ Stops 16 rest := by
  obtain ⟨mark, behind, rfl, known⟩ := barred
  have digits : ∀ mark ∈ [':', '%', ']'],
      Decimal.digitValue? 10 mark = none ∧ Decimal.digitValue? 16 mark = none := by
    rw [List.forall_mem_cons, List.forall_mem_cons, List.forall_mem_singleton]
    decide
  exact ⟨stops_cons (digits mark known).1 behind, stops_cons (digits mark known).2 behind⟩

theorem number?_group
    {group : Nat} {rest : List Char} (below : group < 65536) (barred : Barred rest) :
    number? 16 (some 4) true 65536 (Nat.toDigits 16 group ++ rest) = some (group, rest) := by
  have short : (Nat.toDigits 16 group).length ≤ 4 :=
    Nat.toDigits_length 16 group 4 (by decide) below
  rw [number?_toDigits (by decide) known_sixteen (by rintro room ⟨⟩; exact short) barred.stops.2,
    if_pos below]

/-- A group is not read for the first of four bytes. -/
theorem four?_group {rest : List Char} (group : Nat) (barred : Barred rest) :
    four? (Nat.toDigits 16 group ++ rest) = none := by
  obtain ⟨mark, behind, rfl, known⟩ := barred
  have marks : ∀ mark ∈ [':', '%', ']'],
      mark ≠ '.' ∧ (Decimal.digitValue? 10 mark).isSome = false := by
    rw [List.forall_mem_cons, List.forall_mem_cons, List.forall_mem_singleton]
    decide
  have others : ∀ digit < 16, Nat.digitChar digit ≠ '.' := by decide
  have pointless : '.' ∉ Nat.toDigits 16 group := fun member =>
    @Digits.forall_mem_toDigits 16 (by decide) (· ≠ '.') others group '.' member rfl
  exact four?_eq_none (after?_dropWhile pointless (marks mark known).1 (marks mark known).2)

theorem four?_of_barred {rest : List Char} (barred : Barred rest) : four? rest = none := by
  rw [four?, number?_of_stops barred.stops.1]
  rfl

/-- Where no group can be read, the groups end. -/
theorem groups_end
    (first : Bool) {chars : List Char}
    (ends : ∀ start, (if first then some chars else after? ':' chars) = some start → Barred start)
    (room : Nat) : groups first room chars = ([], false, chars) := by
  cases room with
  | zero => rfl
  | succ room =>
      cases begins : (if first then some chars else after? ':' chars) with
      | none => simp only [groups, begins, Option.bind_none, ite_self]
      | some start =>
          have barred := ends start begins
          simp only [groups, begins, Option.bind_some, four?_of_barred barred,
            number?_of_stops barred.stops.2, ite_self]

/-- One group is read in front of the others. -/
theorem groups_group
    (first : Bool) {chars rest : List Char} {group : Nat}
    (begins : (if first then some chars else after? ':' chars) =
      some (Nat.toDigits 16 group ++ rest))
    (below : group < 65536) (barred : Barred rest) (room : Nat) :
    groups first (room + 1) chars =
      (group :: (groups false room rest).1, (groups false room rest).2) := by
  simp only [groups, begins, Option.bind_some, four?_group group barred,
    number?_group below barred, ite_self]

/-- Groups, each behind a colon. -/
def colonGroups (numbers : List Nat) : List Char :=
  numbers.flatMap fun number => ':' :: Nat.toDigits 16 number

theorem barred_colonGroups {rest : List Char} (numbers : List Nat) (barred : Barred rest) :
    Barred (colonGroups numbers ++ rest) := by
  cases numbers with
  | nil => exact barred
  | cons number numbers => exact barred_colon _

theorem toList_groupsText_cons (number : Nat) (numbers : List Nat) :
    (groupsText (number :: numbers)).toList =
      Nat.toDigits 16 number ++ colonGroups numbers := by
  induction numbers generalizing number with
  | nil => simp [groupsText, colonGroups]
  | cons next numbers ih =>
      have joined : (groupsText (number :: next :: numbers)).toList =
          Nat.toDigits 16 number ++ ':' :: (groupsText (next :: numbers)).toList := by
        simp [groupsText]
      rw [joined, ih]
      rfl

theorem groups_colonGroups
    {numbers : List Nat} {rest : List Char} (bounded : AreGroups numbers) (ends : Ends rest)
    {room : Nat} (fits : numbers.length ≤ room) :
    groups false room (colonGroups numbers ++ rest) = (numbers, false, rest) := by
  induction numbers generalizing room with
  | nil => exact groups_end false ends.behind room
  | cons number numbers ih =>
      obtain ⟨below, others⟩ := List.forall_mem_cons.mp bounded
      cases room with
      | zero => exact absurd fits (Nat.not_succ_le_zero _)
      | succ room =>
          let chars := colonGroups (number :: numbers) ++ rest
          have begins : (if false then some chars else after? ':' chars) =
              some (Nat.toDigits 16 number ++ (colonGroups numbers ++ rest)) := by
            rw [← List.append_assoc]
            rfl
          rw [groups_group false begins below (barred_colonGroups numbers ends.barred),
            ih others (Nat.le_of_succ_le_succ fits)]

/-- Groups are read back from their written form, as many as there is room for. -/
theorem groups_written
    {numbers : List Nat} {rest : List Char} (bounded : AreGroups numbers) (ends : Ends rest)
    {room : Nat} (fits : numbers.length ≤ room) :
    groups true room ((groupsText numbers).toList ++ rest) = (numbers, false, rest) := by
  cases numbers with
  | nil =>
      refine groups_end true ?_ room
      rintro start ⟨⟩
      exact ends.barred
  | cons number numbers =>
      obtain ⟨below, others⟩ := List.forall_mem_cons.mp bounded
      cases room with
      | zero => exact absurd fits (Nat.not_succ_le_zero _)
      | succ room =>
          rw [toList_groupsText_cons, List.append_assoc,
            groups_group true rfl below (barred_colonGroups numbers ends.barred),
            groups_colonGroups others ends (Nat.le_of_succ_le_succ fits)]

theorem areGroups_of_groups (first : Bool) (room : Nat) (chars : List Char) :
    (groups first room chars).1.length ≤ room ∧ AreGroups (groups first room chars).1 := by
  induction room generalizing first chars with
  | zero => exact ⟨Nat.le_refl 0, List.forall_mem_nil _⟩
  | succ room ih =>
      rw [groups]
      dsimp only
      split
      · rename_i one two three four rest embedded
        -- Four bytes take the place of two groups, and are not read where there is room for one only.
        split at embedded
        · cases embedded
        · rename_i several
          obtain ⟨start, -, read⟩ := Option.bind_eq_some_iff.mp embedded
          have bytes := (areBytes_of_four? read).2
          simp only [List.forall_mem_cons] at bytes
          refine ⟨Nat.succ_le_succ (Nat.pos_of_ne_zero several), ?_⟩
          simp only [AreGroups, List.forall_mem_cons]
          exact ⟨by omega, by omega, List.forall_mem_nil _⟩
      · split
        · rename_i group rest read
          obtain ⟨start, -, number⟩ := Option.bind_eq_some_iff.mp read
          obtain ⟨shorter, others⟩ := ih false rest
          exact ⟨Nat.succ_le_succ shorter,
            List.forall_mem_cons.mpr ⟨(number?_spec number).1, others⟩⟩
        · exact ⟨Nat.zero_le _, List.forall_mem_nil _⟩

/-! ## Eight groups -/

/-- Eight numbers that have room in groups. -/
def AreEight (numbers : List Nat) : Prop :=
  numbers.length = 8 ∧ AreGroups numbers

theorem areEight_of_six?
    {chars rest : List Char} {numbers : List Nat} (read : six? chars = some (numbers, rest)) :
    AreEight numbers := by
  obtain ⟨fits, bounded⟩ := areGroups_of_groups true 8 chars
  rw [six?] at read
  generalize groups true 8 chars = head at read fits bounded
  obtain ⟨head, embedded, rest⟩ := head
  dsimp only at read fits bounded
  split at read
  · rename_i whole
    cases read
    exact ⟨whole, bounded⟩
  · rename_i short
    split at read
    · cases read
    · simp only [Option.bind_eq_bind, Option.bind_eq_some_iff] at read
      obtain ⟨behind, -, start, -, tail⟩ := read
      obtain ⟨shorter, others⟩ :=
        areGroups_of_groups true (7 - head.length) start
      generalize groups true (7 - head.length) start = back at tail shorter others
      obtain ⟨back, mixed, rest⟩ := back
      dsimp only at tail shorter others
      cases tail
      constructor
      · simp only [List.length_append, List.length_replicate]
        omega
      · intro group member
        rcases List.mem_append.mp member with front | last
        · rcases List.mem_append.mp front with first | zero
          · exact bounded group first
          · rw [List.eq_of_mem_replicate zero]
            decide
        · exact others group last

theorem six?_whole
    {chars rest : List Char} {numbers : List Nat} (eight : numbers.length = 8)
    (read : groups true 8 chars = (numbers, false, rest)) : six? chars = some (numbers, rest) := by
  rw [six?, read]
  exact if_pos eight

/-- Groups are read in front of two colons and behind them, with as many zeros between as are missing. -/
theorem six?_parted
    {chars behind rest : List Char} {head tail : List Nat} {embedded : Bool} (few : head.length ≠ 8)
    (front : groups true 8 chars = (head, false, ':' :: ':' :: behind))
    (back : groups true (7 - head.length) behind = (tail, embedded, rest)) :
    six? chars =
      some (head ++ List.replicate (8 - head.length - tail.length) 0 ++ tail, rest) := by
  simp only [six?, front, if_neg few, Bool.false_eq_true, if_false, after?, if_true,
    Option.bind_eq_bind, Option.bind_some, back, Option.pure_def]

theorem eq_replicate_append_drop
    {numbers : List Nat} {length : Nat} (zeros : length ≤ zeroRun numbers) :
    numbers = List.replicate length 0 ++ numbers.drop length := by
  induction length generalizing numbers with
  | zero => rfl
  | succ length ih =>
      cases numbers with
      | nil => exact absurd zeros (Nat.not_succ_le_zero _)
      | cons number numbers =>
          by_cases zero : number = 0
          · have fewer : length ≤ zeroRun numbers := by
              rw [zeroRun, List.takeWhile_cons_of_pos (by simpa using zero)] at zeros
              exact Nat.le_of_succ_le_succ zeros
            rw [zero, List.replicate_succ, List.cons_append, List.drop_succ_cons, ← ih fewer]
          · rw [zeroRun, List.takeWhile_cons_of_neg (by simpa using zero)] at zeros
            exact absurd zeros (Nat.not_succ_le_zero _)

/-- What is said to be the longest run of zeros is a run of zeros. -/
theorem longestRun_le (numbers : List Nat) :
    (longestRun numbers).2 ≤ zeroRun (numbers.drop (longestRun numbers).1) := by
  let isRun (best : Nat × Nat) : Prop := best.2 ≤ zeroRun (numbers.drop best.1)
  have keeps (starts : List Nat) (best : Nat × Nat) (run : isRun best) :
      isRun (starts.foldl (fun best start =>
        let length := zeroRun (numbers.drop start)
        if best.2 < length then (start, length) else best) best) := by
    induction starts generalizing best with
    | nil => exact run
    | cons start starts ih =>
        rw [List.foldl_cons]
        apply ih
        dsimp only
        split
        · exact Nat.le_refl _
        · exact run
  exact keeps (List.range numbers.length) (0, 0) (Nat.zero_le _)

/-- A run of zeros is left out, and what stands in front of it and behind it is read. -/
theorem six?_of_run
    {numbers : List Nat} {rest : List Char} (eight : AreEight numbers) (ends : Ends rest)
    {start length : Nat} (run : length ≤ zeroRun (numbers.drop start)) (several : 1 < length) :
    six? ((groupsText (numbers.take start)).toList ++
        ':' :: ':' :: ((groupsText (numbers.drop (start + length))).toList ++ rest)) =
      some (numbers, rest) := by
  obtain ⟨whole, bounded⟩ := eight
  have parted : numbers =
      numbers.take start ++ (List.replicate length 0 ++ numbers.drop (start + length)) := by
    conv_lhs => rw [← List.take_append_drop start numbers, eq_replicate_append_drop run]
    rw [List.drop_drop]
  have counted : start + length ≤ 8 := by
    have longer : zeroRun (numbers.drop start) ≤ numbers.length - start := by
      rw [zeroRun, ← List.length_drop]
      exact (List.takeWhile_sublist _).length_le
    omega
  have front : (numbers.take start).length = start := by
    rw [List.length_take]
    omega
  have back : (numbers.drop (start + length)).length = 8 - (start + length) := by
    rw [List.length_drop, whole]
  have colons (behind : List Char) : Ends (':' :: ':' :: behind) := by
    refine ⟨barred_colon _, ?_⟩
    rintro next ⟨⟩
    exact barred_colon behind
  rw [six?_parted (by omega)
    (groups_written (fun group member => bounded group (List.mem_of_mem_take member)) (colons _)
      (by omega))
    (groups_written (fun group member => bounded group (List.mem_of_mem_drop member)) ends
      (by omega)),
    front, back, List.append_assoc]
  have missing : 8 - start - (8 - (start + length)) = length := by omega
  rw [missing, ← parted]

/-- Two groups that are written as four bytes are read as groups. -/
theorem groups_bytes
    {high low : Nat} {rest : List Char} (first : high < 65536) (second : low < 65536)
    (barred : Barred rest) (room : Nat) :
    groups false (room + 2) (':' ::
        ((fourText [high / 256, high % 256, low / 256, low % 256]).toList ++ rest)) =
      ([high, low], true, rest) := by
  have bytes : AreBytes [high / 256, high % 256, low / 256, low % 256] := by
    refine ⟨rfl, ?_⟩
    simp only [List.forall_mem_cons]
    exact ⟨by omega, by omega, by omega, by omega, List.forall_mem_nil _⟩
  have some (behind : List Char) : after? ':' (':' :: behind) = .some behind := rfl
  simp only [groups, Bool.false_eq_true, if_false, some, Option.bind_some,
    four?_written bytes barred.stops.1, if_neg (Nat.succ_ne_zero room), Nat.div_add_mod']

/-- Eight groups are read back from their written form. -/
theorem six?_written
    {numbers : List Nat} {rest : List Char} (eight : AreEight numbers) (ends : Ends rest) :
    six? ((sixText numbers).toList ++ rest) = some (numbers, rest) := by
  unfold sixText
  split
  · rename_i high low
    have bounded := eight.2
    simp only [AreGroups, List.forall_mem_cons] at bounded
    obtain ⟨-, -, -, -, -, -, first, second, -⟩ := bounded
    have front (behind : List Char) : groups true 8 (':' :: behind) = ([], false, ':' :: behind) := by
      refine groups_end true ?_ 8
      rintro start ⟨⟩
      exact barred_colon behind
    let digits := Nat.toDigits 16 65535
    let bytes := (fourText [high / 256, high % 256, low / 256, low % 256]).toList
    have back : groups true 7 (digits ++ ':' :: (bytes ++ rest)) =
        ([65535, high, low], true, rest) := by
      rw [groups_group true rfl (by decide) (barred_colon _),
        groups_bytes first second ends.barred 4]
    have chars : "::ffff:".toList = ':' :: ':' :: (digits ++ [':']) := by decide
    rw [String.toList_append, chars]
    simp only [List.cons_append, List.append_assoc, List.nil_append]
    exact six?_parted (by decide) (front _) back
  · dsimp only
    split
    · rename_i several
      rw [String.toList_append, String.toList_append, List.append_assoc, List.append_assoc]
      exact six?_of_run eight ends (longestRun_le numbers) several
    · exact six?_whole eight.1 (groups_written eight.2 ends (Nat.le_of_eq eight.1))

/-! ## Addresses -/

/-- The numbers of an address have room in their places. -/
def WellFormed : IpAddress → Prop
  | .four bytes => AreBytes bytes
  | .six numbers scope => AreEight numbers ∧ scope < twoTo 32

theorem port?_written (port : Nat) :
    port? (':' :: Nat.toDigits 10 port) = if port < 65536 then some port else none := by
  have some (behind : List Char) : after? ':' (':' :: behind) = .some behind := rfl
  have read : number? 10 none true 65536 (Nat.toDigits 10 port) =
      if port < 65536 then .some (port, []) else none := by
    rw [← List.append_nil (Nat.toDigits 10 port)]
    exact number?_toDigits (by decide) known_ten nofun rfl
  rw [port?, some]
  simp only [Option.bind_eq_bind, Option.bind_some, read]
  split
  · rfl
  · rfl

theorem toList_text_four (bytes : List Nat) (port : Nat) :
    (text ⟨.four bytes, port⟩).toList = (fourText bytes).toList ++ ':' :: Nat.toDigits 10 port := by
  simp [text]

/-- A scope other than the first one, behind its mark. -/
def scopeText (scope : Nat) : List Char :=
  if scope = 0 then [] else '%' :: Nat.toDigits 10 scope

theorem toList_text_six (numbers : List Nat) (scope port : Nat) :
    (text ⟨.six numbers scope, port⟩).toList =
      '[' :: ((sixText numbers).toList ++
        (scopeText scope ++ ']' :: ':' :: Nat.toDigits 10 port)) := by
  by_cases first : scope = 0
  · simp [text, scopeText, first]
  · simp [text, scopeText, first]

theorem ends_scopeText (scope : Nat) (behind : List Char) :
    Ends (scopeText scope ++ ']' :: behind) := by
  by_cases first : scope = 0
  · rw [scopeText, if_pos first]
    exact ⟨⟨']', behind, rfl, by decide⟩, fun _ begins => nomatch begins⟩
  · rw [scopeText, if_neg first]
    exact ⟨⟨'%', _, rfl, by decide⟩, fun _ begins => nomatch begins⟩

/-- The scope of an address, and what stands behind it. -/
def scope? (rest : List Char) : Option (Nat × List Char) :=
  match after? '%' rest with
  | some rest => number? 10 none true (twoTo 32) rest
  | none => some (0, rest)

theorem scope?_written {scope : Nat} (below : scope < twoTo 32) (behind : List Char) :
    scope? (scopeText scope ++ ']' :: behind) = some (scope, ']' :: behind) := by
  by_cases first : scope = 0
  · rw [scopeText, if_pos first, first]
    rfl
  · rw [scopeText, if_neg first]
    change number? 10 none true (twoTo 32) (Nat.toDigits 10 scope ++ ']' :: behind) = _
    have anyLength : ∀ room ∈ (none : Option Nat), (Nat.toDigits 10 scope).length ≤ room := nofun
    rw [number?_toDigits (by decide) known_ten anyLength (stops_cons (by decide) _), if_pos below]

/-- What is not four bytes is eight groups in brackets, with their scope, and a port behind them. -/
theorem ofString?_of_not_four
    {spelled : String} (notFour : four? spelled.toList = none) :
    ofString? spelled =
      (after? '[' spelled.toList).bind fun opened => (six? opened).bind fun numbers =>
        (scope? numbers.2).bind fun scope => (after? ']' scope.2).bind fun closed =>
          (port? closed).bind fun port => some ⟨.six numbers.1 scope.1, port⟩ := by
  rw [ofString?, notFour]
  dsimp only
  simp only [Option.bind_eq_bind, scope?]
  refine congrArg _ (funext fun opened => congrArg _ (funext fun numbers => ?_))
  cases after? '%' numbers.2 with
  | none => rfl
  | some behind => rfl

/-- An address whose numbers have room is read back from its written form if its port has room too. -/
theorem ofString?_text
    {ip : IpAddress} (wellFormed : WellFormed ip) (port : Nat) :
    ofString? (text ⟨ip, port⟩) = if port < 65536 then some ⟨ip, port⟩ else none := by
  cases ip with
  | four bytes =>
      rw [ofString?, toList_text_four, four?_written wellFormed (stops_cons (by decide) _)]
      dsimp only
      rw [port?_written]
      split
      · rfl
      · rfl
  | six numbers scope =>
      obtain ⟨eight, below⟩ := wellFormed
      have notFour (behind : List Char) : four? ('[' :: behind) = none := by
        rw [four?, number?_of_stops (stops_cons (by decide) behind)]
        rfl
      have some (mark : Char) (behind : List Char) : after? mark (mark :: behind) = .some behind :=
        if_pos rfl
      rw [ofString?_of_not_four (toList_text_six .. ▸ notFour _), toList_text_six, some]
      simp only [Option.bind_some, six?_written eight (ends_scopeText scope _),
        scope?_written below, some, port?_written]
      split
      · rfl
      · rfl

/-- The numbers of an address that was read have room in their places. -/
theorem wellFormed_of_ofString?
    {spelled : String} {address : SocketAddress} (read : ofString? spelled = some address) :
    WellFormed address.ip := by
  cases four : four? spelled.toList with
  | some bytes =>
      rw [ofString?, four] at read
      obtain ⟨port, -, rfl⟩ := Option.map_eq_some_iff.mp read
      exact areBytes_of_four? four
  | none =>
      rw [ofString?_of_not_four four] at read
      simp only [Option.bind_eq_some_iff] at read
      obtain ⟨opened, -, numbers, eight, scope, ended, closed, -, port, -, made⟩ := read
      cases made
      refine ⟨areEight_of_six? eight, ?_⟩
      rw [scope?] at ended
      split at ended
      · exact (number?_spec ended).1
      · cases ended
        exact (by decide : 0 < twoTo 32)

end RequestHub.SocketAddress
