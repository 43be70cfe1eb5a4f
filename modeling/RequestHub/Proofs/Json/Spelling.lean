import Mathlib.Tactic.FinCases
import RequestHub.Proofs.Json.Collections

/-!
# The text of an object tells its members

Two values are written alike only if they are of one kind and their parts are written alike.  This holds of
all numbers as well, including those whose text is not read back as the number here.

The reason is that a text tells where a value in it ends.  `Passage` follows a text by its marks alone: it
counts the brackets that are open, and knows whether it is between quotes.  Behind a value it is where it
was in front of it, and it cannot pass a mark that belongs to what is around the value.
-/

namespace RequestHub

/-! ## Texts of numbers have no marks -/

namespace Json

/-- The characters that say how the text of a value is put together. -/
def marks : List Char :=
  ['"', '[', ']', '\x7b', '\x7d', ',', ':']

/-- A text without marks. -/
def Unmarked (chars : List Char) : Prop :=
  ∀ char ∈ chars, char ∉ marks

-- The characters of the text are looked at, and not all characters that there are.
instance (chars : List Char) : Decidable (Unmarked chars) :=
  List.decidableBAll (fun char => char ∉ marks) chars

/-- A text that is not empty and has no marks. -/
def Bare (chars : List Char) : Prop :=
  chars ≠ [] ∧ Unmarked chars

/-- The characters of numbers, and of the words that stand for what is no number. -/
def figures : List Char :=
  "0123456789.e+-infNaul".toList

/-- A text that has no other characters than those of numbers. -/
def AllFigures (chars : List Char) : Prop :=
  ∀ char ∈ chars, char ∈ figures

instance (chars : List Char) : Decidable (AllFigures chars) :=
  List.decidableBAll (fun char => char ∈ figures) chars

/-- A text that is not empty and has no other characters than those of numbers. -/
def Figures (chars : List Char) : Prop :=
  chars ≠ [] ∧ AllFigures chars

instance (chars : List Char) : Decidable (Figures chars) :=
  inferInstanceAs (Decidable (_ ∧ _))

theorem figure_of_isDigit {char : Char} (digit : char.isDigit = true) : char ∈ figures := by
  have all : ∀ value < 10, Char.ofNat (value + 48) ∈ figures := by decide
  have bounds : 48 ≤ char.toNat ∧ char.toNat ≤ 57 := by
    simpa [Char.isDigit, UInt32.le_iff_toNat_le] using digit
  have member := all (char.toNat - 48) (by omega)
  rwa [Nat.sub_add_cancel bounds.1, Char.ofNat_toNat] at member

theorem figures_toDigits (number : Nat) : Figures (Nat.toDigits 10 number) := by
  refine ⟨Nat.toDigits_ne_nil, fun char member => figure_of_isDigit ?_⟩
  exact Nat.isDigit_of_mem_toDigits (by decide) (by decide) member

theorem Figures.append {front back : List Char} (filled : Figures front) (others : AllFigures back) :
    Figures (front ++ back) :=
  ⟨List.append_ne_nil_of_left_ne_nil filled.1 back, List.forall_mem_append.mpr ⟨filled.2, others⟩⟩

theorem Figures.cons {first : Char} {others : List Char} (here : first ∈ figures)
    (filled : Figures others) : Figures (first :: others) :=
  ⟨List.cons_ne_nil _ _, List.forall_mem_cons.mpr ⟨here, filled.2⟩⟩

theorem Figures.bare {chars : List Char} (filled : Figures chars) : Bare chars := by
  have apart : Unmarked figures := by decide
  exact ⟨filled.1, fun char member => apart char (filled.2 char member)⟩

end Json

namespace Decimal

open Json (AllFigures Figures figures_toDigits)

theorem figures_spread (numeral : Numeral) : Figures numeral.spread.1 := by
  simp only [Numeral.spread]
  split
  · decide
  · rename_i filled
    refine ⟨by simpa using filled, fun char member => ?_⟩
    have digit : char ∈ Nat.toDigits 10 numeral.digits :=
      List.mem_reverse.mp ((List.dropWhile_sublist _).subset (List.mem_reverse.mp member))
    exact (figures_toDigits numeral.digits).2 char digit

theorem allFigures_replicate (count : Nat) : AllFigures (List.replicate count '0') := by
  intro char member
  rw [List.eq_of_mem_replicate member]
  decide

theorem figures_placePoint
    (layout : Layout) {digits : List Char} (digital : Figures digits) (leading : Int) :
    Figures (placePoint layout digits leading) := by
  unfold placePoint
  split
  · have front : Figures ['0', '.'] := by decide
    exact (front.append (allFigures_replicate _)).append digital.2
  · dsimp only
    split
    · refine (digital.append (allFigures_replicate _)).append ?_
      split <;> decide
    · have point : AllFigures ['.'] := by decide
      refine ⟨by simp, ?_⟩
      rw [List.append_assoc]
      exact List.forall_mem_append.mpr ⟨fun char member => digital.2 char (List.mem_of_mem_take member),
        List.forall_mem_append.mpr ⟨point, fun char member => digital.2 char (List.mem_of_mem_drop member)⟩⟩

theorem figures_placeExponent
    (layout : Layout) {digits : List Char} (digital : Figures digits) (leading : Int) :
    Figures (placeExponent layout digits leading) := by
  have exponent : AllFigures ['e'] := by decide
  have sign : AllFigures (if leading < 0 then ['-'] else if layout.exponentSign then ['+'] else []) := by
    split
    · decide
    · split <;> decide
  unfold placeExponent
  dsimp only
  refine ((Figures.append ?_ exponent).append sign).append (figures_toDigits _).2
  split
  · obtain ⟨here, others⟩ := List.forall_mem_cons.mp digital.2
    exact .cons here (.cons (by decide) ⟨List.cons_ne_nil _ _, others⟩)
  · exact digital

theorem figures_layOut (layout : Layout) (number : Real64) : Figures (layOut layout number) := by
  unfold layOut
  split
  · split <;> decide
  · have digits := figures_spread (shortest number.mantissa number.exponent)
    dsimp only
    split
    · exact figures_placePoint layout digits _
    · exact figures_placeExponent layout digits _

theorem figures_write (layout : Layout) (number : Real64) : Figures (write layout number).toList := by
  unfold write
  split
  · decide
  · have body : Figures (if number.isFinite then layOut layout number else "inf".toList) := by
      split
      · exact figures_layOut layout number
      · decide
    dsimp only
    rw [String.toList_ofList]
    split
    · exact .cons (by decide) body
    · exact body

end Decimal

namespace Json

theorem Number.figures_render (number : Number) : Figures number.render.toList := by
  cases number with
  | integer value =>
      rw [render, Int.toString_eq_repr, Int.repr_eq_if]
      split
      · rw [Nat.toList_repr]
        exact figures_toDigits _
      · rw [String.toList_append, Nat.toList_repr]
        exact .cons (by decide) (figures_toDigits _)
  | real value =>
      rw [render]
      split
      · exact Decimal.figures_write _ _
      · decide

theorem Number.bare_render (number : Number) : Bare number.render.toList :=
  number.figures_render.bare

/-! ## Following a text by its marks -/

/-- Where one is in a text. -/
inductive Passage where
  /-- Outside of quotes, with some brackets open. -/
  | outside (depth : Nat)
  /-- Between quotes. -/
  | quoted (depth : Nat)
  /-- Between quotes, behind a backslash. -/
  | escaped (depth : Nat)
deriving DecidableEq

namespace Passage

/-- The way past one character; a mark that belongs to what is around cannot be passed. -/
def step : Passage → Char → Option Passage
  | outside depth, char =>
      if char = '"' then some (quoted depth)
      else if char = '[' ∨ char = '\x7b' then some (outside (depth + 1))
      else
        match depth with
        | 0 => if char ∈ marks then none else some (outside 0)
        | below + 1 => some (outside (if char = ']' ∨ char = '\x7d' then below else below + 1))
  | quoted depth, char =>
      some (if char = '"' then outside depth else if char = '\\' then escaped depth else quoted depth)
  | escaped depth, _ => some (quoted depth)

/-- The way past some characters. -/
def through (passage : Passage) (chars : List Char) : Option Passage :=
  chars.foldlM step passage

@[simp]
theorem through_append (passage : Passage) (front back : List Char) :
    passage.through (front ++ back) = (passage.through front).bind (through · back) :=
  List.foldlM_append

@[simp]
theorem through_cons (passage : Passage) (char : Char) (chars : List Char) :
    passage.through (char :: chars) = (passage.step char).bind (through · chars) := rfl

/-- A text that is passed at any depth leaves the depth as it was. -/
def Level (chars : List Char) : Prop :=
  ∀ depth, (outside depth).through chars = some (outside depth)

theorem Level.append {front back : List Char} (level : Level front) (other : Level back) :
    Level (front ++ back) := by
  intro depth
  rw [through_append, level depth]
  exact other depth

theorem level_of_unmarked {chars : List Char} (unmarked : Unmarked chars) :
    Level chars := by
  intro depth
  induction chars with
  | nil => rfl
  | cons char chars ih =>
      obtain ⟨here, others⟩ := List.forall_mem_cons.mp unmarked
      have passed : (outside depth).step char = some (outside depth) := by
        simp only [marks, List.mem_cons, List.not_mem_nil, or_false, not_or] at here
        cases depth <;> simp [step, marks, here]
      rw [through_cons, passed]
      exact ih others

/-- The form of a character stays between the quotes. -/
@[simp]
theorem through_escape (depth : Nat) (char : Char) :
    (quoted depth).through (escape char) = some (quoted depth) := by
  have digit : ∀ value < 16, Nat.digitChar value ≠ '"' ∧ Nat.digitChar value ≠ '\\' := by decide
  by_cases plain : IsPlainChar char
  · rw [escape_of_plain plain]
    simp [through, step, plain.2.1, plain.2.2]
  · unfold escape
    repeat'
      split
    all_goals try rfl
    · rename_i control
      have high := digit (char.toNat / 16) (by omega)
      have low := digit (char.toNat % 16) (by omega)
      simp [through, step, controlDigits, high, low]
    · rename_i quote backslash _ _ _ _ _ visible
      exact absurd ⟨Nat.not_lt.mp visible, quote, backslash⟩ plain

theorem level_string (text : String) : Level (renderString text) := by
  intro depth
  have inside (chars : List Char) :
      (quoted depth).through (chars.flatMap escape) = some (quoted depth) := by
    induction chars with
    | nil => rfl
    | cons char chars ih =>
        rw [List.flatMap_cons, through_append, through_escape]
        exact ih
  rw [renderString, List.cons_append, through_cons]
  change (quoted depth).through (text.toList.flatMap escape ++ ['"']) = _
  rw [through_append, inside]
  rfl

/-- What is passed one level deeper leaves the depth as it was if brackets stand around it. -/
theorem level_brackets
    {opening closing : Char} (pair : (opening, closing) ∈ [('[', ']'), ('\x7b', '\x7d')])
    {chars : List Char}
    (inner : ∀ depth, (outside (depth + 1)).through chars = some (outside (depth + 1))) :
    Level (opening :: chars ++ [closing]) := by
  intro depth
  have opened : (outside depth).step opening = some (outside (depth + 1)) := by
    fin_cases pair <;> rfl
  have closed : (outside (depth + 1)).through [closing] = some (outside depth) := by
    fin_cases pair <;> rfl
  rw [List.cons_append, through_cons, opened]
  change (outside (depth + 1)).through (chars ++ [closing]) = _
  rw [through_append, inner]
  exact closed

/-- One level deep a comma or a colon is passed. -/
theorem through_separated
    {separator : Char} (between : separator ∈ [',', ':']) {chars : List Char} (level : Level chars)
    (depth : Nat) :
    (outside (depth + 1)).through (separator :: chars) = some (outside (depth + 1)) := by
  have passed : (outside (depth + 1)).step separator = some (outside (depth + 1)) := by
    fin_cases between <;> rfl
  rw [through_cons, passed]
  exact level (depth + 1)

theorem through_flatMap
    {α : Type} {part : α → List Char} {items : List α} {depth : Nat}
    (each : ∀ item ∈ items, (outside depth).through (part item) = some (outside depth)) :
    (outside depth).through (items.flatMap part) = some (outside depth) := by
  induction items with
  | nil => rfl
  | cons item items ih =>
      obtain ⟨first, others⟩ := List.forall_mem_cons.mp each
      rw [List.flatMap_cons, through_append, first]
      exact ih others

theorem level_array {items : List Json} (each : ∀ item ∈ items, Level item.renderChars) :
    Level (Json.array items).renderChars := by
  refine level_brackets (by decide) fun depth => ?_
  cases items with
  | nil => rfl
  | cons item items =>
      obtain ⟨first, others⟩ := List.forall_mem_cons.mp each
      rw [renderItems_cons, through_append, first]
      exact through_flatMap fun other member =>
        through_separated (by decide) (others other member) depth

theorem level_object
    {members : List (String × Json)} (each : ∀ member ∈ members, Level member.2.renderChars) :
    Level (Json.object members).renderChars := by
  have through_member (depth : Nat) {member : String × Json} (level : Level member.2.renderChars) :
      (outside (depth + 1)).through (renderString member.1 ++ ':' :: member.2.renderChars) =
        some (outside (depth + 1)) := by
    rw [through_append, level_string]
    exact through_separated (by decide) level depth
  refine level_brackets (by decide) fun depth => ?_
  cases members with
  | nil => rfl
  | cons member members =>
      obtain ⟨first, others⟩ := List.forall_mem_cons.mp each
      rw [renderMembers_cons, through_append, through_member depth first]
      refine through_flatMap fun other here => ?_
      have comma : (outside (depth + 1)).step ',' = some (outside (depth + 1)) := rfl
      rw [through_cons, comma]
      exact through_member depth (others other here)

mutual

/-- Behind the text of a value one is where one was in front of it. -/
theorem level_value : (value : Json) → Level value.renderChars
  | .null => level_of_unmarked (by decide)
  | .bool true => level_of_unmarked (by decide)
  | .bool false => level_of_unmarked (by decide)
  | .number value => level_of_unmarked value.bare_render.2
  | .string text => level_string text
  | .array items => level_array (level_items items)
  | .object members => level_object (level_members members)

theorem level_items : (items : List Json) → ∀ item ∈ items, Level item.renderChars
  | [] => fun _ member => absurd member List.not_mem_nil
  | item :: items => List.forall_mem_cons.mpr ⟨level_value item, level_items items⟩

theorem level_members :
    (members : List (String × Json)) → ∀ member ∈ members, Level member.2.renderChars
  | [] => fun _ member => absurd member List.not_mem_nil
  | (_, value) :: members => List.forall_mem_cons.mpr ⟨level_value value, level_members members⟩

end

end Passage

/-! ## Where a value ends -/

/-- What may stand behind a value: nothing, or a mark that it cannot pass. -/
def Ends (rest : List Char) : Prop :=
  ∀ char ∈ rest.head?, Passage.step (.outside 0) char = none

theorem ends_cons
    {mark : Char} (closing : mark ∈ [',', ':', ']', '\x7d']) (rest : List Char) : Ends (mark :: rest) := by
  rintro _ ⟨⟩
  fin_cases closing <;> rfl

/-- The text of a value does not go on where that of another one ends. -/
theorem eq_nil_of_longer
    {left right : Json} {more rest : List Char}
    (longer : right.renderChars = left.renderChars ++ more) (ends : Ends (more ++ rest)) :
    more = [] := by
  cases more with
  | nil => rfl
  | cons char more =>
      have passed := Passage.level_value right 0
      rw [longer, Passage.through_append, Passage.level_value left 0, Option.bind_some,
        Passage.through_cons, ends char rfl] at passed
      cases passed

/-- Texts that begin with values have the same one in front if they are the same. -/
theorem parted
    {left right : Json} {rest other : List Char} (ends : Ends rest) (otherEnds : Ends other)
    (same : left.renderChars ++ rest = right.renderChars ++ other) :
    left.renderChars = right.renderChars ∧ rest = other := by
  rcases List.append_eq_append_iff.mp same with ⟨more, longer, rfl⟩ | ⟨more, longer, rfl⟩
  · obtain rfl := eq_nil_of_longer longer ends
    exact ⟨by rw [longer, List.append_nil], rfl⟩
  · obtain rfl := eq_nil_of_longer longer otherEnds
    exact ⟨by rw [longer, List.append_nil], rfl⟩

/-- Strings are written alike only if they are the same. -/
theorem eq_of_renderString {left right : String} (same : renderString left = renderString right) :
    left = right := by
  have inside : written left.toList = written right.toList := by
    have chars := List.append_cancel_right (List.cons.inj same).2
    rw [written, written, chars]
  obtain ⟨_, first⟩ := readString_takes left [] ⟨0, 0⟩ trivial
  obtain ⟨_, second⟩ := readString_takes right [] ⟨0, 0⟩ trivial
  rw [inside] at first
  exact Except.ok.inj (Prod.ext_iff.mp (first.symm.trans second)).1

/-! ## Members of objects -/

/-- The name of a member with its colon, and its value. -/
def memberChars (member : String × Json) : List Char :=
  renderString member.1 ++ ':' :: member.2.renderChars

/-- Members that follow another one, each behind a comma. -/
def following (members : List (String × Json)) : List Char :=
  members.flatMap fun member => ',' :: memberChars member

theorem renderChars_object_cons (member : String × Json) (members : List (String × Json)) :
    (Json.object (member :: members)).renderChars =
      '\x7b' :: (memberChars member ++ (following members ++ ['\x7d'])) := by
  rw [renderChars, renderMembers_cons, ← List.append_assoc]
  rfl

theorem following_cons (member : String × Json) (members : List (String × Json)) (rest : List Char) :
    following (member :: members) ++ rest = ',' :: (memberChars member ++ (following members ++ rest)) := by
  rw [following, List.flatMap_cons, List.cons_append, List.cons_append, List.append_assoc]
  rfl

theorem ends_following (members : List (String × Json)) : Ends (following members ++ ['\x7d']) := by
  cases members with
  | nil => exact ends_cons (by decide) _
  | cons member members =>
      rw [following_cons]
      exact ends_cons (by decide) _

/-- Members with the same names, whose values are written alike. -/
def MembersAlike (left right : List (String × Json)) : Prop :=
  List.Forall₂ (fun member other => member.1 = other.1 ∧ member.2.renderChars = other.2.renderChars)
    left right

theorem member_parted
    {left right : String × Json} {rest other : List Char} (ends : Ends rest) (otherEnds : Ends other)
    (same : memberChars left ++ rest = memberChars right ++ other) :
    (left.1 = right.1 ∧ left.2.renderChars = right.2.renderChars) ∧ rest = other := by
  rw [memberChars, memberChars, List.append_assoc, List.append_assoc] at same
  have named : (Json.string left.1).renderChars ++ ':' :: (left.2.renderChars ++ rest) =
      (Json.string right.1).renderChars ++ ':' :: (right.2.renderChars ++ other) := same
  obtain ⟨names, behind⟩ := parted (ends_cons (by decide) _) (ends_cons (by decide) _) named
  obtain ⟨values, rests⟩ := parted ends otherEnds (List.cons.inj behind).2
  exact ⟨⟨eq_of_renderString names, values⟩, rests⟩

theorem alike_of_following
    {left right : List (String × Json)}
    (same : following left ++ ['\x7d'] = following right ++ ['\x7d']) :
    MembersAlike left right := by
  induction left generalizing right with
  | nil =>
      cases right with
      | nil => exact .nil
      | cons => cases (List.cons.inj same).1
  | cons member left ih =>
      cases right with
      | nil => cases (List.cons.inj same).1
      | cons other right =>
          rw [following_cons, following_cons] at same
          obtain ⟨alike, others⟩ :=
            member_parted (ends_following left) (ends_following right) (List.cons.inj same).2
          exact .cons alike (ih others)

/-- Objects are written alike only if their members are. -/
theorem alike_of_object
    {left right : List (String × Json)}
    (same : (Json.object left).renderChars = (Json.object right).renderChars) :
    MembersAlike left right := by
  cases left with
  | nil =>
      cases right with
      | nil => exact .nil
      | cons other right =>
          rw [renderChars_object_cons] at same
          cases (List.cons.inj (List.cons.inj same).2).1
  | cons member left =>
      cases right with
      | nil =>
          rw [renderChars_object_cons] at same
          cases (List.cons.inj (List.cons.inj same).2).1
      | cons other right =>
          rw [renderChars_object_cons, renderChars_object_cons] at same
          obtain ⟨alike, others⟩ :=
            member_parted (ends_following left) (ends_following right) (List.cons.inj same).2
          exact .cons alike (alike_of_following others)

/-- What is found under a name is written alike. -/
theorem MembersAlike.find?
    {left right : List (String × Json)} (alike : MembersAlike left right)
    {name : String} {value other : Json}
    (found : Names.find? name left = some value) (second : Names.find? name right = some other) :
    value.renderChars = other.renderChars := by
  induction alike with
  | nil => cases found
  | @cons member another left right here _ ih =>
      obtain ⟨memberName, held⟩ := member
      obtain ⟨anotherName, kept⟩ := another
      obtain ⟨names, values⟩ := here
      dsimp only at names values
      subst names
      rw [Names.find?_cons] at found second
      by_cases first : name = memberName
      · rw [if_pos first] at found second
        cases found
        cases second
        exact values
      · rw [if_neg first] at found second
        exact ih found second

end Json

end RequestHub
