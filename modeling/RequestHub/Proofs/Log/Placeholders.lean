import RequestHub.Log.Template
import RequestHub.Proofs.Text.Pattern
import RequestHub.Proofs.Text.Trimming
import RequestHub.Text.Split

/-!
# What counts as a placeholder

A placeholder is two opening braces, a text without braces and two closing braces.  `Scans` takes a template
apart from left to right: where a placeholder opens it is one part, trimmed of blanks, and the scan goes on
behind it; every other character is a part of its own.  There is one way to do so.  It is how templates are
taken apart, and it is what a search for the pattern of a placeholder finds, although the pattern leaves it
to its runs to part the blanks from the name.
-/

namespace RequestHub.Log.Template

open Text (Trims isBlank)

/-- A placeholder opens at the front of some characters. -/
structure Opens (chars inner rest : List Char) : Prop where
  split : chars = '\x7b' :: '\x7b' :: (inner ++ '\x7d' :: '\x7d' :: rest)
  plain : ∀ char ∈ inner, isPlain char = true

/-- The parts of a template from left to right: placeholders wherever they open, and single characters. -/
inductive Scans : List Char → List Piece → Prop where
  | nil : Scans [] []
  | field {chars inner rest name : List Char} {parts : List Piece}
      (opens : Opens chars inner rest)
      (trims : Trims isBlank inner name)
      (behind : Scans rest parts) :
      Scans chars (.field (String.ofList name) :: parts)
  | plain {char : Char} {chars : List Char} {parts : List Piece}
      (closed : ∀ inner rest, ¬ Opens (char :: chars) inner rest)
      (behind : Scans chars parts) :
      Scans (char :: chars) (.plain char :: parts)

/--
The pattern of a placeholder: between the braces stand blanks, as many as there are, then as little as there
can be without braces, which is captured, and blanks again.
-/
def pattern : Text.Pattern :=
  [.char '\x7b', .char '\x7b', .run .long false isBlank, .run .short true isPlain,
    .run .long false isBlank, .char '\x7d', .char '\x7d']

/-- The matches of the pattern in a text from left to right, and the characters between them. -/
inductive Finds : List Char → List Piece → Prop where
  | nil : Finds [] []
  | field {chars captured rest : List Char} {parts : List Piece}
      (found : pattern.first? chars = some (captured, rest))
      (behind : Finds rest parts) :
      Finds chars (.field (String.ofList captured) :: parts)
  | plain {char : Char} {chars : List Char} {parts : List Piece}
      (unmatched : pattern.first? (char :: chars) = none)
      (behind : Finds chars parts) :
      Finds (char :: chars) (.plain char :: parts)

variable {chars inner rest name other left : List Char} {parts : List Piece}

/-! ## Where a placeholder opens -/

theorem isPlain_of_isBlank {char : Char} (blank : isBlank char = true) : isPlain char = true := by
  rw [isPlain, Bool.and_eq_true, decide_eq_true_iff, decide_eq_true_iff]
  constructor <;> (rintro rfl; exact absurd blank (by decide))

theorem not_mem_of_plain (plain : ∀ char ∈ inner, isPlain char = true) : '\x7d' ∉ inner :=
  fun member => absurd (plain _ member) (by decide)

/-- A text without closing braces ends where the first one stands. -/
theorem eq_of_append_brace
    (absent : '\x7d' ∉ name)
    (missing : '\x7d' ∉ other)
    (same : name ++ '\x7d' :: rest = other ++ '\x7d' :: left) :
    name = other ∧ rest = left := by
  have cut := congrArg (Text.cutOnce '\x7d') same
  rw [Text.cutOnce_append_cons absent, Text.cutOnce_append_cons missing] at cut
  exact ⟨congrArg Prod.fst cut, Option.some.inj (congrArg Prod.snd cut)⟩

theorem Opens.unique
    (opens : Opens chars inner rest)
    (again : Opens chars other left) :
    inner = other ∧ rest = left := by
  have same := List.tail_eq_of_cons_eq (List.tail_eq_of_cons_eq (opens.split.symm.trans again.split))
  obtain ⟨inside, behind⟩ := eq_of_append_brace (not_mem_of_plain opens.plain)
    (not_mem_of_plain again.plain) same
  exact ⟨inside, List.tail_eq_of_cons_eq behind⟩

theorem Opens.length_lt (opens : Opens chars inner rest) : rest.length < chars.length := by
  rw [opens.split]
  simp only [List.length_cons, List.length_append]
  omega

theorem closing?_eq_some_iff :
    closing? chars = some (inner, rest) ↔
      chars = inner ++ '\x7d' :: '\x7d' :: rest ∧ ∀ char ∈ inner, isPlain char = true := by
  constructor
  · intro found
    refine ⟨closing?_eq_some found, ?_⟩
    simp only [closing?] at found
    split at found
    · obtain ⟨rfl, -⟩ := Prod.mk.injEq .. ▸ Option.some.inj found
      exact List.all_eq_true.mp List.all_takeWhile
    · cases found
  · rintro ⟨rfl, plain⟩
    have brace : isPlain '\x7d' = false := by decide
    have behind : (inner ++ '\x7d' :: '\x7d' :: rest).dropWhile isPlain = '\x7d' :: '\x7d' :: rest := by
      rw [List.dropWhile_append_of_pos plain, List.dropWhile_cons_of_neg (by simp [brace])]
    have before : (inner ++ '\x7d' :: '\x7d' :: rest).takeWhile isPlain = inner := by
      rw [List.takeWhile_append_of_pos plain, List.takeWhile_cons_of_neg (by simp [brace]),
        List.append_nil]
    rw [closing?, behind, before]
    rfl

theorem placeholder?_eq_some_iff {field : String} :
    placeholder? chars = some (field, rest) ↔
      ∃ inner name, Opens chars inner rest ∧ Trims isBlank inner name ∧
        field = String.ofList name := by
  constructor
  · intro found
    unfold placeholder? at found
    split at found
    · obtain ⟨⟨inner, behind⟩, closed, same⟩ := Option.map_eq_some_iff.mp found
      obtain ⟨rfl, rfl⟩ := Prod.mk.injEq .. ▸ same
      obtain ⟨rfl, plain⟩ := closing?_eq_some_iff.mp closed
      exact ⟨inner, _, ⟨rfl, plain⟩, Text.trims_trimBy isBlank inner, rfl⟩
    · cases found
  · rintro ⟨inner, name, ⟨rfl, plain⟩, trims, rfl⟩
    rw [placeholder?, closing?_eq_some_iff.mpr ⟨rfl, plain⟩, trims.eq_trimBy]
    rfl

/-! ## The scan -/

/-- There is one way to scan a template. -/
theorem Scans.unique
    {others : List Piece}
    (scans : Scans chars parts)
    (again : Scans chars others) :
    parts = others := by
  induction scans generalizing others with
  | nil =>
      cases again with
      | nil => rfl
      | field opens => exact nomatch opens.split
  | field opens trims _ ih =>
      cases again with
      | nil => exact nomatch opens.split
      | field opened trimmed behind =>
          obtain ⟨rfl, rfl⟩ := opens.unique opened
          rw [trims.eq_trimBy, trimmed.eq_trimBy, ih behind]
      | plain closed _ => exact absurd opens (closed _ _)
  | plain closed _ ih =>
      cases again with
      | field opens => exact absurd opens (closed _ _)
      | plain _ behind => rw [ih behind]

theorem scans_pieces (chars : List Char) : Scans chars (pieces chars) := by
  fun_induction pieces chars with
  | case1 => exact .nil
  | case2 char chars field rest found ih =>
      obtain ⟨inner, name, opens, trims, rfl⟩ := placeholder?_eq_some_iff.mp found
      exact .field opens trims ih
  | case3 char chars missing ih =>
      refine .plain (fun inner rest opens => ?_) ih
      have found := placeholder?_eq_some_iff.mpr
        ⟨inner, _, opens, Text.trims_trimBy isBlank inner, rfl⟩
      rw [missing] at found
      cases found

/-- The parts of a template are those of its scan. -/
theorem Scans.eq_pieces (scans : Scans chars parts) : parts = pieces chars :=
  scans.unique (scans_pieces chars)

/-! ## The search for the pattern -/

/-- Whatever the pattern matches is a placeholder. -/
theorem opens_of_mem_ways
    (way : (name, rest) ∈ pattern.ways chars) :
    ∃ inner, Opens chars inner rest := by
  obtain ⟨_, rfl, opening⟩ := Text.Pattern.mem_ways_char.mp way
  obtain ⟨_, rfl, opened⟩ := Text.Pattern.mem_ways_char.mp opening
  obtain ⟨front, _, _, rfl, before, named, -⟩ := Text.Pattern.mem_ways_run.mp opened
  obtain ⟨middle, _, _, rfl, between, trailed, -⟩ := Text.Pattern.mem_ways_run.mp named
  obtain ⟨back, _, _, rfl, after, closing, -⟩ := Text.Pattern.mem_ways_run.mp trailed
  obtain ⟨_, rfl, closed⟩ := Text.Pattern.mem_ways_char.mp closing
  obtain ⟨_, rfl, finished⟩ := Text.Pattern.mem_ways_char.mp closed
  obtain ⟨-, rfl⟩ := Prod.mk.injEq .. ▸ List.mem_singleton.mp finished
  refine ⟨front ++ middle ++ back, by simp, fun char member => ?_⟩
  rcases List.mem_append.mp member with member | last
  · rcases List.mem_append.mp member with first | second
    · exact isPlain_of_isBlank (before char first)
    · exact between char second
  · exact isPlain_of_isBlank (after char last)

/-- The part of the pattern behind the captured run. -/
def ending : Text.Pattern :=
  [.run .long false isBlank, .char '\x7d', .char '\x7d']

theorem first?_ending
    (blank : ∀ char ∈ inner, isBlank char = true)
    (rest : List Char) :
    ending.first? (inner ++ '\x7d' :: '\x7d' :: rest) = some ([], rest) := by
  refine Text.Pattern.first?_long blank (fun char first => ?_) ?_
  · obtain rfl := Option.some.inj first
    decide
  · rw [Text.Pattern.first?_char, Text.Pattern.first?_char]
    rfl

/-- The end of the pattern does not match before the last blanks. -/
theorem first?_ending_eq_none
    (plain : ∀ char ∈ inner, isPlain char = true)
    (filled : ¬ ∀ char ∈ inner, isBlank char = true)
    (rest : List Char) :
    ending.first? (inner ++ '\x7d' :: '\x7d' :: rest) = none := by
  rw [Text.Pattern.first?, List.head?_eq_none_iff, List.eq_nil_iff_forall_not_mem]
  rintro ⟨captured, left⟩ way
  obtain ⟨back, _, _, split, blank, way, -⟩ := Text.Pattern.mem_ways_run.mp way
  obtain ⟨_, rfl, -⟩ := Text.Pattern.mem_ways_char.mp way
  have absent := not_mem_of_plain fun char member => isPlain_of_isBlank (blank char member)
  obtain ⟨rfl, -⟩ := eq_of_append_brace (not_mem_of_plain plain) absent split
  exact filled blank

/-- The captured run ends with the last character that is no blank, if there is any. -/
theorem exists_first?_short
    (plain : ∀ char ∈ inner, isPlain char = true)
    (rest : List Char) :
    ∃ name back,
      inner = name ++ back ∧ (∀ char ∈ back, isBlank char = true) ∧
        (∀ char ∈ name.getLast?, isBlank char = false) ∧
          Text.Pattern.first? (.run .short true isPlain :: ending)
            (inner ++ '\x7d' :: '\x7d' :: rest) = some (name, rest) := by
  induction inner with
  | nil =>
      refine ⟨[], [], rfl, List.forall_mem_nil _, fun char last => (nomatch last), ?_⟩
      exact Text.Pattern.first?_short_of_some (first?_ending (List.forall_mem_nil _) rest)
  | cons char inner ih =>
      by_cases blank : ∀ other ∈ char :: inner, isBlank other = true
      · exact ⟨[], char :: inner, rfl, blank, fun char last => (nomatch last),
          Text.Pattern.first?_short_of_some (first?_ending blank rest)⟩
      · obtain ⟨passes, others⟩ := List.forall_mem_cons.mp plain
        obtain ⟨name, back, rfl, after, last, found⟩ := ih others
        refine ⟨char :: name, back, rfl, after, ?_,
          Text.Pattern.first?_short_of_none (first?_ending_eq_none plain blank rest) passes found⟩
        intro other end_eq
        cases name with
        | nil =>
            obtain rfl := Option.some.inj end_eq
            refine Bool.eq_false_iff.mpr fun first => blank ?_
            exact List.forall_mem_cons.mpr ⟨first, after⟩
        | cons second name => exact last other (by rwa [List.getLast?_cons_cons] at end_eq)

/-- The pattern matches wherever a placeholder opens, and captures its trimmed name. -/
theorem exists_first?_pattern
    (opens : Opens chars inner rest) :
    ∃ name, Trims isBlank inner name ∧ pattern.first? chars = some (name, rest) := by
  obtain ⟨rfl, plain⟩ := opens
  have cut : inner.takeWhile isBlank ++ inner.dropWhile isBlank = inner :=
    List.takeWhile_append_dropWhile
  have before : ∀ char ∈ inner.takeWhile isBlank, isBlank char = true :=
    List.all_eq_true.mp List.all_takeWhile
  have after : ∀ char ∈ inner.dropWhile isBlank, isPlain char = true :=
    fun char member => plain char ((List.dropWhile_suffix isBlank).subset member)
  obtain ⟨name, back, split, blank, last, short⟩ := exists_first?_short after rest
  have stops : ∀ char ∈ (inner.dropWhile isBlank ++ '\x7d' :: '\x7d' :: rest).head?,
      isBlank char = false := by
    intro char member
    cases left : inner.dropWhile isBlank with
    | nil =>
        rw [left] at member
        obtain rfl := Option.some.inj member
        decide
    | cons first others =>
        have first : char ∈ (inner.dropWhile isBlank).head? := by rwa [left] at member ⊢
        exact Text.not_dropped_of_head?_dropWhile first
  refine ⟨name, ⟨⟨_, back, ?_, before, blank⟩, Text.first_of_append split.symm, last⟩, ?_⟩
  · rw [List.append_assoc, ← split, cut]
  · have long := Text.Pattern.first?_long before stops short
    rw [← List.append_assoc, cut] at long
    rw [pattern, Text.Pattern.first?_char, Text.Pattern.first?_char]
    exact long

/-- The match at the front is the placeholder that opens there, and what it captures is the trimmed name. -/
theorem first?_pattern_iff :
    pattern.first? chars = some (name, rest) ↔
      ∃ inner, Opens chars inner rest ∧ Trims isBlank inner name := by
  constructor
  · intro found
    obtain ⟨inner, opens⟩ := opens_of_mem_ways (List.mem_of_mem_head? found)
    obtain ⟨captured, trims, matched⟩ := exists_first?_pattern opens
    obtain ⟨rfl, -⟩ := Prod.mk.injEq .. ▸ Option.some.inj (matched.symm.trans found)
    exact ⟨inner, opens, trims⟩
  · rintro ⟨inner, opens, trims⟩
    obtain ⟨captured, trimmed, matched⟩ := exists_first?_pattern opens
    rwa [trims.eq_trimBy, ← trimmed.eq_trimBy]

/-- Searching for the pattern takes a template apart as the scan does. -/
theorem finds_iff_scans : Finds chars parts ↔ Scans chars parts := by
  constructor
  · intro finds
    induction finds with
    | nil => exact .nil
    | field found _ ih =>
        obtain ⟨inner, opens, trims⟩ := first?_pattern_iff.mp found
        exact .field opens trims ih
    | plain unmatched _ ih =>
        refine .plain (fun inner rest opens => ?_) ih
        obtain ⟨name, -, matched⟩ := exists_first?_pattern opens
        exact absurd (unmatched.symm.trans matched) (by simp)
  · intro scans
    induction scans with
    | nil => exact .nil
    | field opens trims _ ih => exact .field (first?_pattern_iff.mpr ⟨_, opens, trims⟩) ih
    | plain closed _ ih =>
        refine .plain (Option.eq_none_iff_forall_ne_some.mpr ?_) ih
        rintro ⟨name, rest⟩ found
        obtain ⟨inner, opens, -⟩ := first?_pattern_iff.mp found
        exact closed inner rest opens

end RequestHub.Log.Template
