import RequestHub.Text.Blank

/-!
# Patterns

A pattern is a row of parts: characters that stand for themselves, and runs of characters of a class.  A run
would rather be as long or as short as it can be, and it may be captured.  `Pattern.ways` lists every way in
which a pattern matches at the front of a text, in the order in which a search that goes back on its choices
comes upon them; the match is the first of them.
-/

namespace RequestHub.Text

/-- What a run would rather be. -/
inductive Wish where
  | long
  | short
deriving DecidableEq, Repr

/-- A part of a pattern. -/
inductive PatternPart where
  /-- A character that stands for itself. -/
  | char (char : Char)
  /-- A run of characters of a class, captured or not. -/
  | run (wish : Wish) (captured : Bool) (test : Char → Bool)

/-- A row of parts, each of which matches behind the one before it. -/
abbrev Pattern := List PatternPart

/-- The runs at the front of some characters with what follows them, the shortest first. -/
def runs (test : Char → Bool) : List Char → List (List Char × List Char)
  | [] => [([], [])]
  | char :: chars =>
      ([], char :: chars) ::
        if test char then (runs test chars).map fun run => (char :: run.1, run.2) else []

/-- The runs in the order in which they are tried. -/
def Wish.order {α : Type} : Wish → List α → List α
  | .long, choices => choices.reverse
  | .short, choices => choices

namespace Pattern

/-- What each way to match at the front captures and what it leaves, the preferred way first. -/
def ways : Pattern → List Char → List (List Char × List Char)
  | [], chars => [([], chars)]
  | .char _ :: _, [] => []
  | .char expected :: parts, char :: chars => if expected = char then ways parts chars else []
  | .run wish captured test :: parts, chars =>
      (wish.order (runs test chars)).flatMap fun run =>
        (ways parts run.2).map fun way => (if captured then run.1 ++ way.1 else way.1, way.2)

/-- What the match at the front captures and what it leaves, if there is one. -/
def first? (pattern : Pattern) (chars : List Char) : Option (List Char × List Char) :=
  (pattern.ways chars).head?

end Pattern

/-! ## Runs -/

variable {test : Char → Bool} {char : Char} {chars taken behind rest captured : List Char}

@[simp]
theorem mem_runs :
    (taken, behind) ∈ runs test chars ↔
      chars = taken ++ behind ∧ ∀ char ∈ taken, test char = true := by
  induction chars generalizing taken with
  | nil =>
      constructor
      · intro member
        obtain ⟨rfl, rfl⟩ := Prod.mk.injEq .. ▸ List.mem_singleton.mp member
        exact ⟨rfl, List.forall_mem_nil _⟩
      · rintro ⟨nothing, -⟩
        obtain ⟨rfl, rfl⟩ := List.append_eq_nil_iff.mp nothing.symm
        exact List.mem_singleton_self _
  | cons char chars ih =>
      rw [runs, List.mem_cons]
      constructor
      · rintro (same | later)
        · obtain ⟨rfl, rfl⟩ := Prod.mk.injEq .. ▸ same
          exact ⟨rfl, List.forall_mem_nil _⟩
        · split at later
          · rename_i passes
            obtain ⟨⟨taken, behind⟩, member, same⟩ := List.mem_map.mp later
            obtain ⟨rfl, rfl⟩ := Prod.mk.injEq .. ▸ same
            obtain ⟨rfl, all⟩ := ih.mp member
            exact ⟨rfl, List.forall_mem_cons.mpr ⟨passes, all⟩⟩
          · cases later
      · rintro ⟨split, all⟩
        cases taken with
        | nil => exact .inl (by rw [split]; rfl)
        | cons first taken =>
            obtain ⟨rfl, rfl⟩ := List.cons_eq_cons.mp split
            obtain ⟨passes, others⟩ := List.forall_mem_cons.mp all
            rw [if_pos passes]
            exact .inr (List.mem_map.mpr ⟨(taken, behind), ih.mpr ⟨rfl, others⟩, rfl⟩)

@[simp]
theorem Wish.mem_order
    {α : Type}
    {wish : Wish}
    {choices : List α}
    {choice : α} :
    choice ∈ wish.order choices ↔ choice ∈ choices := by
  cases wish with
  | long => exact List.mem_reverse
  | short => exact Iff.rfl

/-- The longest run goes on to the first character that fails the test. -/
theorem getLast?_runs
    (all : ∀ char ∈ taken, test char = true)
    (stops : ∀ char ∈ behind.head?, test char = false) :
    (runs test (taken ++ behind)).getLast? = some (taken, behind) := by
  induction taken with
  | nil =>
      cases behind with
      | nil => rfl
      | cons char chars =>
          have fails : test char = false := stops char rfl
          simp [runs, fails]
  | cons char taken ih =>
      obtain ⟨passes, others⟩ := List.forall_mem_cons.mp all
      rw [List.cons_append, runs, if_pos passes, List.getLast?_cons, List.getLast?_map, ih others]
      rfl

namespace Pattern

variable {parts : Pattern} {wish : Wish} {keeps : Bool} {found : List Char × List Char}

@[simp]
theorem mem_ways_char :
    (captured, rest) ∈ ways (.char char :: parts) chars ↔
      ∃ tail, chars = char :: tail ∧ (captured, rest) ∈ ways parts tail := by
  cases chars with
  | nil => simp [ways]
  | cons first tail =>
      rw [ways]
      split
      · rename_i same
        simp [same]
      · rename_i different
        simp [Ne.symm different]

@[simp]
theorem mem_ways_run :
    (captured, rest) ∈ ways (.run wish keeps test :: parts) chars ↔
      ∃ taken behind more,
        chars = taken ++ behind ∧
          (∀ char ∈ taken, test char = true) ∧
            (more, rest) ∈ ways parts behind ∧ captured = if keeps then taken ++ more else more := by
  rw [ways, List.mem_flatMap]
  constructor
  · rintro ⟨⟨taken, behind⟩, run, member⟩
    obtain ⟨⟨more, rest⟩, way, same⟩ := List.mem_map.mp member
    obtain ⟨rfl, rfl⟩ := Prod.mk.injEq .. ▸ same
    obtain ⟨split, all⟩ := mem_runs.mp (Wish.mem_order.mp run)
    exact ⟨taken, behind, more, split, all, way, rfl⟩
  · rintro ⟨taken, behind, more, split, all, way, rfl⟩
    exact ⟨(taken, behind), Wish.mem_order.mpr (mem_runs.mpr ⟨split, all⟩),
      List.mem_map.mpr ⟨(more, rest), way, rfl⟩⟩

@[simp]
theorem first?_char (parts : Pattern) (char : Char) (chars : List Char) :
    first? (.char char :: parts) (char :: chars) = first? parts chars := by
  rw [first?, ways, if_pos rfl, first?]

/-- A run that would rather be long is as long as it can be, if the parts behind it match there. -/
theorem first?_long
    (all : ∀ char ∈ taken, test char = true)
    (stops : ∀ char ∈ behind.head?, test char = false)
    (matched : first? parts behind = some found) :
    first? (.run .long false test :: parts) (taken ++ behind) = some found := by
  obtain ⟨shorter, longest⟩ := List.getLast?_eq_some_iff.mp (getLast?_runs all stops)
  obtain ⟨others, ways_eq⟩ := List.head?_eq_some_iff.mp matched
  rw [first?, ways, longest, Wish.order, List.reverse_concat, List.flatMap_cons, ways_eq]
  rfl

/-- A run that would rather be short is empty, if the parts behind it match there. -/
theorem first?_short_of_some
    (matched : first? parts chars = some found) :
    first? (.run .short true test :: parts) chars = some found := by
  obtain ⟨others, ways_eq⟩ := List.head?_eq_some_iff.mp matched
  obtain ⟨longer, shortest⟩ : ∃ longer, runs test chars = ([], chars) :: longer := by
    cases chars <;> exact ⟨_, rfl⟩
  rw [first?, ways, Wish.order, shortest, List.flatMap_cons, ways_eq]
  rfl

/-- A run takes one more character only if the parts behind it do not match before that character. -/
theorem first?_short_of_none
    (unmatched : first? parts (char :: chars) = none)
    (passes : test char = true)
    (matched : first? (.run .short true test :: parts) chars = some (captured, rest)) :
    first? (.run .short true test :: parts) (char :: chars) = some (char :: captured, rest) := by
  have none : ways parts (char :: chars) = [] := List.head?_eq_none_iff.mp unmatched
  obtain ⟨others, ways_eq⟩ := List.head?_eq_some_iff.mp matched
  have shifted : ways (.run .short true test :: parts) (char :: chars) =
      (ways (.run .short true test :: parts) chars).map fun way => (char :: way.1, way.2) := by
    rw [ways, runs, if_pos passes, Wish.order, List.flatMap_cons, none, List.map_nil, List.nil_append,
      List.flatMap_map, ways, Wish.order, List.map_flatMap]
    refine congrArg (List.flatMap · _) (funext fun run => ?_)
    rw [List.map_map]
    rfl
  rw [first?, shifted, ways_eq]
  rfl

end Pattern

end RequestHub.Text
