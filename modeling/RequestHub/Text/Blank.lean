/-!
# Blank characters

Names and values are trimmed of blanks on both sides.  The blank characters are those that the
Unicode character database calls white space.
-/

namespace RequestHub.Text

/-- Whether a character is white space. -/
def isBlank (char : Char) : Bool :=
  let number := char.toNat
  (0x09 ≤ number && number ≤ 0x0D) || number == 0x20 || number == 0x85 || number == 0xA0 ||
    number == 0x1680 || (0x2000 ≤ number && number ≤ 0x200A) || number == 0x2028 ||
    number == 0x2029 || number == 0x202F || number == 0x205F || number == 0x3000

/-- A sequence without the elements at its two ends that satisfy `drop`. -/
def trimBy {α : Type} (drop : α → Bool) (items : List α) : List α :=
  ((items.dropWhile drop).reverse.dropWhile drop).reverse

/-- A text without the blanks at its two ends. -/
def trim (text : String) : String :=
  String.ofList (trimBy isBlank text.toList)

/-- Trimming begins with the elements at the front. -/
theorem trimBy_cons {α : Type} {drop : α → Bool} {item : α} (dropped : drop item = true)
    (items : List α) : trimBy drop (item :: items) = trimBy drop items := by
  simp [trimBy, dropped]

theorem dropWhile_append_of_stays {α : Type} {drop : α → Bool} {items : List α}
    (present : items ≠ []) (stays : ∀ item ∈ items, drop item = false) (more : List α) :
    (items ++ more).dropWhile drop = items ++ more := by
  cases items with
  | nil => exact absurd rfl present
  | cons item items => simp [stays item List.mem_cons_self]

/-- Where nothing is dropped, trimming leaves everything as it is. -/
theorem trimBy_of_stays {α : Type} {drop : α → Bool} {items : List α}
    (stays : ∀ item ∈ items, drop item = false) : trimBy drop items = items := by
  cases items with
  | nil => rfl
  | cons item items =>
      have front := dropWhile_append_of_stays (List.cons_ne_nil item items) stays []
      have back := dropWhile_append_of_stays
        (mt List.reverse_eq_nil_iff.mp (List.cons_ne_nil item items))
        (fun other member => stays other (List.mem_reverse.mp member)) []
      rw [List.append_nil] at front back
      rw [trimBy, front, back, List.reverse_reverse]

/-- Trimming goes no further than to the parts at the two ends from which nothing is dropped. -/
theorem trimBy_append {α : Type} {drop : α → Bool} {left right : List α}
    (leftPresent : left ≠ []) (leftStays : ∀ item ∈ left, drop item = false)
    (rightPresent : right ≠ []) (rightStays : ∀ item ∈ right, drop item = false)
    (middle tail : List α) :
    ∃ rest, rest <+: tail ∧
      trimBy drop (left ++ (middle ++ (right ++ tail))) = left ++ (middle ++ (right ++ rest)) := by
  refine ⟨(tail.reverse.dropWhile drop).reverse, ?_, ?_⟩
  · have shorter : (tail.reverse.dropWhile drop).reverse <+: tail.reverse.reverse :=
      List.reverse_prefix.mpr (List.dropWhile_suffix drop)
    rwa [List.reverse_reverse] at shorter
  · have back : (right.reverse ++ (left ++ middle).reverse).dropWhile drop =
        right.reverse ++ (left ++ middle).reverse :=
      dropWhile_append_of_stays (mt List.reverse_eq_nil_iff.mp rightPresent)
        (fun item member => rightStays item (List.mem_reverse.mp member)) _
    have turned : (left ++ (middle ++ (right ++ tail))).reverse =
        tail.reverse ++ (right.reverse ++ (left ++ middle).reverse) := by simp
    rw [trimBy, dropWhile_append_of_stays leftPresent leftStays, turned, List.dropWhile_append,
      back]
    split
    · rename_i gone
      simp [List.isEmpty_iff.mp gone]
    · simp

end RequestHub.Text
