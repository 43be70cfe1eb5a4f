/-!
# Punycode

A label of a host name that is not ASCII is written as its ASCII characters, a hyphen, and the places and
values of the others as numbers of base thirty-six.  The numbers are differences, taken in the order of
the values, and the weight of their digits adapts to the size of the differences seen so far.
-/

namespace RequestHub.Text.Punycode

/-- The digit of a value below thirty-six. -/
def digit (value : Nat) : Char :=
  if value < 26 then Char.ofNat (value + 0x61) else Char.ofNat (value - 26 + 0x30)

/-- The value at which the digit at a position ends the number. -/
def threshold (position bias : Nat) : Nat :=
  min 26 (max 1 (position - bias))

theorem threshold_pos (position bias : Nat) : 0 < threshold position bias := by
  simp only [threshold]
  omega

/-- The digits of a difference from a position on. -/
def digits (bias position difference : Nat) : List Char :=
  let least := threshold position bias
  if difference < least then [digit difference]
  else
    digit (least + (difference - least) % (36 - least)) ::
      digits bias (position + 36) ((difference - least) / (36 - least))
termination_by difference
decreasing_by
  have positive := threshold_pos position bias
  have smaller := Nat.div_le_self (difference - threshold position bias)
    (36 - threshold position bias)
  omega

/-- Divides a difference until it is small; counts the divisions in steps of thirty-six. -/
def settle (difference count : Nat) : Nat × Nat :=
  if 455 < difference then settle (difference / 35) (count + 36) else (difference, count)
termination_by difference

/-- The bias after a difference, of which `written` characters have been written with it. -/
def adapt (difference written : Nat) (first : Bool) : Nat :=
  let scaled := if first then difference / 700 else difference / 2
  let (rest, count) := settle (scaled + scaled / written) 0
  count + 36 * rest / (rest + 38)

/-- What has been written so far. -/
structure Progress where
  text : List Char
  difference : Nat
  bias : Nat
  written : Nat

/-- Passes one character while those with a given value are written. -/
def pass (basic value : Nat) (progress : Progress) (char : Char) : Progress :=
  if char.toNat < value then { progress with difference := progress.difference + 1 }
  else if char.toNat = value then
    { text := progress.text ++ digits progress.bias 36 progress.difference
      difference := 0
      bias := adapt progress.difference (progress.written + 1) (progress.written = basic)
      written := progress.written + 1 }
  else progress

/-- Writes all characters of each of some increasing values. -/
def writeValues (chars : List Char) (basic : Nat) : (least : Nat) → List Nat → Progress → Progress
  | _, [], progress => progress
  | least, value :: values, progress =>
      let skipped := (value - least) * (progress.written + 1)
      let before := { progress with difference := progress.difference + skipped }
      let after := chars.foldl (pass basic value) before
      writeValues chars basic (value + 1) values { after with difference := after.difference + 1 }

/-- A label in ASCII characters, with the mark that says that it was written so. -/
def label (chars : List Char) : List Char :=
  let plain := chars.filter fun char => char.toNat < 0x80
  if plain.length = chars.length then chars
  else
    let lead := if plain.isEmpty then [] else plain ++ ['-']
    let values :=
      ((chars.map Char.toNat).filter (0x80 ≤ ·)).eraseDups.mergeSort fun left right => left ≤ right
    "xn--".toList ++ (writeValues chars plain.length 0x80 values ⟨lead, 0, 72, plain.length⟩).text

end RequestHub.Text.Punycode
