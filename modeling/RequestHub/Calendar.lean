/-!
# Dates

A response tells when its document was last changed: the day of the week, the date and the time of
day in universal time, in English and with fixed widths.
-/

namespace RequestHub.Calendar

/-- A day of the calendar. -/
structure Day where
  year : Nat
  /-- The month, counted from one. -/
  month : Nat
  /-- The day of the month, counted from one. -/
  day : Nat
deriving DecidableEq, Inhabited, Repr

/--
The day that lies some days after the first of January 1970.  Years are taken to begin in March, so
that the day that a leap year adds is the last one, and eras of 400 years have one length.
-/
def dayAfterEpoch (days : Nat) : Day :=
  let shifted := days + 719468
  let era := shifted / 146097
  let ofEra := shifted % 146097
  let yearOfEra := (ofEra - ofEra / 1460 + ofEra / 36524 - ofEra / 146096) / 365
  let ofYear := ofEra - (365 * yearOfEra + yearOfEra / 4 - yearOfEra / 100)
  let march := (5 * ofYear + 2) / 153
  let day := ofYear - (153 * march + 2) / 5 + 1
  let month := if march < 10 then march + 3 else march - 9
  let year := yearOfEra + era * 400 + (if month ≤ 2 then 1 else 0)
  ⟨year, month, day⟩

/-- The names of the days of the week, from the first of January 1970 on. -/
def weekdays : List String :=
  ["Thu", "Fri", "Sat", "Sun", "Mon", "Tue", "Wed"]

/-- The names of the months. -/
def months : List String :=
  ["Jan", "Feb", "Mar", "Apr", "May", "Jun", "Jul", "Aug", "Sep", "Oct", "Nov", "Dec"]

/-- A number with leading zeros. -/
def padded (width value : Nat) : String :=
  let digits := toString value
  String.ofList (List.replicate (width - digits.length) '0') ++ digits

/-- The date and time of an instant, given in seconds since the beginning of 1970. -/
def dateText (seconds : Nat) : String :=
  let days := seconds / 86400
  let time := seconds % 86400
  let day := dayAfterEpoch days
  weekdays.getD (days % 7) "" ++ ", " ++ padded 2 day.day ++ " " ++ months.getD (day.month - 1) "" ++
    " " ++ padded 4 day.year ++ " " ++ padded 2 (time / 3600) ++ ":" ++
    padded 2 (time / 60 % 60) ++ ":" ++ padded 2 (time % 60) ++ " GMT"

end RequestHub.Calendar
