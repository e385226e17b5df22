/-
  A moment as a date and a time of day.

  Moments are seconds since the first of January 1970.  The calendar repeats
  after 400 years, which are 146097 days; with years that begin in March the
  leap day is the last of its year, so the day of the year tells the month.

  * `Date.ofDays` is the date of a day, `timestamp` the text of a moment.
-/
namespace ChatRelay.Log

/-- A date. -/
structure Date where
  year : Nat
  month : Nat
  day : Nat
deriving DecidableEq

/-- The days from the first of March of the year zero to the first of January
    1970. -/
def epoch : Nat := 719468

/-- The date a number of days after the first of January 1970. -/
def Date.ofDays (days : Nat) : Date :=
  let era := (days + epoch) / 146097
  let dayOfEra := (days + epoch) % 146097
  let yearOfEra :=
    (dayOfEra - dayOfEra / 1460 + dayOfEra / 36524 - dayOfEra / 146096) / 365
  let dayOfYear := dayOfEra - (365 * yearOfEra + yearOfEra / 4 - yearOfEra / 100)
  let march := (5 * dayOfYear + 2) / 153
  let month := if march < 10 then march + 3 else march - 9
  let year := era * 400 + yearOfEra
  { year := if month ≤ 2 then year + 1 else year
    month
    day := dayOfYear - (153 * march + 2) / 5 + 1 }

/-- A number with zeros in front, up to the width. -/
def padded (width n : Nat) : String :=
  let ds := Nat.toDigits 10 n
  String.ofList (List.replicate (width - ds.length) '0' ++ ds)

/-- The text of a moment: the date and the time of day. -/
def timestamp (seconds : Nat) : String :=
  let d := Date.ofDays (seconds / 86400)
  let s := seconds % 86400
  padded 4 d.year ++ "-" ++ padded 2 d.month ++ "-" ++ padded 2 d.day ++ " " ++
    padded 2 (s / 3600) ++ ":" ++ padded 2 (s / 60 % 60) ++ ":" ++ padded 2 (s % 60)

example : timestamp 1700000000 = "2023-11-14 22:13:20" := by decide +kernel

example : Date.ofDays 11016 = ⟨2000, 2, 29⟩ := by decide

end ChatRelay.Log
