/-!
Moments as the log and the history write them, in universal time.
-/

namespace LiveShell

structure Moment where
  /-- Seconds since the start of 1970. -/
  seconds : Nat := 0
deriving DecidableEq, Repr, Inhabited

namespace Moment

def twoDigits (value : Nat) : String := if value < 10 then "0" ++ toString value else toString value

/-- The time of the day. -/
def time (moment : Moment) : String :=
  let rest := moment.seconds % 86400
  twoDigits (rest / 3600) ++ ":" ++ twoDigits (rest / 60 % 60) ++ ":" ++ twoDigits (rest % 60)

/-- Year, month and day. Years count from March, so that the day that some years have more is their last one. -/
def calendar (moment : Moment) : Nat × Nat × Nat :=
  let days := moment.seconds / 86400 + 719468
  let era := days / 146097
  let dayOfEra := days % 146097
  let year := (dayOfEra - dayOfEra / 1460 + dayOfEra / 36524 - dayOfEra / 146096) / 365
  let dayOfYear := dayOfEra - (365 * year + year / 4 - year / 100)
  let month := (5 * dayOfYear + 2) / 153
  let day := dayOfYear - (153 * month + 2) / 5 + 1
  let month := if month < 10 then month + 3 else month - 9
  (era * 400 + year + (if month ≤ 2 then 1 else 0), month, day)

/-- The day and the time of the day. -/
def dateAndTime (moment : Moment) : String :=
  let (year, month, day) := moment.calendar
  toString year ++ "-" ++ twoDigits month ++ "-" ++ twoDigits day ++ " " ++ moment.time

end Moment

end LiveShell
