import ApiAccord.ResultRecord

/-!
# Occasions

An `Occasion` is the time at which a command runs, as results and file names give it.
-/

namespace ApiAccord

/-- The day that comes a number of days after the first of January 1970.  Years are counted from
March on, so that the day that only leap years have is their last one. -/
def Date.ofDayNumber (days : Nat) : Date :=
  let fromEpoch := days + 719468
  let cycle := fromEpoch / 146097
  let day := fromEpoch % 146097
  let year := (day + day / 36524 - day / 1460 - day / 146096) / 365
  let dayOfYear := day + year / 100 - year / 4 - 365 * year
  let month := (5 * dayOfYear + 2) / 153
  let dayOfMonth := dayOfYear - (153 * month + 2) / 5 + 1
  if month < 10 then ⟨cycle * 400 + year, month + 3, dayOfMonth⟩
  else ⟨cycle * 400 + year + 1, month - 9, dayOfMonth⟩

/-- When a command runs, for results and for the names of files. -/
structure Occasion where
  stamp : Stamp
  /-- The time as a part of a file name. -/
  tag : String

/-- The moment that comes a number of seconds after the beginning of 1970. -/
def Moment.ofSeconds (seconds : Nat) : Moment where
  date := Date.ofDayNumber (seconds / 86400)
  hour := seconds % 86400 / 3600
  minute := seconds % 3600 / 60
  second := seconds % 60
  microsecond := 0
  offset := none

/-- The occasion a number of seconds after the beginning of 1970. -/
def Occasion.ofSeconds (seconds : Nat) : Occasion :=
  let m := Moment.ofSeconds seconds
  let two := Text.padded 2
  { stamp := ⟨m.iso "T" ++ "Z", .int 0⟩
    tag := Text.padded 4 m.date.year ++ two m.date.month ++ two m.date.day ++ "-" ++
      two m.hour ++ two m.minute ++ two m.second }

end ApiAccord
