import SiteModules.Value

namespace SiteModules

namespace Moment

/-- The days from the first of March of year 0, where the count of a leap cycle starts, to 1970. -/
def daysBefore1970 : Nat := 719468

def cycleDays : Nat := 146097

/-- The year within a leap cycle, and the day of that year; years begin in March. -/
def inCycle (day : Nat) : Nat × Nat :=
  let year := (day - day / 1460 + day / 36524 - day / (cycleDays - 1)) / 365
  (year, day - (365 * year + year / 4 - year / 100))

def dayOf (days : Nat) : Nat × Nat × Nat :=
  let shifted := days + daysBefore1970
  let (year, day) := inCycle (shifted % cycleDays)
  let month := (5 * day + 2) / 153
  let dayOfMonth := day - (153 * month + 2) / 5 + 1
  let year := year + 400 * (shifted / cycleDays)
  if month < 10 then (year, month + 3, dayOfMonth) else (year + 1, month - 9, dayOfMonth)

def ofMilliseconds (n : Nat) : Moment :=
  let seconds := n / 1000
  let (year, month, day) := dayOf (seconds / 86400)
  ⟨year, month, day, seconds / 3600 % 24, seconds / 60 % 60, seconds % 60, n % 1000 * 1000, some 0⟩

def padded (width n : Nat) : String :=
  let ds := Nat.toDigits 10 n
  String.ofList (List.replicate (width - ds.length) '0' ++ ds)

def stamp (m : Moment) : String :=
  padded 4 m.year ++ "-" ++ padded 2 m.month ++ "-" ++ padded 2 m.day ++ "T" ++ padded 2 m.hour ++
    ":" ++ padded 2 m.minute ++ ":" ++ padded 2 m.second ++ "." ++ padded 3 (m.micro / 1000) ++
    "+00:00"

end Moment

end SiteModules
