import FrameGraph.Toml.Number

/-!
# Dates and Times

A date, a time, or both with an offset from universal time perhaps. Only
that it is one is of interest, so the readers answer what follows it; but
the numbers have to be in range, and a day has to exist in its month. A
second may be the sixtieth, for the sake of leap seconds.

## Main definitions

* `date?`, `time?`, `offset?`: The parts.
* `dateTime?`: A date, a time, or both.
-/

namespace FrameGraph.Toml

/-- The number that exactly some count of digits write. -/
def fixedNumber? : Nat → Nat → Reader Nat
  | 0, value, cs => some (value, cs)
  | _ + 1, _, [] => none
  | count + 1, value, c :: rest =>
    if isDigit c then fixedNumber? count (10 * value + (c.toNat - '0'.toNat)) rest else none

/-- Two digits that write a number in a range. -/
def twoDigits? (low high : Nat) : Reader Nat := fun cs =>
  match fixedNumber? 2 0 cs with
  | some (value, rest) => if low ≤ value && value ≤ high then some (value, rest) else none
  | none => none

/-- How many days a month has. -/
def daysInMonth (year month : Nat) : Nat :=
  let leap := year % 4 = 0 && (year % 100 ≠ 0 || year % 400 = 0)
  if month = 2 then (if leap then 29 else 28)
  else if month = 4 || month = 6 || month = 9 || month = 11 then 30
  else 31

/-- What follows a date. -/
def date? (cs : List Char) : Option (List Char) := do
  let (year, cs) ← fixedNumber? 4 0 cs
  let cs ← expect? '-' cs
  let (month, cs) ← twoDigits? 1 12 cs
  let cs ← expect? '-' cs
  let (day, cs) ← twoDigits? 1 31 cs
  if day ≤ daysInMonth year month then some cs else none

/-- What follows the fraction of a second, if there is one. -/
def secondFraction (cs : List Char) : List Char :=
  match cs with
  | '.' :: rest =>
    if (rest.takeWhile isDigit).isEmpty then cs else rest.dropWhile isDigit
  | _ => cs

/-- What follows a time. -/
def time? (cs : List Char) : Option (List Char) := do
  let (_, cs) ← twoDigits? 0 23 cs
  let cs ← expect? ':' cs
  let (_, cs) ← twoDigits? 0 59 cs
  let cs ← expect? ':' cs
  let (_, cs) ← twoDigits? 0 60 cs
  some (secondFraction cs)

/-- What follows an offset. -/
def offset? : List Char → Option (List Char)
  | [] => none
  | c :: rest =>
    if c = 'Z' || c = 'z' then some rest
    else if c = '+' || c = '-' then do
      let (_, rest) ← twoDigits? 0 23 rest
      let rest ← expect? ':' rest
      let (_, rest) ← twoDigits? 0 59 rest
      some rest
    else none

/-- What follows the time of a date: nothing is read if there is none. -/
def timeOfDate (cs : List Char) : List Char :=
  match cs with
  | [] => cs
  | c :: rest =>
    if c = 'T' || c = 't' || c = ' ' then
      match time? rest with
      | some rest => (offset? rest).getD rest
      | none => cs
    else cs

/-- What follows a date, a time, or both. -/
def dateTime? (cs : List Char) : Option (List Char) :=
  match date? cs with
  | some rest => some (timeOfDate rest)
  | none => time? cs

end FrameGraph.Toml
