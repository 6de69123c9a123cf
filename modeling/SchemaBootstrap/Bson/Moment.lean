import SchemaBootstrap.Text.Pieces

/-! # Points in time

A point in time is a number of milliseconds from the start of 1970 in universal
time. It is written as a date and a time of day, if its year has at most six digits
(`Moment.text?`), and read from a date and a time of day with an offset
(`Moment.ofText?`).
-/

namespace SchemaBootstrap

namespace Moment

/-- A natural number filled up with zeros to a count of digits. -/
def padded (count n : Nat) : String :=
  let digits := Nat.repr n
  Text.repeated "0" (count - digits.length) ++ digits

/-- The calendar date of a day counted from the start of 1970: year, month and day. -/
def civilDate (day : Int) : Int × Nat × Nat :=
  let shifted := day + 719468
  let era := shifted / 146097
  let dayOfEra := (shifted % 146097).toNat
  let yearOfEra := (dayOfEra - dayOfEra / 1460 + dayOfEra / 36524 - dayOfEra / 146096) / 365
  let dayOfYear := dayOfEra - (365 * yearOfEra + yearOfEra / 4 - yearOfEra / 100)
  let shiftedMonth := (5 * dayOfYear + 2) / 153
  let month := if shiftedMonth < 10 then shiftedMonth + 3 else shiftedMonth - 9
  let year := (yearOfEra : Int) + era * 400 + if month ≤ 2 then 1 else 0
  (year, month, dayOfYear - (153 * shiftedMonth + 2) / 5 + 1)

/-- The day of a calendar date, counted from the start of 1970. -/
def dayOfDate (year : Int) (month day : Nat) : Int :=
  let shifted := if month ≤ 2 then year - 1 else year
  let era := shifted / 400
  let yearOfEra := (shifted % 400).toNat
  let shiftedMonth := if month ≤ 2 then month + 9 else month - 3
  let dayOfYear := (153 * shiftedMonth + 2) / 5 + day - 1
  era * 146097 + (yearOfEra * 365 + yearOfEra / 4 - yearOfEra / 100 + dayOfYear : Nat) - 719468

/-- Whether a year has a twenty-ninth of February. -/
def isLeapYear (year : Nat) : Bool :=
  year % 4 = 0 && (year % 100 ≠ 0 || year % 400 = 0)

/-- The number of days of a month. -/
def daysInMonth (year month : Nat) : Nat :=
  if month = 2 then if isLeapYear year then 29 else 28
  else if [4, 6, 9, 11].contains month then 30
  else 31

/-! ## Writing -/

/-- The digits of a second's fraction in milliseconds, without zeros at the end but
at least one. -/
def fractionText (milliseconds : Nat) : String :=
  if milliseconds % 10 ≠ 0 then padded 3 milliseconds
  else if milliseconds % 100 ≠ 0 then padded 2 (milliseconds / 10)
  else padded 1 (milliseconds / 100)

/-- A year with four digits at least; one with more has a sign. -/
def yearText (year : Int) : String :=
  let sign := if year < 0 then "-" else if 10000 ≤ year then "+" else ""
  sign ++ padded 4 year.natAbs

/-- A point in time as date and time of day in universal time, if its year has at most
six digits. -/
def text? (milliseconds : Int) : Option String :=
  let (year, month, day) := civilDate (milliseconds / 86400000)
  let rest := (milliseconds % 86400000).toNat
  if 999999 < year.natAbs then none
  else
    some (yearText year ++ "-" ++ padded 2 month ++ "-" ++ padded 2 day ++ " "
      ++ Nat.repr (rest / 3600000) ++ ":" ++ padded 2 (rest / 60000 % 60) ++ ":"
      ++ padded 2 (rest / 1000 % 60) ++ "." ++ fractionText (rest % 1000) ++ " +00:00:00")

/-! ## Reading -/

/-- A number of a fixed count of digits within bounds, and the text behind it. -/
def number? (count least greatest : Nat) (text : List Char) : Option (Nat × List Char) :=
  let digits := text.take count
  let value := digits.foldl (fun value c => value * 10 + (c.toNat - '0'.toNat)) 0
  if digits.length = count && digits.all Char.isDigit && least ≤ value && value ≤ greatest then
    some (value, text.drop count)
  else none

/-- The text behind a character. -/
def after? (c : Char) : List Char → Option (List Char)
  | [] => none
  | first :: rest => if first = c then some rest else none

/-- The nanoseconds that a fraction of a second stands for, and the text behind it; digits
after the ninth do not count. -/
def fraction? : List Char → Option (Nat × List Char)
  | '.' :: rest =>
    let digits := rest.takeWhile Char.isDigit
    if digits.isEmpty then none
    else
      let taken := (digits ++ List.replicate 9 '0').take 9
      some (taken.foldl (fun value c => value * 10 + (c.toNat - '0'.toNat)) 0,
        rest.drop digits.length)
  | rest => some (0, rest)

/-- The seconds by which an offset is ahead of universal time, and the text behind it. -/
def offset? : List Char → Option (Int × List Char)
  | 'Z' :: rest => some (0, rest)
  | 'z' :: rest => some (0, rest)
  | sign :: rest => do
    let (hours, rest) ← number? 2 0 23 rest
    let rest ← after? ':' rest
    let (minutes, rest) ← number? 2 0 59 rest
    let seconds : Int := (hours * 60 + minutes) * 60
    if sign = '+' then pure (seconds, rest)
    else if sign = '-' then pure (-seconds, rest)
    else none
  | [] => none

/-- Whether a second of universal time is the last of a month, where a leap second may
follow it. -/
def endsMonth (second : Int) : Bool :=
  (civilDate ((second + 1) / 86400)).2.2 = 1 && (second + 1) % 86400 = 0

/-- The point in time that a date and a time of day with an offset spell. Any character
of one byte may stand between the two, and a second numbered sixty is the last moment
of the one before it. -/
def ofText? (text : String) : Option Int := do
  let (year, rest) ← number? 4 0 9999 text.toList
  let rest ← after? '-' rest
  let (month, rest) ← number? 2 1 12 rest
  let rest ← after? '-' rest
  let (day, rest) ← number? 2 1 (daysInMonth year month) rest
  let (between, rest) ← match rest with
    | [] => none
    | c :: rest => some (c, rest)
  if 0x7F < between.toNat then none
  let (hour, rest) ← number? 2 0 23 rest
  let rest ← after? ':' rest
  let (minute, rest) ← number? 2 0 59 rest
  let rest ← after? ':' rest
  let (second, rest) ← number? 2 0 60 rest
  let (fraction, rest) ← fraction? rest
  let (offset, rest) ← offset? rest
  let seconds := dayOfDate year month day * 86400
    + ((hour * 60 + minute) * 60 + min second 59 : Nat) - offset
  let nanoseconds := if second = 60 then 999999999 else fraction
  if !rest.isEmpty || (second = 60 && !endsMonth seconds) then none
  else pure ((seconds * 1000000000 + nanoseconds).tdiv 1000000)

end Moment

end SchemaBootstrap
