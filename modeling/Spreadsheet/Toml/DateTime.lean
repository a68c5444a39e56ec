import Spreadsheet.Toml.Number

namespace Spreadsheet.Toml

/-!
# Dates and times

A date has four digits for the year and two for the month and the day, which must exist. A time has
hours, minutes and seconds, of which there may be sixty, and perhaps a fraction. A date and a time
are joined by `T` or a space, and only together can they tell a distance from universal time.
-/

/-- Takes an exact number of digits whose value lies in a range. -/
def fixedDigits
    (count lowest highest : Nat) :
    Reader Nat :=
  fun text =>
    let found := text.take count
    let value := numberOfDigits 10 found
    if found.length = count ∧ found.all Char.isDigit ∧ lowest ≤ value ∧ value ≤ highest then
      some (value, text.drop count)
    else
      none

/-- The number of days in a month. -/
def daysInMonth (year month : Nat) : Nat :=
  if month = 2 then
    if year % 4 = 0 ∧ (year % 100 ≠ 0 ∨ year % 400 = 0) then 29 else 28
  else if month = 4 ∨ month = 6 ∨ month = 9 ∨ month = 11 then
    30
  else
    31

/-- Takes a date. -/
def date : Reader Date := do
  let year ← fixedDigits 4 0 9999
  Reader.symbol '-'
  let month ← fixedDigits 2 1 12
  Reader.symbol '-'
  let day ← fixedDigits 2 1 31
  guard (day ≤ daysInMonth year month)
  return ⟨year, month, day⟩

/-- Takes the digits after the point in a second. -/
def secondFraction : Reader (List Char) := do
  Reader.symbol '.'
  let first ← Reader.character Char.isDigit
  let later ← Reader.span Char.isDigit
  return first :: later

/-- Takes a time of day. -/
def time : Reader Time := do
  let hour ← fixedDigits 2 0 23
  Reader.symbol ':'
  let minute ← fixedDigits 2 0 59
  Reader.symbol ':'
  let second ← fixedDigits 2 0 60
  let fraction ← Reader.optional secondFraction
  return ⟨hour, minute, second, fraction.getD []⟩

/-- Takes a distance from universal time, in minutes. -/
def offset : Reader Int :=
  (do
    let _ ← Reader.character fun first => first == 'Z' || first == 'z'
    return 0) <|>
  (do
    let direction ← Reader.character fun first => first == '+' || first == '-'
    let hours ← fixedDigits 2 0 23
    Reader.symbol ':'
    let minutes ← fixedDigits 2 0 59
    let distance : Int := hours * 60 + minutes
    return if direction == '-' then -distance else distance)

/-- Takes a time that follows a date. -/
def timeAfterDate : Reader (Time × Option Int) := do
  let _ ← Reader.character fun first => first == 'T' || first == 't' || first == ' '
  let time ← time
  let offset ← Reader.optional offset
  return (time, offset)

/-- Takes a date, a time, or both. -/
def dateTime : Reader DateTime :=
  (do
    let date ← date
    match ← Reader.optional timeAfterDate with
    | some (time, offset) => return .both date time offset
    | none => return .date date) <|>
  (.time <$> time)

end Spreadsheet.Toml
