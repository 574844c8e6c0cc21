import Dialogue.Number.Scan

/-!
# Points in time

A date, a time of day or both, and with both the distance from universal time.
Written texts have one form: the letter `T` between date and time, and no more digits
of a second than needed.
-/

namespace Dialogue.Toml

/-- A date of the Gregorian calendar. -/
structure Date where
  /-- The year. -/
  year : Nat
  /-- The month, from one on. -/
  month : Nat
  /-- The day, from one on. -/
  day : Nat
deriving DecidableEq

/-- A time of day. -/
structure Time where
  /-- The hour. -/
  hour : Nat
  /-- The minute. -/
  minute : Nat
  /-- The second, if it is given, and the digits of its fraction. -/
  second : Option (Nat × Option (List Char))
deriving DecidableEq

/-- The distance from universal time. -/
inductive Offset where
  /-- Universal time itself. -/
  | universal
  /-- A number of minutes ahead. -/
  | minutes (ahead : Int)
deriving DecidableEq

/-- A point in time. -/
structure Moment where
  /-- The date. -/
  date : Option Date
  /-- The time of day. -/
  time : Option Time
  /-- The distance from universal time. -/
  offset : Option Offset
deriving DecidableEq

/-- Two digits. -/
def twoDigits? : List Char → Option (Nat × List Char)
  | first :: second :: rest =>
      if first.isDigit && second.isDigit then some (decimalValue [first, second], rest) else none
  | _ => none

/-- Whether a year has a leap day. -/
def isLeapYear (year : Nat) : Bool :=
  year % 4 == 0 && (year % 100 != 0 || year % 400 == 0)

/-- The number of days of a month. -/
def daysOfMonth (year month : Nat) : Nat :=
  if month = 2 then if isLeapYear year then 29 else 28
  else if [4, 6, 9, 11].contains month then 30
  else 31

/-- A date at the front. -/
def Date.read? (chars : List Char) : Option (Date × List Char) := do
  let (century, chars) ← twoDigits? chars
  let (year, chars) ← twoDigits? chars
  let (month, chars) ← match chars with
    | '-' :: chars => twoDigits? chars
    | _ => none
  let (day, chars) ← match chars with
    | '-' :: chars => twoDigits? chars
    | _ => none
  let date : Date := ⟨century * 100 + year, month, day⟩
  if 1 ≤ month ∧ month ≤ 12 ∧ 1 ≤ day ∧ day ≤ daysOfMonth date.year month then
    return (date, chars)
  else none

/-- The digits of a fraction that are kept: nine places without trailing zeros, but at
least one digit. -/
def significantFraction (digits : List Char) : List Char :=
  match ((digits.take 9).reverse.dropWhile (· == '0')).reverse with
  | [] => ['0']
  | kept => kept

/-- A second with its fraction at the front. -/
def readSecond? (chars : List Char) : Option ((Nat × Option (List Char)) × List Char) := do
  let (second, chars) ← twoDigits? chars
  if 60 < second then none
  match chars with
  | '.' :: chars =>
      let (digits, chars) := chars.span Char.isDigit
      if digits.isEmpty then none else return ((second, some (significantFraction digits)), chars)
  | _ => return ((second, none), chars)

/-- An hour and a minute at the front. -/
def readHourMinute? (chars : List Char) : Option (Nat × Nat × List Char) := do
  let (hour, chars) ← twoDigits? chars
  let (minute, chars) ← match chars with
    | ':' :: chars => twoDigits? chars
    | _ => none
  if hour < 24 ∧ minute < 60 then return (hour, minute, chars) else none

/-- A time of day at the front.  The second may be left out. -/
def Time.read? (chars : List Char) : Option (Time × List Char) := do
  let (hour, minute, chars) ← readHourMinute? chars
  match chars with
  | ':' :: chars =>
      let (second, chars) ← readSecond? chars
      return (⟨hour, minute, some second⟩, chars)
  | _ => return (⟨hour, minute, none⟩, chars)

/-- A distance from universal time that fills the text. -/
def Offset.read? : List Char → Option Offset
  | ['Z'] => some .universal
  | ['z'] => some .universal
  | '+' :: chars => do
      let (hour, minute, rest) ← readHourMinute? chars
      if rest.isEmpty then return .minutes (hour * 60 + minute) else none
  | '-' :: chars => do
      let (hour, minute, rest) ← readHourMinute? chars
      if rest.isEmpty then return .minutes (-(hour * 60 + minute : Nat)) else none
  | _ => none

/-- The point in time that a text denotes. -/
def Moment.parse? (chars : List Char) : Option Moment :=
  match Date.read? chars with
  | none => do
      let (time, rest) ← Time.read? chars
      if rest.isEmpty then return ⟨none, some time, none⟩ else none
  | some (date, []) => some ⟨some date, none, none⟩
  | some (date, mark :: chars) => do
      if mark ≠ 'T' ∧ mark ≠ 't' ∧ mark ≠ ' ' then none
      let (time, rest) ← Time.read? chars
      if rest.isEmpty then return ⟨some date, some time, none⟩
      let offset ← Offset.read? rest
      return ⟨some date, some time, some offset⟩

/-- A number with at least a given number of digits. -/
def padded (width value : Nat) : List Char :=
  let digits := Nat.toDigits 10 value
  List.replicate (width - digits.length) '0' ++ digits

/-- The text of a date. -/
def Date.chars (date : Date) : List Char :=
  padded 4 date.year ++ '-' :: padded 2 date.month ++ '-' :: padded 2 date.day

/-- The text of a time of day. -/
def Time.chars (time : Time) : List Char :=
  padded 2 time.hour ++ ':' :: padded 2 time.minute ++
    match time.second with
    | none => []
    | some (second, fraction) =>
        ':' :: padded 2 second ++
          match fraction with
          | none => []
          | some digits => '.' :: digits

/-- The text of a distance from universal time. -/
def Offset.chars : Offset → List Char
  | .universal => ['Z']
  | .minutes ahead =>
      (if ahead < 0 then '-' else '+') :: padded 2 (ahead.natAbs / 60) ++
        ':' :: padded 2 (ahead.natAbs % 60)

/-- The text of a point in time. -/
def Moment.text (moment : Moment) : String :=
  let date := (moment.date.map Date.chars).getD []
  let time := (moment.time.map Time.chars).getD []
  let offset := (moment.offset.map Offset.chars).getD []
  let mark := if moment.date.isSome && moment.time.isSome then ['T'] else []
  String.ofList (date ++ mark ++ time ++ offset)

end Dialogue.Toml
