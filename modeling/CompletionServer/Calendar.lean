/-!
# Calendar dates and moments

Dates of the Gregorian calendar from year one on, and moments of a day with an optional distance
from universal time. Each has a plain text and a shown form that spells out its fields.
-/

namespace CompletionServer.Calendar

/-- Why fields name no date or moment. -/
inductive Error
  | year (value : Nat)
  | month
  | day
  | hour
  | minute
  | second
  /-- A distance of a day or more from universal time, in minutes. -/
  | distance (minutes : Int)
  deriving DecidableEq, Repr

/-- A date. -/
structure Date where
  year : Nat
  month : Nat
  day : Nat
  deriving DecidableEq, Repr

/-- A moment: a date, a time of day, and the distance from universal time in minutes. -/
structure Moment where
  date : Date
  hour : Nat
  minute : Nat
  second : Nat
  microsecond : Nat
  distance : Option Int
  deriving DecidableEq, Repr

/-- Every fourth year, but of the whole centuries every fourth. -/
def isLeapYear (year : Nat) : Bool :=
  year % 4 == 0 && (year % 100 != 0 || year % 400 == 0)

/-- The number of days of a month. -/
def daysInMonth (year month : Nat) : Nat :=
  if month = 2 then if isLeapYear year then 29 else 28
  else if month = 4 || month = 6 || month = 9 || month = 11 then 30
  else 31

/-- The date with the given fields; the year is looked at first, the day last. -/
def Date.make (year month day : Nat) : Except Error Date :=
  if year < 1 || 9999 < year then .error (.year year)
  else if month < 1 || 12 < month then .error .month
  else if day < 1 || daysInMonth year month < day then .error .day
  else .ok ⟨year, month, day⟩

/-- The moment with the given fields. The distance is looked at before all else. -/
def Moment.make (year month day hour minute second microsecond : Nat) (distance : Option Int) :
    Except Error Moment := do
  if let some minutes := distance then
    if minutes ≤ -1440 || 1440 ≤ minutes then throw (.distance minutes)
  let date ← Date.make year month day
  if 23 < hour then throw .hour
  if 59 < minute then throw .minute
  if 59 < second then throw .second
  return ⟨date, hour, minute, second, microsecond, distance⟩

/-- A number padded with zeros to a width. -/
def padded (width value : Nat) : String :=
  let digits := toString value
  String.ofList (List.replicate (width - digits.length) '0') ++ digits

/-- Year, month and day with dashes. -/
def Date.text (date : Date) : String :=
  padded 4 date.year ++ "-" ++ padded 2 date.month ++ "-" ++ padded 2 date.day

/-- A distance from universal time as sign, hours and minutes. -/
def distanceText (minutes : Int) : String :=
  (if minutes < 0 then "-" else "+") ++ padded 2 (minutes.natAbs / 60) ++ ":" ++
    padded 2 (minutes.natAbs % 60)

/-- Date and time of day, with the fraction of a second and the distance where there is one. -/
def Moment.text (moment : Moment) : String :=
  moment.date.text ++ " " ++ padded 2 moment.hour ++ ":" ++ padded 2 moment.minute ++ ":" ++
    padded 2 moment.second ++
    (if moment.microsecond = 0 then "" else "." ++ padded 6 moment.microsecond) ++
    (moment.distance.map distanceText).getD ""

/-- The fields of a date. -/
def Date.shown (date : Date) : String :=
  s!"datetime.date({date.year}, {date.month}, {date.day})"

/-- A span of minutes as whole days and the seconds of a last day. -/
def spanShown (minutes : Int) : String :=
  let days := Int.fdiv minutes 1440
  let seconds := Int.fmod minutes 1440 * 60
  let fields :=
    (if days = 0 then [] else [s!"days={days}"]) ++
      (if seconds = 0 then [] else [s!"seconds={seconds}"])
  "datetime.timedelta(" ++ (if fields.isEmpty then "0" else ", ".intercalate fields) ++ ")"

/-- The fields of a moment; seconds and microseconds are left out when they are zero. -/
def Moment.shown (moment : Moment) : String :=
  let ⟨date, hour, minute, second, microsecond, distance⟩ := moment
  let numbers := [date.year, date.month, date.day, hour, minute] ++
    (if second = 0 && microsecond = 0 then [] else [second]) ++
    (if microsecond = 0 then [] else [microsecond])
  let zone :=
    match distance with
    | none => []
    | some 0 => ["tzinfo=datetime.timezone.utc"]
    | some minutes => ["tzinfo=datetime.timezone(" ++ spanShown minutes ++ ")"]
  "datetime.datetime(" ++ ", ".intercalate (numbers.map toString ++ zone) ++ ")"

/-- The wording of an error. -/
def Error.message : Error → String
  | .year value => s!"year {value} is out of range"
  | .month => "month must be in 1..12"
  | .day => "day is out of range for month"
  | .hour => "hour must be in 0..23"
  | .minute => "minute must be in 0..59"
  | .second => "second must be in 0..59"
  | .distance minutes =>
    "offset must be a timedelta strictly between -timedelta(hours=24) and " ++
      "timedelta(hours=24), not " ++ spanShown minutes ++ "."

/-- Days from the first day of year one to the first day of a year. -/
def daysBeforeYear (year : Nat) : Nat :=
  (year - 1) * 365 + (year - 1) / 4 - (year - 1) / 100 + (year - 1) / 400

/-- Days of the year before a date. -/
def Date.dayOfYear (date : Date) : Nat :=
  let months := (List.range (date.month - 1)).map fun month => daysInMonth date.year (month + 1)
  months.foldr (· + ·) 0 + date.day - 1

/-- Microseconds since the first moment of year one, as its own clock counts them. -/
def Moment.clock (moment : Moment) : Int :=
  let days : Int := daysBeforeYear moment.date.year + moment.date.dayOfYear
  ((days * 24 + moment.hour) * 60 + moment.minute) * 60000000 + moment.second * 1000000 +
    moment.microsecond

/-- Two moments are the same when both know their distance from universal time and agree there, or
neither does and their clocks agree. -/
def Moment.same (left right : Moment) : Bool :=
  match left.distance, right.distance with
  | some near, some far => left.clock - near * 60000000 == right.clock - far * 60000000
  | none, none => left.clock == right.clock
  | _, _ => false

end CompletionServer.Calendar
