/-!
# Dates and times

Dates, times of day and points in time, as documents write them, with their two written forms: the
plain one, with a blank between date and time, and the one that names every part.
-/

namespace Taxonomy

/-- A day of the calendar. -/
structure Date where
  year : Nat
  month : Nat
  day : Nat
  deriving DecidableEq, Repr, Inhabited

/-- A time of day, to the microsecond. -/
structure Clock where
  hour : Nat
  minute : Nat
  second : Nat
  micro : Nat
  deriving DecidableEq, Repr, Inhabited

/-- **A date, a time of day, or both**, then perhaps with an offset in minutes. -/
inductive Moment where
  | date (d : Date)
  | time (c : Clock)
  | dateTime (d : Date) (c : Clock) (offset : Option Int)
  deriving DecidableEq, Repr, Inhabited

/-- A number filled with zeros to a width. -/
def padded (width n : Nat) : String :=
  let s := toString n
  String.ofList (List.replicate (width - s.length) '0') ++ s

namespace Date

/-- Year, month and day with hyphens. -/
def text (d : Date) : String := s!"{padded 4 d.year}-{padded 2 d.month}-{padded 2 d.day}"

/-- Is the year divisible by four, and if by a hundred then by four hundred? -/
def isLeapYear (year : Nat) : Bool := year % 4 == 0 && (year % 100 != 0 || year % 400 == 0)

/-- The number of days of a month. -/
def daysIn (year month : Nat) : Nat :=
  if month == 2 then if isLeapYear year then 29 else 28
  else if [4, 6, 9, 11].contains month then 30 else 31

/-- **A day that exists**, from the year one on. -/
def isValid (d : Date) : Bool :=
  1 ≤ d.year && d.year ≤ 9999 && 1 ≤ d.month && d.month ≤ 12 && 1 ≤ d.day &&
    d.day ≤ daysIn d.year d.month

end Date

namespace Clock

/-- Hours, minutes and seconds with colons, and the microseconds unless there are none. -/
def text (c : Clock) : String :=
  s!"{padded 2 c.hour}:{padded 2 c.minute}:{padded 2 c.second}" ++
    if c.micro == 0 then "" else "." ++ padded 6 c.micro

/-- The parts that the long form lists: seconds and microseconds only where they are needed. -/
def parts (c : Clock) : List Nat :=
  if c.micro != 0 then [c.hour, c.minute, c.second, c.micro]
  else if c.second != 0 then [c.hour, c.minute, c.second]
  else [c.hour, c.minute]

end Clock

namespace Moment

/-- An offset as sign, hours and minutes. -/
def offsetText (minutes : Int) : String :=
  let n := minutes.natAbs
  (if minutes < 0 then "-" else "+") ++ padded 2 (n / 60) ++ ":" ++ padded 2 (n % 60)

/-- **The plain written form.** -/
def text : Moment → String
  | .date d => d.text
  | .time c => c.text
  | .dateTime d c offset => d.text ++ " " ++ c.text ++ (offset.map offsetText).getD ""

/-- An offset in the long form; a negative one counts seconds from the day before. -/
def offsetShown (minutes : Int) : String :=
  if minutes == 0 then "datetime.timezone.utc"
  else if minutes < 0 then
    s!"datetime.timezone(datetime.timedelta(days=-1, seconds={86400 + minutes * 60}))"
  else s!"datetime.timezone(datetime.timedelta(seconds={minutes * 60}))"

/-- **The long written form**, which names every part. -/
def shown (m : Moment) : String :=
  let list (ns : List Nat) := ", ".intercalate (ns.map toString)
  match m with
  | .date d => "datetime.date(" ++ list [d.year, d.month, d.day] ++ ")"
  | .time c => "datetime.time(" ++ list c.parts ++ ")"
  | .dateTime d c offset =>
    let zone := match offset with
      | some x => ", tzinfo=" ++ offsetShown x
      | none => ""
    "datetime.datetime(" ++ list ([d.year, d.month, d.day] ++ c.parts) ++ zone ++ ")"

end Moment

end Taxonomy
