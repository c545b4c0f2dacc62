import Walkthrough.Text.Pieces
/-!
Days of the calendar, times of a day, and both together. A moment has a text, and a form that names
its parts.
-/

namespace Walkthrough

structure Day where
  year : Nat
  month : Nat
  day : Nat
deriving DecidableEq, Repr

structure Clock where
  hour : Nat
  minute : Nat
  second : Nat
  microsecond : Nat
deriving DecidableEq, Repr

/-- A day, a time of any day, or a time of one day, which may tell how many minutes its clock is
ahead of the universal one. -/
inductive Moment where
  | date (day : Day)
  | time (clock : Clock)
  | both (day : Day) (clock : Clock) (ahead : Option Int)
deriving DecidableEq, Repr

namespace Day

def isLeap (year : Nat) : Bool :=
  year % 4 = 0 && (year % 100 != 0 || year % 400 = 0)

def length (year month : Nat) : Nat :=
  if month = 2 then (if isLeap year then 29 else 28)
  else if [4, 6, 9, 11].contains month then 30
  else 31

/-- The calendar starts with the year one. -/
def isReal (day : Day) : Bool :=
  0 < day.year && 0 < day.month && day.month ≤ 12 && 0 < day.day
    && day.day ≤ length day.year day.month

end Day

namespace Moment

def padded (width number : Nat) : String :=
  let digits := toString number
  String.ofList (List.replicate (width - digits.length) '0') ++ digits

def dayText (day : Day) : String :=
  s!"{padded 4 day.year}-{padded 2 day.month}-{padded 2 day.day}"

def clockText (clock : Clock) : String :=
  s!"{padded 2 clock.hour}:{padded 2 clock.minute}:{padded 2 clock.second}" ++
    if clock.microsecond = 0 then "" else "." ++ padded 6 clock.microsecond

def aheadText (minutes : Int) : String :=
  let size := minutes.natAbs
  (if minutes < 0 then "-" else "+") ++ s!"{padded 2 (size / 60)}:{padded 2 (size % 60)}"

def text : Moment → String
  | date day => dayText day
  | time clock => clockText clock
  | both day clock ahead =>
      dayText day ++ " " ++ clockText clock ++ ((ahead.map aheadText).getD "")

def kindName : Moment → String
  | date _ => "datetime.date"
  | time _ => "datetime.time"
  | both .. => "datetime.datetime"

def shortKindName : Moment → String
  | date _ => "date"
  | time _ => "time"
  | both .. => "datetime"

/-! The parts, where seconds are named only if there are any, or microseconds. -/

def dayParts (day : Day) : List Nat :=
  [day.year, day.month, day.day]

def clockParts (clock : Clock) : List Nat :=
  [clock.hour, clock.minute] ++
    if clock.microsecond != 0 then [clock.second, clock.microsecond]
    else if clock.second != 0 then [clock.second]
    else []

/-- A difference of minutes as days, of which there may be less than none, and seconds. -/
def aheadForm (minutes : Int) : String :=
  if minutes = 0 then "datetime.timezone.utc"
  else
    let days := Int.fdiv minutes 1440
    let seconds := Int.fmod minutes 1440 * 60
    let parts := (if days = 0 then [] else [s!"days={days}"])
      ++ if seconds = 0 then [] else [s!"seconds={seconds}"]
    "datetime.timezone(datetime.timedelta(" ++ ", ".intercalate parts ++ "))"

def form (moment : Moment) : String :=
  let parts := match moment with
    | date day => (dayParts day).map toString
    | time clock => (clockParts clock).map toString
    | both day clock ahead =>
        (dayParts day ++ clockParts clock).map toString
          ++ (ahead.map fun minutes => "tzinfo=" ++ aheadForm minutes).toList
  moment.kindName ++ "(" ++ ", ".intercalate parts ++ ")"

end Moment

end Walkthrough
