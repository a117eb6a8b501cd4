import WarningSweep.Number

/-!
# Dates and times of day

A date of the Gregorian calendar, alone or with a time of day to the microsecond and an offset from
universal time in minutes.
-/

namespace WarningSweep

structure Date where
  year : Nat
  month : Nat
  day : Nat
  deriving DecidableEq, Repr, Inhabited

structure Clock where
  hour : Nat
  minute : Nat
  second : Nat
  microsecond : Nat
  /-- Minutes ahead of universal time, when the time is tied to it. -/
  offset : Option Int
  deriving DecidableEq, Repr, Inhabited

structure Moment where
  date : Date
  clock : Option Clock
  deriving DecidableEq, Repr, Inhabited

inductive MomentFault where
  | year (n : Nat)
  | month
  | day
  | hour
  | minute
  | second
  | offset (minutes : Int)
  deriving DecidableEq, Repr

namespace Date

def isLeap (year : Nat) : Bool := year % 4 = 0 && (year % 100 ≠ 0 || year % 400 = 0)

def daysIn (year month : Nat) : Nat :=
  if month = 2 then (if isLeap year then 29 else 28)
  else if [4, 6, 9, 11].contains month then 30
  else 31

def check (d : Date) : Except MomentFault Unit :=
  if d.year = 0 then .error (.year d.year)
  else if d.month = 0 ∨ 12 < d.month then .error .month
  else if d.day = 0 ∨ daysIn d.year d.month < d.day then .error .day
  else .ok ()

def text (d : Date) : String :=
  let two (n : Nat) : String := DecimalFormat.pad 2 (toString n)
  DecimalFormat.pad 4 (toString d.year) ++ "-" ++ two d.month ++ "-" ++ two d.day

def ordinal (d : Date) : Nat :=
  let before := d.year - 1
  let months := (List.range (d.month - 1)).foldl (fun days m => days + daysIn d.year (m + 1)) 0
  before * 365 + before / 4 - before / 100 + before / 400 + months + (d.day - 1)

end Date

namespace Clock

def check (c : Clock) : Except MomentFault Unit :=
  if 23 < c.hour then .error .hour
  else if 59 < c.minute then .error .minute
  else if 59 < c.second then .error .second
  else .ok ()

def text (c : Clock) : String :=
  let two (n : Nat) : String := DecimalFormat.pad 2 (toString n)
  let fraction :=
    if c.microsecond = 0 then "" else "." ++ DecimalFormat.pad 6 (toString c.microsecond)
  let offset := match c.offset with
    | none => ""
    | some minutes =>
      (if minutes < 0 then "-" else "+") ++ two (minutes.natAbs / 60) ++ ":"
        ++ two (minutes.natAbs % 60)
  two c.hour ++ ":" ++ two c.minute ++ ":" ++ two c.second ++ fraction ++ offset

def microseconds (c : Clock) : Nat :=
  ((c.hour * 60 + c.minute) * 60 + c.second) * 1000000 + c.microsecond

end Clock

namespace Moment

def text (m : Moment) : String :=
  match m.clock with
  | none => m.date.text
  | some clock => m.date.text ++ " " ++ clock.text

/-- The time in microseconds of universal time, for a clock with an offset. -/
def instant (date : Date) (clock : Clock) (offset : Int) : Int :=
  ((date.ordinal * 86400000000 + clock.microseconds : Nat) : Int) - offset * 60000000

/-- Two moments are the same when they are the same date, the same time without offsets, or the same
instant with offsets. -/
def same (a b : Moment) : Bool :=
  match a.clock, b.clock with
  | none, none => a.date = b.date
  | some c, some d =>
    match c.offset, d.offset with
    | none, none => a = b
    | some p, some q => instant a.date c p = instant b.date d q
    | _, _ => false
  | _, _ => false

def shown (m : Moment) : String :=
  let numbers (ns : List Nat) : String := ", ".intercalate (ns.map toString)
  let day := [m.date.year, m.date.month, m.date.day]
  match m.clock with
  | none => s!"datetime.date({numbers day})"
  | some c =>
    let tail :=
      if c.microsecond ≠ 0 then [c.second, c.microsecond]
      else if c.second ≠ 0 then [c.second]
      else []
    let offset := match c.offset with
      | none => ""
      | some 0 => ", tzinfo=datetime.timezone.utc"
      | some minutes =>
        let seconds := minutes.natAbs * 60
        let span :=
          if 0 < minutes then s!"seconds={seconds}" else s!"days=-1, seconds={86400 - seconds}"
        s!", tzinfo=datetime.timezone(datetime.timedelta({span}))"
    s!"datetime.datetime({numbers (day ++ [c.hour, c.minute] ++ tail)}{offset})"

end Moment

def MomentFault.message : MomentFault → String
  | .year n => s!"year {n} is out of range"
  | .month => "month must be in 1..12"
  | .day => "day is out of range for month"
  | .hour => "hour must be in 0..23"
  | .minute => "minute must be in 0..59"
  | .second => "second must be in 0..59"
  | .offset minutes =>
    let days := Int.fdiv minutes 1440
    let seconds := Int.fmod minutes 1440 * 60
    let span := if seconds = 0 then s!"days={days}" else s!"days={days}, seconds={seconds}"
    "offset must be a timedelta strictly between -timedelta(hours=24) and timedelta(hours=24), not "
      ++ s!"datetime.timedelta({span})."

end WarningSweep
