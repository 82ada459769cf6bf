import Annotations.Text.Reader

/-!
Dates and times of day as written in TOML, and the one way in which each is shown again.
-/
namespace Annotations.Document.Toml
open Reader

structure Date where
  year : Nat
  month : Nat
  day : Nat
deriving DecidableEq, Repr

structure Time where
  hour : Nat
  minute : Nat
  second : Nat
  /-- Billionths of a second. -/
  fraction : Nat
deriving DecidableEq, Repr

/-- How far a time is from universal time. -/
inductive Offset where
  | universal
  | minutes (east : Int)
deriving DecidableEq, Repr

inductive Moment where
  | date (date : Date)
  | time (time : Time)
  | both (date : Date) (time : Time) (offset : Option Offset)
deriving DecidableEq, Repr

def isLeap (year : Nat) : Bool := year % 4 == 0 && (year % 100 != 0 || year % 400 == 0)

def daysInMonth (year : Nat) : Nat → Nat
  | 2 => if isLeap year then 29 else 28
  | 4 | 6 | 9 | 11 => 30
  | _ => 31

/-! ## Reading -/

/-- A number of so many digits that lies within bounds. -/
def bounded (digits low high : Nat) : Reader Nat := do
  let value := Text.number 10 (← count (Text.isDigit 10) digits)
  if low ≤ value ∧ value ≤ high then return value else failure

def date : Reader Date := do
  let year ← bounded 4 0 9999
  skip '-'
  let month ← bounded 2 1 12
  skip '-'
  return { year, month, day := ← bounded 2 1 (daysInMonth year month) }

/-- The part of a second after its point. Digits beyond the ninth do not count. -/
def secondFraction : Reader Nat := do
  skip '.'
  let digits ← span1 (Text.isDigit 10)
  return Text.number 10 ((digits ++ List.replicate 9 '0').take 9)

/-- A time of day; a leap second is one. -/
def time : Reader Time := do
  let hour ← bounded 2 0 23
  skip ':'
  let minute ← bounded 2 0 59
  skip ':'
  let second ← bounded 2 0 60
  return { hour, minute, second, fraction := (← maybe secondFraction).getD 0 }

def offset : Reader Offset := do
  match ← next with
  | 'Z' | 'z' => return .universal
  | '+' => return .minutes (← distance)
  | '-' => return .minutes (-(← distance))
  | _ => failure
where
  distance : Reader Int := do
    let hours ← bounded 2 0 23
    skip ':'
    return 60 * hours + (← bounded 2 0 59)

/-- The time after a date, with its offset. -/
def timeAfterDate : Reader (Time × Option Offset) := do
  let _ ← nextIf fun c => c == 'T' || c == 't' || c == ' '
  return (← time, ← maybe offset)

def moment : Reader Moment :=
  (do
    let date ← date
    match ← maybe timeAfterDate with
    | some (time, offset) => return .both date time offset
    | none => return .date date)
  <|> (.time <$> time)

/-! ## Showing -/

/-- A number with zeros in front of it up to a number of digits. -/
def padded (width value : Nat) : String :=
  let digits := Nat.toDigits 10 value
  String.ofList (List.replicate (width - digits.length) '0' ++ digits)

def Date.render (date : Date) : String :=
  padded 4 date.year ++ "-" ++ padded 2 date.month ++ "-" ++ padded 2 date.day

/-- The digits of a fraction without the zeros at its end. -/
def fractionDigits (fraction : Nat) : List Char :=
  ((padded 9 fraction).toList.reverse.dropWhile (· == '0')).reverse

def Time.render (time : Time) : String :=
  let whole := padded 2 time.hour ++ ":" ++ padded 2 time.minute ++ ":" ++ padded 2 time.second
  if time.fraction = 0 then whole else whole ++ "." ++ String.ofList (fractionDigits time.fraction)

def Offset.render : Offset → String
  | .universal => "Z"
  | .minutes east =>
    (if east < 0 then "-" else "+") ++ padded 2 (east.natAbs / 60) ++ ":" ++ padded 2 (east.natAbs % 60)

def Moment.render : Moment → String
  | .date d => d.render
  | .time t => t.render
  | .both d t offset => d.render ++ "T" ++ t.render ++ (offset.map Offset.render).getD ""

end Annotations.Document.Toml
