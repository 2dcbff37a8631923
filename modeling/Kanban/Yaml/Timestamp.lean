/-
Dates and moments in YAML: a day, and on it a time with an optional offset from
universal time.
-/
import Kanban.Text.Blank
import Kanban.Text.Digits

namespace Kanban

/-- A time of day, and its distance from universal time in minutes. -/
structure Clock where
  hour : Nat
  minute : Nat
  second : Nat
  offset : Option Int
deriving DecidableEq, Repr

/-- A day as it is written, with a time if one is given. -/
structure Timestamp where
  year : Nat
  month : Nat
  day : Nat
  clock : Option Clock
deriving DecidableEq, Repr

/-- Why a written moment is none. -/
inductive TimestampError where
  | year (number : Nat)
  | month
  | day
  | hour
  | minute
  | second
  | offset (minutes : Int)
deriving DecidableEq, Repr

/-- A distance in time, as whole days and the seconds beyond them. -/
def spanText (minutes : Int) : String :=
  let seconds := minutes % 1440 * 60
  "datetime.timedelta(days=" ++ toString (minutes / 1440) ++
    (if seconds = 0 then "" else ", seconds=" ++ toString seconds) ++ ")"

def TimestampError.message : TimestampError → String
  | .year number => "year " ++ toString number ++ " is out of range"
  | .month => "month must be in 1..12"
  | .day => "day is out of range for month"
  | .hour => "hour must be in 0..23"
  | .minute => "minute must be in 0..59"
  | .second => "second must be in 0..59"
  | .offset size =>
      "offset must be a timedelta strictly between -timedelta(hours=24) and " ++
        "timedelta(hours=24), not " ++ spanText size ++ "."

namespace Timestamp

/-- A number of at least `least` and at most `most` digits in front. -/
def digits (least most : Nat) (cs : List Char) : Option (Nat × List Char) :=
  let run := (cs.take most).takeWhile Digits.isDecimal
  if run.length < least then none else some (Digits.value run, cs.drop run.length)

/-- A character and a number behind it. -/
def marked (mark : Char) (least most : Nat) : List Char → Option (Nat × List Char)
  | c :: rest => if c = mark then digits least most rest else none
  | [] => none

def isGap (c : Char) : Bool :=
  c = ' ' || c = '\t'

/-- The offset that ends a moment: none, universal time, or hours and minutes
from it. -/
def offset? (cs : List Char) : Option (Option Int) :=
  match cs.dropWhile isGap with
  | [] => if cs.isEmpty then some none else none
  | ['Z'] => some (some 0)
  | sign :: rest =>
      if sign = '+' || sign = '-' then
        match digits 1 2 rest with
        | none => none
        | some (hours, rest) =>
            let minutes? := if rest.isEmpty then some (0, []) else marked ':' 2 2 rest
            match minutes? with
            | some (minutes, []) =>
                let size : Int := hours * 60 + minutes
                some (some (if sign = '-' then -size else size))
            | _ => none
      else none

/-- A fraction of a second says nothing. -/
def withoutFraction : List Char → List Char
  | '.' :: rest => rest.dropWhile Digits.isDecimal
  | cs => cs

def clock? (cs : List Char) : Option Clock := do
  let (hour, rest) ← digits 1 2 cs
  let (minute, rest) ← marked ':' 2 2 rest
  let (second, rest) ← marked ':' 2 2 rest
  let offset ← offset? (withoutFraction rest)
  return ⟨hour, minute, second, offset⟩

/-- What follows the mark between a day and its time. -/
def afterMark : List Char → Option (List Char)
  | c :: rest =>
      if c = 'T' || c = 't' then some rest
      else if isGap c then some (rest.dropWhile isGap)
      else none
  | [] => none

/-- A moment as it is written. -/
def ofText? (text : String) : Option Timestamp := do
  let (year, rest) ← digits 4 4 (withoutFinalBreak text.toList)
  let (month, rest) ← marked '-' 1 2 rest
  let (day, rest) ← marked '-' 1 2 rest
  if rest.isEmpty then return ⟨year, month, day, none⟩
  else return ⟨year, month, day, some (← clock? (← afterMark rest))⟩

/-- Whether a plain text is read as a moment.  A day by itself is written with
all its digits. -/
def isPlain (text : String) : Bool :=
  match ofText? text with
  | some moment => moment.clock.isSome || (withoutFinalBreak text.toList).length = 10
  | none => false

def isLeap (year : Nat) : Bool :=
  year % 4 = 0 && (year % 100 != 0 || year % 400 = 0)

/-- The days of the months. -/
def monthLengths (year : Nat) : List Nat :=
  [31, if isLeap year then 29 else 28, 31, 30, 31, 30, 31, 31, 30, 31, 30, 31]

/-- The number of a day, one for the first day of the first year. -/
def dayNumber (moment : Timestamp) : Nat :=
  let past := moment.year - 1
  past * 365 + past / 4 - past / 100 + past / 400 +
    ((monthLengths moment.year).take (moment.month - 1)).foldl (· + ·) moment.day

/-- Whether all parts lie in their ranges, the offset first. -/
def check (moment : Timestamp) : Except TimestampError Unit := do
  if let some minutes := moment.clock.bind Clock.offset then
    if 1440 ≤ minutes.natAbs then throw (.offset minutes)
  if moment.year = 0 then throw (.year moment.year)
  match (monthLengths moment.year)[moment.month - 1]? with
  | none => throw .month
  | some length =>
      if moment.month = 0 then throw .month
      if moment.day = 0 ∨ length < moment.day then throw .day
  if let some clock := moment.clock then
    if 24 ≤ clock.hour then throw .hour
    if 60 ≤ clock.minute then throw .minute
    if 60 ≤ clock.second then throw .second

/-- The number of a day or, of a moment with a time, of its second. -/
def number (moment : Timestamp) : Except TimestampError Nat := do
  moment.check
  match moment.clock with
  | none => return moment.dayNumber
  | some clock =>
      return ((moment.dayNumber * 24 + clock.hour) * 60 + clock.minute) * 60 + clock.second

end Timestamp

end Kanban
