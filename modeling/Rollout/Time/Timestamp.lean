import Rollout.Text.Blank
import Rollout.Text.Decimal
import Rollout.Time.Calendar

/-!
# Timestamps

A timestamp is a moment in UTC with nanoseconds. It is read from the RFC 3339 form in a lenient
reading: a space may stand for the `T`, blanks may stand between the parts, the fields may have
fewer digits, and the offset may be `Z`, `UTC` or hours and minutes. A second of 60 is a leap second
and stays one. It is written in UTC with as many groups of three digits after the point as it needs.
-/

namespace Rollout.Time

/-- A moment: the day, the second of the day, and nanoseconds, a leap second counting into the
nanoseconds of the second before it. -/
structure Timestamp where
  day : Int
  second : Nat
  nano : Nat
  deriving DecidableEq, Repr

namespace Timestamp

open Text (trimStart isDigit digitsValue)

def number? (most : Nat) (cs : List Char) : Option (Nat × List Char) :=
  let digits := (cs.takeWhile isDigit).take most
  if digits.isEmpty then none else some (digitsValue digits, cs.drop digits.length)

/-- A field of at most `most` digits after blanks. -/
def field? (most : Nat) (cs : List Char) : Option (Nat × List Char) := number? most (trimStart cs)

/-- The year: four digits at most, or a sign and any number of digits. -/
def year? (cs : List Char) : Option (Int × List Char) :=
  match trimStart cs with
  | '-' :: cs => (number? cs.length cs).map fun r => (-(r.1 : Int), r.2)
  | '+' :: cs => (number? cs.length cs).map fun r => ((r.1 : Int), r.2)
  | cs => (number? 4 cs).map fun r => ((r.1 : Int), r.2)

/-- What follows a character that has to be there. -/
def expect? (c : Char) : List Char → Option (List Char)
  | [] => none
  | d :: cs => if d = c then some cs else none

/-- Nanoseconds after a point, if there is one; digits after the ninth do not count. -/
def fraction? : List Char → Option (Nat × List Char)
  | '.' :: cs => do
      let (value, rest) ← number? 9 cs
      let count := cs.length - rest.length
      some (value * Text.tenTo (9 - count), rest.dropWhile isDigit)
  | cs => some (0, cs)

/-- Whether a text begins with `UTC` in any case. -/
def isUtc (cs : List Char) : Bool := (cs.take 3).map Char.toUpper = ['U', 'T', 'C']

def twoDigits? : List Char → Option (Nat × List Char)
  | a :: b :: cs => if isDigit a && isDigit b then some (digitsValue [a, b], cs) else none
  | _ => none

/-- Hours and minutes of an offset, in seconds. -/
def clock? (cs : List Char) : Option (Nat × List Char) := do
  let (hours, cs) ← twoDigits? cs
  let (minutes, cs) ← twoDigits? (cs.dropWhile fun c => c = ':' || Text.isBlank c)
  if minutes < 60 then some (hours * 3600 + minutes * 60, cs) else none

def offset? (cs : List Char) : Option (Int × List Char) :=
  if isUtc cs then some (0, cs.drop 3)
  else
    match cs with
    | 'Z' :: cs => some (0, cs)
    | 'z' :: cs => some (0, cs)
    | '+' :: cs => (clock? cs).map fun r => ((r.1 : Int), r.2)
    | '-' :: cs => (clock? cs).map fun r => (-(r.1 : Int), r.2)
    | '−' :: cs => (clock? cs).map fun r => (-(r.1 : Int), r.2)
    | _ => none

/-- The first and the last year that a date may have. -/
def yearBounds : Int × Int := (-262143, 262142)

def isDate (d : Date) : Bool := yearBounds.1 ≤ d.year && d.year ≤ yearBounds.2 && d.isValid

def ofLocal? (date : Date) (hour minute second nano : Nat) (offset : Int) : Option Timestamp :=
  if isDate date && hour < 24 && minute < 60 && second ≤ 60 && -86400 < offset &&
      offset < 86400 then
    let (second, nano) := if second = 60 then (59, nano + 1000000000) else (second, nano)
    let moment := date.dayNumber * 86400 + (hour * 3600 + minute * 60 + second : Nat) - offset
    let day := moment / 86400
    if isDate (Date.ofDayNumber day) then some ⟨day, (moment % 86400).toNat, nano⟩ else none
  else none

def read (s : String) : Option Timestamp := do
  let (year, cs) ← year? s.toList
  let cs ← expect? '-' (trimStart cs)
  let (month, cs) ← field? 2 cs
  let cs ← expect? '-' (trimStart cs)
  let (day, cs) ← field? 2 cs
  let cs ← match cs with
    | 'T' :: cs => some cs
    | 't' :: cs => some cs
    | ' ' :: cs => some cs
    | _ => none
  let (hour, cs) ← field? 2 cs
  let cs ← expect? ':' (trimStart cs)
  let (minute, cs) ← field? 2 cs
  let cs ← expect? ':' (trimStart cs)
  let (second, cs) ← field? 2 cs
  let (nano, cs) ← fraction? cs
  let (offset, cs) ← offset? (trimStart cs)
  if (trimStart cs).isEmpty then ofLocal? ⟨year, month, day⟩ hour minute second nano offset
  else none

def padded (width n : Nat) : String :=
  let digits := Nat.repr n
  String.ofList (List.replicate (width - digits.length) '0') ++ digits

def yearText (year : Int) : String :=
  if 0 ≤ year ∧ year ≤ 9999 then padded 4 year.toNat
  else (if year < 0 then "-" else "+") ++ padded 4 year.natAbs

/-- The text of the nanoseconds, with the point. -/
def fractionText (nano : Nat) : String :=
  if nano = 0 then ""
  else if nano % 1000000 = 0 then "." ++ padded 3 (nano / 1000000)
  else if nano % 1000 = 0 then "." ++ padded 6 (nano / 1000)
  else "." ++ padded 9 nano

def render (t : Timestamp) : String :=
  let date := Date.ofDayNumber t.day
  let leap := t.nano / 1000000000
  yearText date.year ++ "-" ++ padded 2 date.month ++ "-" ++ padded 2 date.day ++ "T" ++
    padded 2 (t.second / 3600) ++ ":" ++ padded 2 (t.second / 60 % 60) ++ ":" ++
    padded 2 (t.second % 60 + leap) ++ fractionText (t.nano % 1000000000) ++ "Z"

end Timestamp

end Rollout.Time
