import AtomicEscrow.Number.Decimal

set_option autoImplicit false

/-! # Dates and times

Dates, times of day and moments, as configuration texts write them: `1979-05-27`, `07:32:00` and
`1979-05-27T07:32:00Z`. A date exists in the calendar, a time of day may be a leap second, and a
fraction of a second is cut to nine digits. Each has one text, which may differ from the one it
was read from.
-/

namespace AtomicEscrow

/-- A day of the calendar. -/
structure Date where
  year : Nat
  month : Nat
  day : Nat
deriving DecidableEq

/-- A time of day. -/
structure TimeOfDay where
  hour : Nat
  minute : Nat
  second : Nat
  /-- The digits of the fraction of a second, without zeros at the end. -/
  fraction : List Char
deriving DecidableEq

/-- How far a clock is ahead of the reference time. -/
inductive ClockOffset
  /-- It shows the reference time. -/
  | zero
  | ahead (minutes : Nat)
  | behind (minutes : Nat)
deriving DecidableEq

/-- A date, a time, or both with or without an offset. -/
structure Datetime where
  date : Option Date
  time : Option TimeOfDay
  offset : Option ClockOffset
deriving DecidableEq

/-! ## Text -/

/-- A number with zeros in front, so that it has at least `width` digits. -/
def paddedDigits (width n : Nat) : List Char :=
  let ds := decimalDigits n
  List.replicate (width - ds.length) '0' ++ ds

def Date.text (d : Date) : List Char :=
  paddedDigits 4 d.year ++ '-' :: paddedDigits 2 d.month ++ '-' :: paddedDigits 2 d.day

def TimeOfDay.text (t : TimeOfDay) : List Char :=
  paddedDigits 2 t.hour ++ ':' :: paddedDigits 2 t.minute ++ ':' :: paddedDigits 2 t.second ++
    if t.fraction.isEmpty then [] else '.' :: t.fraction

def minutesText (minutes : Nat) : List Char :=
  paddedDigits 2 (minutes / 60) ++ ':' :: paddedDigits 2 (minutes % 60)

def ClockOffset.text : ClockOffset → List Char
  | zero => ['Z']
  | ahead minutes => '+' :: minutesText minutes
  | behind 0 => '+' :: minutesText 0
  | behind minutes => '-' :: minutesText minutes

def Datetime.text (m : Datetime) : List Char :=
  let offset := (m.offset.map ClockOffset.text).getD []
  match m.date, m.time with
  | some d, some t => d.text ++ 'T' :: t.text ++ offset
  | some d, none => d.text ++ offset
  | none, some t => t.text ++ offset
  | none, none => offset

/-! ## Reading -/

def twoDigits : List Char → Option (Nat × List Char)
  | a :: b :: rest =>
      if isDigit a && isDigit b then some (10 * digitNumber a + digitNumber b, rest) else none
  | _ => none

def twoDigitsIn (least most : Nat) (cs : List Char) : Option (Nat × List Char) := do
  let (n, rest) ← twoDigits cs
  if least ≤ n && n ≤ most then some (n, rest) else none

def fourDigits (cs : List Char) : Option (Nat × List Char) := do
  let (high, rest) ← twoDigits cs
  let (low, rest) ← twoDigits rest
  return (100 * high + low, rest)

def afterChar (c : Char) : List Char → Option (List Char)
  | head :: rest => if head = c then some rest else none
  | [] => none

namespace Date

def isLeapYear (year : Nat) : Bool := year % 4 = 0 && (year % 100 ≠ 0 || year % 400 = 0)

def daysOfMonth (year month : Nat) : Nat :=
  if month = 2 then if isLeapYear year then 29 else 28
  else if month = 4 || month = 6 || month = 9 || month = 11 then 30
  else 31

def read (cs : List Char) : Option (Date × List Char) := do
  let (year, rest) ← fourDigits cs
  let rest ← afterChar '-' rest
  let (month, rest) ← twoDigitsIn 1 12 rest
  let rest ← afterChar '-' rest
  let (day, rest) ← twoDigitsIn 1 (daysOfMonth year month) rest
  return (⟨year, month, day⟩, rest)

end Date

namespace TimeOfDay

def fractionLimit : Nat := 9

/-- Digits without the zeros at their end. -/
def withoutLastZeros (ds : List Char) : List Char := (ds.reverse.dropWhile (· = '0')).reverse

/-- The fraction of a second, if there is one. -/
def readFraction : List Char → List Char × List Char
  | '.' :: rest =>
      match rest.takeWhile isDigit with
      | [] => ([], '.' :: rest)
      | ds => (withoutLastZeros (ds.take fractionLimit), rest.dropWhile isDigit)
  | cs => ([], cs)

def read (cs : List Char) : Option (TimeOfDay × List Char) := do
  let (hour, rest) ← twoDigitsIn 0 23 cs
  let rest ← afterChar ':' rest
  let (minute, rest) ← twoDigitsIn 0 59 rest
  let rest ← afterChar ':' rest
  let (second, rest) ← twoDigitsIn 0 60 rest
  let (fraction, rest) := readFraction rest
  return (⟨hour, minute, second, fraction⟩, rest)

/-- A time of day with the mark that stands between it and a date. -/
def readMarked : List Char → Option (TimeOfDay × List Char)
  | c :: rest => if c = 'T' || c = 't' || c = ' ' then read rest else none
  | [] => none

end TimeOfDay

namespace ClockOffset

/-- The minutes of an offset after its sign. -/
def readMinutes (cs : List Char) : Option (Nat × List Char) := do
  let (hours, rest) ← twoDigitsIn 0 23 cs
  let rest ← afterChar ':' rest
  let (minutes, rest) ← twoDigitsIn 0 59 rest
  return (60 * hours + minutes, rest)

def read : List Char → Option (ClockOffset × List Char)
  | 'Z' :: rest => some (zero, rest)
  | 'z' :: rest => some (zero, rest)
  | '+' :: rest => do
      let (minutes, rest) ← readMinutes rest
      return (ahead minutes, rest)
  | '-' :: rest => do
      let (minutes, rest) ← readMinutes rest
      return (behind minutes, rest)
  | _ => none

end ClockOffset

namespace Datetime

def read (cs : List Char) : Option (Datetime × List Char) :=
  match Date.read cs with
  | none => (TimeOfDay.read cs).map fun (t, rest) => (⟨none, some t, none⟩, rest)
  | some (d, rest) =>
      match TimeOfDay.readMarked rest with
      | none => some (⟨some d, none, none⟩, rest)
      | some (t, rest) =>
          match ClockOffset.read rest with
          | none => some (⟨some d, some t, none⟩, rest)
          | some (o, rest) => some (⟨some d, some t, some o⟩, rest)

/-- The date, the time or both that a text is. -/
def ofText? (s : String) : Option Datetime :=
  match read s.toList with
  | some (moment, []) => some moment
  | _ => none

end Datetime

end AtomicEscrow
