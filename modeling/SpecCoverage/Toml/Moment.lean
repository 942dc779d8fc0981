-- SUMMARY: The dates and times of TOML: how they are written and read.
import SpecCoverage.Text.Ascii

/-!
# Dates and times

A moment is a date, a time of day, or both, and then it may say how far it is ahead of universal
time. Reading takes each field with its exact number of digits and in its range; writing gives every
moment one text, with the seconds always there and the fraction as short as it can be.
-/
namespace SpecCoverage.Toml

open Text

structure Date where
  year : Nat
  month : Nat
  day : Nat
  deriving DecidableEq

/-- A time of day. The second 60 is a leap second. -/
structure Clock where
  hour : Nat
  minute : Nat
  second : Nat
  nanosecond : Nat
  deriving DecidableEq

/-- Where a time of day is meant. -/
inductive Zone where
  | universal
  /-- So many minutes ahead of universal time. -/
  | ahead (minutes : Int)
  deriving DecidableEq

inductive Moment where
  | date (d : Date)
  | clock (c : Clock)
  | dateClock (d : Date) (c : Clock)
  | zoned (d : Date) (c : Clock) (z : Zone)
  deriving DecidableEq

-- ---------------------------------------------------------------------------
-- Reading
-- ---------------------------------------------------------------------------

/-- The value of the first `n` characters, if they are digits, and what follows them. -/
def number? (n : Nat) (s : List Char) : Option (Nat × List Char) :=
  let digits := s.take n
  if digits.length = n && digits.all isAsciiDigit then some (decimalValue digits, s.drop n)
  else none

/-- What follows the character `c`. -/
def after? (c : Char) : List Char → Option (List Char)
  | [] => none
  | x :: s => if x = c then some s else none

def isLeapYear (year : Nat) : Bool :=
  year % 4 = 0 && year % 100 ≠ 0 || year % 400 = 0

def daysIn (year : Nat) : Nat → Nat
  | 2 => if isLeapYear year then 29 else 28
  | 4 | 6 | 9 | 11 => 30
  | _ => 31

def Date.isValid (d : Date) : Bool :=
  1 ≤ d.month && d.month ≤ 12 && 1 ≤ d.day && d.day ≤ daysIn d.year d.month

def Date.read? (s : List Char) : Option (Date × List Char) := do
  let (year, s) ← number? 4 s
  let (month, s) ← number? 2 (← after? '-' s)
  let (day, s) ← number? 2 (← after? '-' s)
  let d : Date := ⟨year, month, day⟩
  if d.isValid then some (d, s) else none

/-- A fraction of a second in nanoseconds; digits beyond those are dropped. -/
def nanoseconds (digits : List Char) : Nat :=
  decimalValue ((digits ++ List.replicate 9 '0').take 9)

/-- The fraction of a second, if there is one. -/
def fraction? : List Char → Option (Nat × List Char)
  | '.' :: s =>
    match s.takeWhile isAsciiDigit with
    | [] => none
    | digits => some (nanoseconds digits, s.dropWhile isAsciiDigit)
  | s => some (0, s)

/-- The seconds, if they are there, and their fraction. -/
def seconds? : List Char → Option (Nat × Nat × List Char)
  | ':' :: s => do
    let (second, s) ← number? 2 s
    let (nanosecond, s) ← fraction? s
    return (second, nanosecond, s)
  | s => some (0, 0, s)

def Clock.isValid (c : Clock) : Bool :=
  c.hour ≤ 23 && c.minute ≤ 59 && c.second ≤ 60

def Clock.read? (s : List Char) : Option (Clock × List Char) := do
  let (hour, s) ← number? 2 s
  let (minute, s) ← number? 2 (← after? ':' s)
  let (second, nanosecond, s) ← seconds? s
  let c : Clock := ⟨hour, minute, second, nanosecond⟩
  if c.isValid then some (c, s) else none

/-- The distance to universal time in minutes. -/
def distance? (s : List Char) : Option Nat := do
  let (hours, s) ← number? 2 s
  let (minutes, s) ← number? 2 (← after? ':' s)
  if hours ≤ 23 && minutes ≤ 59 && s.isEmpty then some (hours * 60 + minutes) else none

def Zone.read? : List Char → Option Zone
  | ['Z'] | ['z'] => some .universal
  | '+' :: s => (distance? s).map fun n => .ahead n
  | '-' :: s => (distance? s).map fun n => .ahead (-n)
  | _ => none

/-- The characters between a date and a time of day. -/
def isClockMark (c : Char) : Bool :=
  c == 'T' || c == 't' || c == ' '

namespace Moment

/-- Read a text that is a moment and nothing else. -/
def read? (s : List Char) : Option Moment :=
  match Date.read? s with
  | some (d, []) => some (.date d)
  | some (d, mark :: s) =>
    if !isClockMark mark then none
    else
      match Clock.read? s with
      | none => none
      | some (c, []) => some (.dateClock d c)
      | some (c, zone) => (Zone.read? zone).map (.zoned d c)
  | none =>
    match Clock.read? s with
    | some (c, []) => some (.clock c)
    | _ => none

end Moment

-- ---------------------------------------------------------------------------
-- Writing
-- ---------------------------------------------------------------------------

/-- A number with zeros in front up to a width. -/
def padded (width n : Nat) : List Char :=
  let digits := Nat.toDigits 10 n
  List.replicate (width - digits.length) '0' ++ digits

def Date.text (d : Date) : List Char :=
  padded 4 d.year ++ '-' :: padded 2 d.month ++ '-' :: padded 2 d.day

/-- The fraction without the zeros at its end, and without the point where it is nothing. -/
def fractionText (nanosecond : Nat) : List Char :=
  if nanosecond = 0 then []
  else '.' :: ((padded 9 nanosecond).reverse.dropWhile (· == '0')).reverse

def Clock.text (c : Clock) : List Char :=
  padded 2 c.hour ++ ':' :: padded 2 c.minute ++ ':' :: padded 2 c.second ++
    fractionText c.nanosecond

def Zone.text : Zone → List Char
  | .universal => ['Z']
  | .ahead minutes =>
    (if minutes < 0 then '-' else '+') ::
      padded 2 (minutes.natAbs / 60) ++ ':' :: padded 2 (minutes.natAbs % 60)

def Moment.text (m : Moment) : String :=
  String.ofList <|
    match m with
    | .date d => d.text
    | .clock c => c.text
    | .dateClock d c => d.text ++ 'T' :: c.text
    | .zoned d c z => d.text ++ 'T' :: c.text ++ z.text

end SpecCoverage.Toml
