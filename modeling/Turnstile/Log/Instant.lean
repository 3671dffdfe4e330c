import Turnstile.Shape
import Turnstile.Text.Basic
/-!
# Instants

Points in time to the nanosecond, printed in universal time. They are read as a date, a time and an
offset, with some freedom: numbers need no leading zeros, and blanks may stand before a number or a
separator and around the offset.
-/
namespace Turnstile.Log

open Text

/-- A day of the Gregorian calendar, which is taken to hold at all times. -/
structure Date where
  year : Int
  month : Nat
  day : Nat
deriving DecidableEq, Repr

namespace Date

/-- Whether a year has 366 days. -/
def isLeap (year : Int) : Bool := year % 4 = 0 && (year % 100 ≠ 0 || year % 400 = 0)

/-- How many days a month has. -/
def daysIn (year : Int) (month : Nat) : Nat :=
  if month = 2 then (if isLeap year then 29 else 28)
  else if month ∈ [4, 6, 9, 11] then 30
  else 31

/-- Whether there is such a day, and it is not out of range. -/
def isValid (d : Date) : Bool :=
  -262143 ≤ d.year && d.year ≤ 262142 && 1 ≤ d.month && d.month ≤ 12 && 1 ≤ d.day &&
    d.day ≤ daysIn d.year d.month

/-- The day after. -/
def next (d : Date) : Date :=
  if d.day < daysIn d.year d.month then { d with day := d.day + 1 }
  else if d.month < 12 then ⟨d.year, d.month + 1, 1⟩
  else ⟨d.year + 1, 1, 1⟩

/-- The day before. -/
def previous (d : Date) : Date :=
  if 1 < d.day then { d with day := d.day - 1 }
  else if 1 < d.month then ⟨d.year, d.month - 1, daysIn d.year (d.month - 1)⟩
  else ⟨d.year - 1, 12, 31⟩

end Date

/-- A point in time, in universal time. -/
structure Instant where
  date : Date
  /-- The minute of the day, from 0 to 1439. -/
  minute : Nat
  /-- The second of the minute; 60 is a leap second. -/
  second : Nat
  nanosecond : Nat
deriving DecidableEq, Repr

namespace Instant

/-- The start of the year 1970. -/
def epoch : Instant := ⟨⟨1970, 1, 1⟩, 0, 0, 0⟩

instance : Inhabited Instant := ⟨epoch⟩

/-! ## Printing -/

/-- A number with at least `width` digits. -/
def padded (width n : Nat) : List Char :=
  let digits := Nat.toDigits 10 n
  List.replicate (width - digits.length) '0' ++ digits

/-- A year of four digits; one that does not fit has its sign and at least four digits. -/
def yearChars (year : Int) : List Char :=
  if 0 ≤ year && year ≤ 9999 then padded 4 year.natAbs
  else (if year < 0 then '-' else '+') :: padded 4 year.natAbs

/-- A fraction of a second, in thousandths, millionths or billionths. -/
def fractionChars (nanosecond : Nat) : List Char :=
  if nanosecond = 0 then []
  else if nanosecond % 1000000 = 0 then '.' :: padded 3 (nanosecond / 1000000)
  else if nanosecond % 1000 = 0 then '.' :: padded 6 (nanosecond / 1000)
  else '.' :: padded 9 nanosecond

def text (t : Instant) : String :=
  String.ofList (yearChars t.date.year ++ '-' :: padded 2 t.date.month ++ '-' ::
    padded 2 t.date.day ++ 'T' :: padded 2 (t.minute / 60) ++ ':' :: padded 2 (t.minute % 60) ++
    ':' :: padded 2 t.second ++ fractionChars t.nanosecond ++ ['Z'])

/-! ## Reading -/

/-- The number of a list of digits. -/
def numberOf (digits : List Char) : Nat :=
  digits.foldl (fun n c => n * 10 + (c.toNat - '0'.toNat)) 0

/-- A number of at least one and at most `width` digits, and what follows it. -/
def number? (width : Nat) (cs : List Char) : Option (Nat × List Char) :=
  let digits := (cs.takeWhile Char.isDigit).take width
  if digits.isEmpty then none else some (numberOf digits, cs.drop digits.length)

/-- What follows the blanks. -/
def skipBlanks (cs : List Char) : List Char := cs.dropWhile isBlank

/-- What follows a character. -/
def expect? (c : Char) : List Char → Option (List Char)
  | [] => none
  | d :: rest => if d = c then some rest else none

/-- A year: up to four digits, or a sign and any number of them. -/
def year? (cs : List Char) : Option (Int × List Char) :=
  match skipBlanks cs with
  | '-' :: rest => (number? rest.length rest).map fun (n, rest) => (-(n : Int), rest)
  | '+' :: rest => (number? rest.length rest).map fun (n, rest) => ((n : Int), rest)
  | rest => (number? 4 rest).map fun (n, rest) => ((n : Int), rest)

/-- A number of one or two digits. -/
def pair? (cs : List Char) : Option (Nat × List Char) := number? 2 (skipBlanks cs)

/-- A fraction of a second, in nanoseconds; digits beyond the ninth are dropped. -/
def fraction? : List Char → Option (Nat × List Char)
  | '.' :: rest => do
    let digits := rest.takeWhile Char.isDigit
    if digits.isEmpty then none
    else some (numberOf ((digits ++ List.replicate 9 '0').take 9), rest.drop digits.length)
  | rest => some (0, rest)

/-- The minutes that an offset is ahead of universal time. -/
def offset? (cs : List Char) : Option (Int × List Char) :=
  if (cs.take 3).map Char.toLower = ['u', 't', 'c'] then some (0, cs.drop 3)
  else
    match cs with
    | [] => none
    | sign :: rest =>
      if sign = 'Z' || sign = 'z' then some (0, rest)
      else if sign = '+' || sign = '-' || sign = '\u2212' then do
        let h₁ :: h₂ :: rest := rest | none
        let m₁ :: m₂ :: rest := rest.dropWhile (fun c => c = ':' || isBlank c) | none
        if h₁.isDigit && h₂.isDigit && m₁.isDigit && m₂.isDigit && m₁ ≤ '5' then
          let minutes : Int := numberOf [h₁, h₂] * 60 + numberOf [m₁, m₂]
          some (if sign = '+' then minutes else -minutes, rest)
        else none
      else none

/-- The instant of a local time and its offset. -/
def ofLocal? (date : Date) (minute : Nat) (second nanosecond : Nat) (offset : Int) :
    Option Instant :=
  let shifted := (minute : Int) - offset
  let date' := if shifted < 0 then date.previous else if 1440 ≤ shifted then date.next else date
  if date.isValid && minute < 1440 && second ≤ 60 && -1440 < offset && offset < 1440 &&
      date'.isValid then
    some ⟨date', (shifted % 1440).toNat, second, nanosecond⟩
  else none

/-- Reads an instant. -/
def parse? (s : String) : Option Instant := do
  let (year, cs) ← year? s.toList
  let (month, cs) ← pair? (← expect? '-' (skipBlanks cs))
  let (day, cs) ← pair? (← expect? '-' (skipBlanks cs))
  let separator :: cs := cs | none
  if separator ∉ ['T', 't', ' '] then none
  let (hour, cs) ← pair? cs
  let (minute, cs) ← pair? (← expect? ':' (skipBlanks cs))
  let (second, cs) ← pair? (← expect? ':' (skipBlanks cs))
  let (nanosecond, cs) ← fraction? cs
  let (offset, cs) ← offset? (skipBlanks cs)
  if !(skipBlanks cs).isEmpty || 60 ≤ minute || 24 ≤ hour then none
  else ofLocal? ⟨year, month, day⟩ (hour * 60 + minute) second nanosecond offset

def shape : Shape Instant := fun t => do
  match parse? (← Shape.text "an RFC 3339 formatted date and time string" t) with
  | some i => .ok i
  | none => .error .badNotation

end Instant
end Turnstile.Log
