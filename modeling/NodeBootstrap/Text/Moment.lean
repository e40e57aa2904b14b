import NodeBootstrap.Text.Cut
import NodeBootstrap.Text.Decimal

/-!
# Dates and times

A date is `2006-01-02`, a time `15:04:05` with any parts of a second after a point, and a zone `Z`
or a difference such as `+01:00`.

* `Moment.date`, `Moment.time`, `Moment.zone`: the text that follows each;
* `Moment.isInstant`: a text that is a date, a time and a zone.
-/

namespace NodeBootstrap.Moment

/-- Exactly `n` digits whose number lies between `lo` and `hi`. -/
def fixedDigits (n lo hi : Nat) (cs : List Char) : Option (Nat × List Char) :=
  let ds := cs.take n
  let value := Decimal.value ds
  if ds.length = n ∧ ds.all Decimal.isDigit ∧ lo ≤ value ∧ value ≤ hi then some (value, cs.drop n)
  else none

/-- Whether a year has a day more. -/
def isLeapYear (year : Nat) : Bool := year % 4 = 0 && (year % 100 ≠ 0 || year % 400 = 0)

/-- The number of days of a month. -/
def daysOf (year month : Nat) : Nat :=
  if month = 2 then (if isLeapYear year then 29 else 28)
  else if [4, 6, 9, 11].contains month then 30
  else 31

/-- The text after a date. -/
def date (cs : List Char) : Option (List Char) := do
  let (year, cs) ← fixedDigits 4 0 9999 cs
  let cs ← Chars.after? ['-'] cs
  let (month, cs) ← fixedDigits 2 1 12 cs
  let cs ← Chars.after? ['-'] cs
  let (_, cs) ← fixedDigits 2 1 (daysOf year month) cs
  return cs

/-- The text after the parts of a second. -/
def skipSecondParts : List Char → List Char
  | '.' :: c :: cs => if Decimal.isDigit c then cs.dropWhile Decimal.isDigit else '.' :: c :: cs
  | cs => cs

/-- The text after a time of the day. -/
def time (cs : List Char) : Option (List Char) := do
  let (_, cs) ← fixedDigits 2 0 23 cs
  let cs ← Chars.after? [':'] cs
  let (_, cs) ← fixedDigits 2 0 59 cs
  let cs ← Chars.after? [':'] cs
  let (_, cs) ← fixedDigits 2 0 60 cs
  return skipSecondParts cs

/-- The text after the hours and minutes by which a zone differs. -/
def difference (cs : List Char) : Option (List Char) := do
  let (_, cs) ← fixedDigits 2 0 23 cs
  let cs ← Chars.after? [':'] cs
  let (_, cs) ← fixedDigits 2 0 59 cs
  return cs

/-- The text after a zone. -/
def zone : List Char → Option (List Char)
  | c :: cs =>
    if c = 'Z' ∨ c = 'z' then some cs
    else if c = '+' ∨ c = '-' then difference cs
    else none
  | [] => none

/-- What may stand between a date and a time. -/
def isSeparator (c : Char) : Bool := c == 'T' || c == 't' || c == ' '

/-- A text that is a date, a time and a zone. -/
def isInstant (cs : List Char) : Bool :=
  match date cs with
  | some (c :: r) => isSeparator c && ((time r).bind zone) == some []
  | _ => false

end NodeBootstrap.Moment
