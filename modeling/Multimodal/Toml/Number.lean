import Multimodal.Toml.Scan
import Multimodal.Toml.Table

/-! # Numbers, dates and times in settings

* `Scan.integer`, `Scan.float`: numbers; single underscores may stand between digits.
* `Scan.moment`: a date, a time of day, or both, perhaps with an offset.
-/

namespace Multimodal

namespace Scan

/-! ## Numbers -/

/-- Digits, perhaps with single underscores between them. -/
def digits (isDigit : Char → Bool) : Scan (List Char) := do
  let first ← one isDigit
  let rest ← many (one isDigit <|> (do char '_'; one isDigit))
  return first :: rest

/-- A sign, if there is one: whether it is negative. -/
def sign : Scan Bool :=
  (do char '-'; return true) <|> (do char '+'; return false) <|> pure false

/-- Decimal digits that start with a zero only if it is the whole number. -/
def wholeDigits : Scan (List Char) := do
  let ds ← digits Char.isDigit
  if ds.head? = some '0' ∧ ds ≠ ['0'] then failure else return ds

/-- The number that some digits of a base stand for. -/
def valueOf (base : Nat) (ds : List Char) : Nat :=
  ds.foldl (fun n c => base * n + (hexDigit? c).getD 0) 0

/-- A natural number in another base, behind the mark of that base. -/
def basedInteger (mark : Char) (base : Nat) : Scan Int := do
  word ['0', mark]
  let ds ← digits fun c => (hexDigit? c).any (· < base)
  return valueOf base ds

/-- A decimal integer. -/
def decimalInteger : Scan Int := do
  let negative ← sign
  let n := valueOf 10 (← wholeDigits)
  return if negative then -n else n

/-- An integer of 64 bits. -/
def integer : Scan Int := do
  let n ← basedInteger 'x' 16 <|> basedInteger 'o' 8 <|> basedInteger 'b' 2 <|> decimalInteger
  if Int64.minValue.toInt ≤ n ∧ n ≤ Int64.maxValue.toInt then return n else failure

/-- A decimal as a double; exponents that decide the value alone are not raised. -/
def decimalFloat (significand : Nat) (exponent : Int) : Float :=
  let magnitude := (Nat.repr significand).length + exponent
  if significand = 0 ∨ magnitude < -400 then 0.0
  else if 400 < magnitude then 1.0 / 0.0
  else Float.ofScientific significand (exponent < 0) exponent.natAbs

/-- A fraction. -/
def fraction : Scan (List Char) := do
  char '.'
  digits Char.isDigit

/-- An exponent. -/
def exponent : Scan Int := do
  let _ ← one fun c => c = 'e' || c = 'E'
  let negative ← sign
  let n := valueOf 10 (← digits Char.isDigit)
  return if negative then -n else n

/-- A number with a fraction, an exponent or both. -/
def decimal : Scan Float := do
  let negative ← sign
  let whole ← wholeDigits
  let (places, e) ←
    (do return ([], ← exponent)) <|>
    (do
      let places ← fraction
      return (places, (← optional exponent).getD 0))
  let x := decimalFloat (valueOf 10 (whole ++ places)) (e - places.length)
  if x.isInf && !negative then failure else return if negative then -x else x

/-- The names of the doubles that are not finite. -/
def specialFloat : Scan Float := do
  let negative ← sign
  let x ← (do word ['i', 'n', 'f']; return 1.0 / 0.0) <|> (do word ['n', 'a', 'n']; return 0.0 / 0.0)
  return if negative then -x else x

/-- A double. -/
def float : Scan Float := decimal <|> specialFloat

/-! ## Dates and times -/

/-- A number of exactly so many digits between two limits. -/
def limited (width low high : Nat) : Scan Nat := do
  let n := valueOf 10 (← times width (one Char.isDigit))
  if low ≤ n ∧ n ≤ high then return n else failure

/-- The number of days in a month. -/
def daysIn (year month : Nat) : Nat :=
  if month = 2 then
    if year % 4 = 0 ∧ (year % 100 ≠ 0 ∨ year % 400 = 0) then 29 else 28
  else if month ∈ [4, 6, 9, 11] then 30
  else 31

/-- A date. -/
def date : Scan Unit := do
  let year ← limited 4 0 9999
  char '-'
  let month ← limited 2 1 12
  char '-'
  let _ ← limited 2 1 (daysIn year month)

/-- Hours and minutes. -/
def hoursAndMinutes : Scan Unit := do
  let _ ← limited 2 0 23
  char ':'
  let _ ← limited 2 0 59

/-- A time of day, which may be a leap second. -/
def timeOfDay : Scan Unit := do
  hoursAndMinutes
  char ':'
  let _ ← limited 2 0 60
  let _ ← optional (do char '.'; run1 Char.isDigit)

/-- The offset of a time zone. -/
def zoneOffset : Scan Unit :=
  (do let _ ← one fun c => c = 'Z' || c = 'z') <|>
    (do
      let _ ← one fun c => c = '+' || c = '-'
      hoursAndMinutes)

/-- A date, a time of day, or both. -/
def moment : Scan String := do
  let written ← taken <|
    (do
      date
      let _ ← optional (do
        let _ ← one fun c => c = 'T' || c = 't' || c = ' '
        timeOfDay
        optional zoneOffset)) <|> timeOfDay
  return String.ofList written

end Scan

end Multimodal
