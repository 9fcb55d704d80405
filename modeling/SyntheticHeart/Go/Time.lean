import Mathlib

/-!
# Go's `time.Parse` with the RFC 3339 layout

`time.Parse("2006-01-02T15:04:05.999999999Z07:00", value)` read chunk by chunk, as Go's
parser walks that layout: a four-digit year, a two-digit month and day, an hour of one or
two digits, two-digit minutes and seconds, an optional fraction of any length of which the
first nine digits count, and `Z` or a `±hh:mm` offset; then nothing may follow, and the day
must exist in its month. Each range check fails the parse at once, as Go's does.

The result is the instant in nanoseconds since the Unix epoch, or `none` when Go returns a
parse error; the text of the error is not modelled. `daysFromCivil` counts days in the
proleptic Gregorian calendar, as Go's `Date` does.
-/

namespace GoTime

/-- The value of a decimal digit. -/
def digitVal? (c : Char) : Option Nat :=
  if '0' ≤ c ∧ c ≤ '9' then some (c.toNat - '0'.toNat) else none

/-- The value of a string of decimal digits, if all of it is digits. -/
def digitsVal? : List Char → Option Nat
  | [] => some 0
  | c :: cs => do
    let d ← digitVal? c
    let n ← digitsVal? cs
    pure (d * 10 ^ cs.length + n)

/-- `getnum(s, fixed)`: one or two leading digits, exactly two when `fixed`. -/
def getnum (s : List Char) (fixed : Bool) : Option (Nat × List Char) :=
  match s with
  | [] => none
  | a :: rest =>
    match digitVal? a, rest with
    | none, _ => none
    | some x, b :: rest' =>
      match digitVal? b with
      | some y => some (10 * x + y, rest')
      | none => if fixed then none else some (x, rest)
    | some x, [] => if fixed then none else some (x, rest)

/-- The layout's literal text `c` at the front of the value. -/
def skip (c : Char) : List Char → Option (List Char)
  | d :: rest => if d = c then some rest else none
  | [] => none

/-- `stdLongYear`: four characters, read by `atoi` after a leading digit. -/
def year4 : List Char → Option (Int × List Char)
  | a :: b :: c :: d :: rest => (digitsVal? [a, b, c, d]).map fun y => ((y : Int), rest)
  | _ => none

/-- `stdFracSecond9`: a period or comma and a digit start a fraction; every following digit
is consumed and the first nine give the nanoseconds. Otherwise there is no fraction. -/
def fracSecond (v : List Char) : Option (Nat × List Char) :=
  match v with
  | p :: d :: rest =>
    if (p = '.' ∨ p = ',') ∧ (digitVal? d).isSome then
      let digits := d :: rest.takeWhile fun c => (digitVal? c).isSome
      let kept := digits.take 9
      (digitsVal? kept).map fun ns => (ns * 10 ^ (9 - kept.length), v.drop (1 + digits.length))
    else some (0, v)
  | _ => some (0, v)

/-- `stdISO8601ColonTZ`: `Z`, or a sign, two-digit hours, a colon and two-digit minutes; the
offset in seconds east of UTC. -/
def zone : List Char → Option (Int × List Char)
  | 'Z' :: rest => some (0, rest)
  | s :: h₁ :: h₂ :: ':' :: m₁ :: m₂ :: rest => do
    let (hr, _) ← getnum [h₁, h₂] true
    let (mm, _) ← getnum [m₁, m₂] true
    if 24 < hr ∨ 60 < mm then none
    else
      let off : Int := (hr * 60 + mm) * 60
      if s = '+' then some (off, rest)
      else if s = '-' then some (-off, rest)
      else none
  | _ => none

/-- Leap years of the Gregorian calendar. -/
def isLeap (y : Int) : Bool := y % 4 = 0 ∧ (y % 100 ≠ 0 ∨ y % 400 = 0)

/-- `daysIn(month, year)`. -/
def daysIn (month : Nat) (year : Int) : Nat :=
  match month with
  | 2 => if isLeap year then 29 else 28
  | 4 | 6 | 9 | 11 => 30
  | _ => 31

/-- Days from 1970-01-01 to the civil date `year-month-day`, counted in eras of 400 years
that start on March 1st. -/
def daysFromCivil (year : Int) (month day : Nat) : Int :=
  let y := if month ≤ 2 then year - 1 else year
  let era := y / 400
  let yoe := y - era * 400
  let mp : Int := (month + 9) % 12
  let doy := (153 * mp + 2) / 5 + day - 1
  let doe := yoe * 365 + yoe / 4 - yoe / 100 + doy
  era * 146097 + doe - 719468

/-- Nanoseconds in a second. -/
def nanosPerSecond : Int := 1000000000

/-- `t.Sub(u)` for instants in nanoseconds: the difference, saturated to the range of a
`time.Duration`. -/
def sub (t u : Int) : Int := max (min (t - u) (2 ^ 63 - 1)) (-2 ^ 63)

/-- `time.Parse(time.RFC3339Nano, value)`: the instant in nanoseconds since the epoch. -/
def parseRFC3339Nano (value : String) : Option Int := do
  let v := value.toList
  let (year, v) ← year4 v
  let v ← skip '-' v
  let (month, v) ← getnum v true
  if month < 1 ∨ 12 < month then none
  let v ← skip '-' v
  let (day, v) ← getnum v true
  let v ← skip 'T' v
  let (hour, v) ← getnum v false
  if 24 ≤ hour then none
  let v ← skip ':' v
  let (min, v) ← getnum v true
  if 60 ≤ min then none
  let v ← skip ':' v
  let (sec, v) ← getnum v true
  if 60 ≤ sec then none
  let (nsec, v) ← fracSecond v
  let (offset, v) ← zone v
  -- extra text after the layout
  if v ≠ [] then none
  if day < 1 ∨ daysIn month year < day then none
  let secs := daysFromCivil year month day * 86400 + hour * 3600 + min * 60 + sec - offset
  pure (secs * nanosPerSecond + nsec)

example : parseRFC3339Nano "1970-01-01T00:00:01Z" = some 1000000000 := by decide
example : parseRFC3339Nano "2024-02-29T12:00:00.5+01:00" = some 1709204400500000000 := by decide
example : parseRFC3339Nano "2023-02-29T12:00:00Z" = none := by decide

end GoTime
