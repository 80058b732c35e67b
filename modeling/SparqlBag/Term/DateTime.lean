import SparqlBag.Number.Decimal

/-!
# `xsd:dateTime`

A date-time is read from its lexical form
`-?YYYY-MM-DDThh:mm:ss(.s+)?(Z|(+|-)hh:mm)?` and placed on a time line: the
number of seconds since 0001-01-01T00:00:00 in the proleptic Gregorian
calendar, minus the time-zone offset.  Two date-times compare by their places on
the line when both or neither carry a time zone.  When only one does, the other
may lie anywhere within fourteen hours of its local reading, so the order is
known only if it is the same at both ends of that window.

The calendar fields (`YEAR`, `MONTH`, …) are read back from the time line in
local time, so `24:00:00` becomes midnight of the next day.
-/

namespace SparqlBag

/-- A parsed `xsd:dateTime`. -/
structure DateTime where
  /-- Seconds since 0001-01-01T00:00:00 in UTC (local time when there is no
  time zone), as a decimal. -/
  instant : Decimal
  /-- The time-zone offset in minutes, if any. -/
  offset : Option Int
  deriving DecidableEq, Repr

namespace DateTime

/-- Whether a year is a leap year. -/
def isLeap (y : Int) : Bool := y % 4 == 0 && (y % 100 != 0 || y % 400 == 0)

/-- The days of a month of a year. -/
def daysInMonth (y : Int) (m : Nat) : Nat :=
  if m == 2 then (if isLeap y then 29 else 28)
  else if m == 4 || m == 6 || m == 9 || m == 11 then 30 else 31

/-- Splits the leading decimal digits. -/
def digitsPrefix (cs : List Char) : List Char × List Char := (cs.takeWhile Char.isDigit, cs.dropWhile Char.isDigit)

/-- A field of exactly two digits within bounds. -/
def twoDigits (cs : List Char) (lo hi : Nat) : Option (Nat × List Char) :=
  let (ds, rest) := digitsPrefix cs
  if ds.length != 2 then none else
  let v := digitsValue ds
  if lo ≤ v ∧ v ≤ hi then some (v, rest) else none

/-- Expects one character. -/
def expect (c : Char) : List Char → Option (List Char)
  | d :: rest => if c == d then some rest else none
  | [] => none

/-- The year: an optional `-` and at least four digits, without a leading zero
when there are more than four. -/
def yearField (cs : List Char) : Option (Int × List Char) :=
  let (negative, cs) := match cs with
    | '-' :: rest => (true, rest)
    | _ => (false, cs)
  let (ds, rest) := digitsPrefix cs
  if ds.length < 4 then none
  else if ds.length > 4 && ds.head? == some '0' then none
  else
    let v : Int := digitsValue ds
    some (if negative then -v else v, rest)

/-- The seconds: two digits below 60 and an optional fraction of at least one digit. -/
def secondField (cs : List Char) : Option (Decimal × List Char) := do
  let (whole, rest) ← twoDigits cs 0 59
  match rest with
  | '.' :: more =>
    let (fraction, rest) := digitsPrefix more
    if fraction.isEmpty then none
    let d ← Decimal.parse (String.ofList (toString whole).toList ++ "." ++ String.ofList fraction)
    return (d, rest)
  | _ => return (Decimal.ofInt whole, rest)

/-- The time zone: `Z`, or a sign, two digits of hours up to 13 (or 14 with
zero minutes), `:` and two digits of minutes; the offset in minutes. -/
def zoneField (cs : List Char) : Option (Int × List Char) :=
  match cs with
  | 'Z' :: rest => some (0, rest)
  | _ =>
    let (negative, cs) := match cs with
      | '-' :: rest => (true, rest)
      | '+' :: rest => (false, rest)
      | _ => (false, cs)
    do
      let (ds, rest) := digitsPrefix cs
      if ds.length != 2 then none
      let hours := digitsValue ds
      let rest ← expect ':' rest
      let (minutes, rest) ← twoDigits rest 0 59
      if hours > 13 && !(hours == 14 && minutes == 0) then none
      let total : Int := (hours * 60 + minutes : Nat)
      return (if negative then -total else total, rest)

/-- The seconds on the time line of local calendar fields. -/
def timeline (year : Int) (month day hour : Nat) (minutes : Int) : Int :=
  let y := year - 1
  let monthDays : Nat := ((List.range (month - 1)).map fun i => daysInMonth (y + 1) (i + 1)).foldl (· + ·) 0
  31536000 * y + 86400 * (y / 400 - y / 100 + y / 4) + 86400 * (monthDays : Int)
    + 86400 * ((day : Int) - 1) + 3600 * (hour : Int) + 60 * minutes

/-- Reads the lexical form of an `xsd:dateTime`; the whole text must match. -/
def parse (text : String) : Option DateTime := do
  let cs := text.toList
  let (year, cs) ← yearField cs
  let cs ← expect '-' cs
  let (month, cs) ← twoDigits cs 1 12
  let cs ← expect '-' cs
  let (day, cs) ← twoDigits cs 1 31
  let cs ← expect 'T' cs
  let (hour, cs) ← twoDigits cs 0 24
  let cs ← expect ':' cs
  let (minute, cs) ← twoDigits cs 0 59
  let cs ← expect ':' cs
  let (second, cs) ← secondField cs
  if hour == 24 && (minute != 0 || second.scaled != 0) then none
  let (offset, cs) ← match cs with
    | [] => some (none, [])
    | _ => (zoneField cs).map fun (o, rest) => (some o, rest)
  if !cs.isEmpty then none
  if day > daysInMonth year month then none
  let seconds := timeline year month day hour ((minute : Int) - offset.getD 0)
  let base ← fit128 (seconds * Int.pow 10 decimalPlaces)
  let instant ← Decimal.add ⟨base⟩ second
  return ⟨instant, offset⟩

/-- The order of two date-times, if it is determined. -/
def partialCompare (a b : DateTime) : Option Ordering :=
  match a.offset, b.offset with
  | some _, some _ | none, none => some (compare a.instant.scaled b.instant.scaled)
  | some _, none =>
    let window := Decimal.ofInt (14 * 3600)
    match b.instant.add window, b.instant.sub window with
    | some hi, some lo =>
      let upper := compare a.instant.scaled hi.scaled
      let lower := compare a.instant.scaled lo.scaled
      if upper == lower then some upper else none
    | _, _ => none
  | none, some _ =>
    let window := Decimal.ofInt (14 * 3600)
    match a.instant.add window, a.instant.sub window with
    | some hi, some lo =>
      let upper := compare hi.scaled b.instant.scaled
      let lower := compare lo.scaled b.instant.scaled
      if upper == lower then some upper else none
    | _, _ => none

/-- Seconds since 0001-01-01T00:00:00 in local time. -/
def localSeconds (d : DateTime) : Decimal :=
  ⟨d.instant.scaled + d.offset.getD 0 * 60 * Int.pow 10 decimalPlaces⟩

/-- The whole days since 0001-01-01 in local time. -/
def localDays (d : DateTime) : Int := d.localSeconds.scaled / (86400 * Int.pow 10 decimalPlaces)

/-- Year, month and day of a day number counted from 0001-01-01. -/
def civilOfDays (days : Int) : Int × Nat × Nat :=
  let z := days - 719162 + 719468
  let era := z / 146097
  let doe := z - era * 146097
  let yoe := (doe - doe / 1460 + doe / 36524 - doe / 146096) / 365
  let y := yoe + era * 400
  let doy := doe - (365 * yoe + yoe / 4 - yoe / 100)
  let mp := (5 * doy + 2) / 153
  let d := doy - (153 * mp + 2) / 5 + 1
  let m := if mp < 10 then mp + 3 else mp - 9
  (if m ≤ 2 then y + 1 else y, m.toNat, d.toNat)

/-- The local year. -/
def year (d : DateTime) : Int := (civilOfDays d.localDays).1

/-- The local month. -/
def month (d : DateTime) : Nat := (civilOfDays d.localDays).2.1

/-- The local day of the month. -/
def day (d : DateTime) : Nat := (civilOfDays d.localDays).2.2

/-- The local hour. -/
def hour (d : DateTime) : Nat :=
  ((d.localSeconds.scaled / Int.pow 10 decimalPlaces) % 86400 / 3600).toNat

/-- The local minute. -/
def minute (d : DateTime) : Nat :=
  ((d.localSeconds.scaled / Int.pow 10 decimalPlaces) % 3600 / 60).toNat

/-- The seconds within the minute, with their fraction. -/
def second (d : DateTime) : Decimal := ⟨d.localSeconds.scaled % (60 * Int.pow 10 decimalPlaces)⟩

/-- A number written with at least `width` digits. -/
def padded (width : Nat) (n : Nat) : String :=
  let s := toString n
  zeros (width - s.length) ++ s

/-- The canonical lexical form. -/
def toText (d : DateTime) : String :=
  let y := d.year
  let sec := d.second
  let zone := match d.offset with
    | none => ""
    | some 0 => "Z"
    | some o => (if o < 0 then "-" else "+") ++ padded 2 (o.natAbs / 60) ++ ":" ++ padded 2 (o.natAbs % 60)
  (if y < 0 then "-" else "") ++ padded 4 y.natAbs ++ "-" ++ padded 2 d.month ++ "-" ++ padded 2 d.day ++
    "T" ++ padded 2 d.hour ++ ":" ++ padded 2 d.minute ++ ":" ++
    (if sec.scaled < 10 * Int.pow 10 decimalPlaces then "0" else "") ++ sec.toText ++ zone

end DateTime

end SparqlBag
