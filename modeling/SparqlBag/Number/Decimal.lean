import SparqlBag.Number.Binary

/-!
# Decimals and 64-bit integers

`xsd:decimal` values are fixed-point numbers with eighteen fractional digits:
a `Decimal` is the integer `scaled = value * 10 ^ 18`, which must fit in a
signed 128-bit word.  `xsd:integer` values are signed 64-bit words.  Every
operation that leaves its range fails (`none`), and so do divisions by zero.

A product is exact or fails.  Division keeps as much precision as the 128-bit
word allows and then truncates towards zero, in two steps: the dividend is
shifted left by as many decimal places as fit, the divisor right by its
trailing zeros, and the quotient is shifted back.  The steps are part of the
observable behaviour (`1 / 3 * 3` is `0.999999999999999999`), so they are
written out as they are, not replaced by exact rational arithmetic.
-/

namespace SparqlBag

/-- The least value of a signed 128-bit word. -/
def int128Min : Int := -(Int.pow 2 127)
/-- The greatest value of a signed 128-bit word. -/
def int128Max : Int := Int.pow 2 127 - 1
/-- The least value of a signed 64-bit word. -/
def int64Min : Int := -(Int.pow 2 63)
/-- The greatest value of a signed 64-bit word. -/
def int64Max : Int := Int.pow 2 63 - 1

/-- `x` if it fits in a signed 128-bit word. -/
def fit128 (x : Int) : Option Int := if int128Min ≤ x ∧ x ≤ int128Max then some x else none

/-- `x` if it fits in a signed 64-bit word. -/
def fit64 (x : Int) : Option Int := if int64Min ≤ x ∧ x ≤ int64Max then some x else none

/-- The number of fractional digits of a decimal. -/
def decimalPlaces : Nat := 18

/-- An `xsd:decimal`: `scaled / 10 ^ 18`. -/
structure Decimal where
  scaled : Int
  deriving DecidableEq, Hashable, Inhabited, Repr

namespace Decimal

instance : Ord Decimal := ⟨fun a b => compare a.scaled b.scaled⟩

/-- The decimal of a 64-bit integer. -/
def ofInt (i : Int) : Decimal := ⟨i * Int.pow 10 decimalPlaces⟩

/-- Sum, if it fits. -/
def add (a b : Decimal) : Option Decimal := (fit128 (a.scaled + b.scaled)).map (⟨·⟩)

/-- Difference, if it fits. -/
def sub (a b : Decimal) : Option Decimal := (fit128 (a.scaled - b.scaled)).map (⟨·⟩)

/-- Removes the trailing decimal zeros of a nonzero integer and counts them. -/
def stripTens (x : Int) : (fuel : Nat) → Int × Nat
  | 0 => (x, 0)
  | fuel + 1 =>
    if x != 0 && x % 10 == 0 then
      let (y, n) := stripTens (x / 10) fuel
      (y, n + 1)
    else (x, 0)

/-- Shifts a nonzero integer left by as many decimal places as keep it inside a
128-bit word, and counts them. -/
def shiftTensIn (x : Int) : (fuel : Nat) → Int × Nat
  | 0 => (x, 0)
  | fuel + 1 =>
    if x != 0 ∧ int128Min ≤ x * 10 ∧ x * 10 ≤ int128Max then
      let (y, n) := shiftTensIn (x * 10) fuel
      (y, n + 1)
    else (x, 0)

/-- Product: defined exactly when the exact product has at most eighteen
fractional digits and fits. -/
def mul (a b : Decimal) : Option Decimal :=
  let product := a.scaled * b.scaled
  let unit : Int := Int.pow 10 decimalPlaces
  if product % unit == 0 then (fit128 (product / unit)).map (⟨·⟩) else none

/-- Quotient: the dividend is shifted left as far as it fits, the divisor loses
its trailing zeros, and the truncated quotient is shifted back to eighteen
places, truncating again.  Fails for a zero divisor, and whenever the shifts
total less than eighteen places (a zero dividend over a divisor with fewer than
eighteen trailing zeros in its scaled form). -/
def div (a b : Decimal) : Option Decimal := do
  if b.scaled = 0 then none
  let (left, shiftLeft) := shiftTensIn a.scaled 40
  let (right, shiftRight) := stripTens b.scaled 40
  if shiftLeft + shiftRight < decimalPlaces then none
  let shift := shiftLeft + shiftRight - decimalPlaces
  let divisor ← fit128 (Int.pow 10 shift)
  let quotient ← fit128 (left.tdiv right)
  return ⟨quotient.tdiv divisor⟩

/-- Negation, if it fits. -/
def neg (a : Decimal) : Option Decimal := (fit128 (-a.scaled)).map (⟨·⟩)

/-- The shortest text: an optional `-`, the integer digits, and the fractional
digits without trailing zeros, preceded by `.` when there are any. -/
def toText (a : Decimal) : String :=
  let sign := if a.scaled < 0 then "-" else ""
  let n := a.scaled.natAbs
  let whole := n / Nat.pow 10 decimalPlaces
  let fraction := n % Nat.pow 10 decimalPlaces
  if fraction = 0 then sign ++ toString whole
  else
    let digits := toString fraction
    let padded := zeros (decimalPlaces - digits.length) ++ digits
    let trimmed := String.ofList (padded.toList.reverse.dropWhile (· == '0')).reverse
    sign ++ toString whole ++ "." ++ trimmed

/-- Reads `(+|-)?([0-9]+(.[0-9]*)?|.[0-9]+)`.  Trailing zeros of the fraction
are ignored; more than eighteen remaining fractional digits, or a value outside
the 128-bit word, fail. -/
def parse (text : String) : Option Decimal := do
  let (negative, rest) := splitSign text.toList
  let whole := rest.takeWhile Char.isDigit
  let rest := rest.dropWhile Char.isDigit
  let fraction ← match rest with
    | [] => if whole.isEmpty then none else some []
    | '.' :: more =>
      if whole.isEmpty && more.isEmpty then none
      else if more.all Char.isDigit then some (more.reverse.dropWhile (· == '0')).reverse
      else none
    | _ => none
  if fraction.length > decimalPlaces then none
  let magnitude := digitsValue (whole ++ fraction) * Nat.pow 10 (decimalPlaces - fraction.length)
  let value : Int := if negative then -(magnitude : Int) else magnitude
  return ⟨← fit128 value⟩

/-- The double nearest to the decimal. -/
def toFloatBits (a : Decimal) : Nat :=
  BinaryFormat.binary64.encode (a.scaled < 0) a.scaled.natAbs (Nat.pow 10 decimalPlaces)

end Decimal

/-- Reads a 64-bit integer: an optional sign and at least one digit. -/
def parseInt64 (text : String) : Option Int := do
  let (negative, digits) := splitSign text.toList
  if digits.isEmpty || !digits.all Char.isDigit then none
  let magnitude : Int := digitsValue digits
  fit64 (if negative then -magnitude else magnitude)

/-- Reads an unsigned 64-bit integer: an optional `+` and at least one digit. -/
def parseUInt64 (text : String) : Option Nat := do
  let digits := match text.toList with
    | '+' :: rest => rest
    | cs => cs
  if digits.isEmpty || !digits.all Char.isDigit then none
  let value := digitsValue digits
  if value < Nat.pow 2 64 then some value else none

end SparqlBag
