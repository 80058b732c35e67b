/-!
# Binary floating-point formats

Doubles and singles are handled as the IEEE 754 bit patterns that Lean's
`Float` and `Float32` carry.  This module decides everything about them that the
hardware operations do not: reading a decimal text, rounding an exact rational
to the nearest value of a format, and rounding to an integral value.

All rounding goes through one function, `BinaryFormat.encode`, which rounds an
exact quotient `n / d` to nearest with ties to even, with gradual underflow and
overflow to infinity.  Every conversion in the project (a decimal text, an
integer, a double narrowed to a single) is an exact rational followed by this
one rounding, so each is correctly rounded by construction.
-/

namespace SparqlBag

/-- `n / d` rounded to the nearest natural number, a tie going to the even one. -/
def roundHalfEven (n d : Nat) : Nat :=
  let q := n / d
  let r := n % d
  if 2 * r < d then q
  else if 2 * r > d then q + 1
  else if q % 2 == 0 then q else q + 1

/-- An IEEE 754 binary interchange format. -/
structure BinaryFormat where
  /-- Significand bits, the hidden leading bit included. -/
  precision : Nat
  /-- Bits of the biased exponent. -/
  exponentBits : Nat

namespace BinaryFormat

/-- The format of doubles. -/
def binary64 : BinaryFormat := ⟨53, 11⟩

/-- The format of singles. -/
def binary32 : BinaryFormat := ⟨24, 8⟩

/-- The exponent bias. -/
def bias (f : BinaryFormat) : Nat := Nat.pow 2 (f.exponentBits - 1) - 1

/-- The biased exponent of infinities and NaNs. -/
def topExponent (f : BinaryFormat) : Nat := Nat.pow 2 f.exponentBits - 1

/-- The weight of the sign bit. -/
def signBit (f : BinaryFormat) : Nat := Nat.pow 2 (f.exponentBits + f.precision - 1)

/-- The weight of the lowest exponent bit, which is also the hidden bit. -/
def hiddenBit (f : BinaryFormat) : Nat := Nat.pow 2 (f.precision - 1)

/-- The exponent of the least significand unit of subnormals: a finite value is
`m * 2 ^ q` with `q ≥ minQuantum`. -/
def minQuantum (f : BinaryFormat) : Int := 1 - (f.bias : Int) - ((f.precision - 1 : Nat) : Int)

/-- The bits of positive infinity. -/
def infinityBits (f : BinaryFormat) : Nat := f.topExponent * f.hiddenBit

/-- The bits of the quiet NaN that the hardware produces. -/
def nanBits (f : BinaryFormat) : Nat := f.topExponent * f.hiddenBit + f.hiddenBit / 2

/-- `a * 2 ^ e` as a quotient of naturals, for an exponent of either sign. -/
def scaleTwo (a : Nat) (e : Int) : Nat × Nat :=
  if 0 ≤ e then (a * Nat.pow 2 e.toNat, 1) else (a, Nat.pow 2 (-e).toNat)

/-- Whether `n / d ≥ 2 ^ t`. -/
def atLeastTwoPow (n d : Nat) (t : Int) : Bool :=
  if 0 ≤ t then decide (n ≥ d * Nat.pow 2 t.toNat) else decide (n * Nat.pow 2 (-t).toNat ≥ d)

/-- The bits of `±(n / d)` rounded to nearest, ties to even.  Values beyond the
largest finite one round to infinity, values below half the least subnormal to
a zero of the given sign. -/
def encode (f : BinaryFormat) (negative : Bool) (n d : Nat) : Nat :=
  let sign := if negative then f.signBit else 0
  if n = 0 ∨ d = 0 then sign else
  let t : Int := (n.log2 : Int) - (d.log2 : Int)
  let e : Int := if atLeastTwoPow n d t then t else t - 1
  let q : Int := max (e - ((f.precision - 1 : Nat) : Int)) f.minQuantum
  let m := if 0 ≤ q then roundHalfEven n (d * Nat.pow 2 q.toNat) else roundHalfEven (n * Nat.pow 2 (-q).toNat) d
  let (m, q) := if m = Nat.pow 2 f.precision then (f.hiddenBit, q + 1) else (m, q)
  if m < f.hiddenBit then sign + m
  else
    let biased := q + ((f.precision - 1 : Nat) : Int) + (f.bias : Int)
    if biased ≥ (f.topExponent : Int) then sign + f.infinityBits
    else sign + biased.toNat * f.hiddenBit + (m - f.hiddenBit)

/-- What a bit pattern denotes. -/
inductive Value where
  | nan
  | infinite (negative : Bool)
  /-- `±(m * 2 ^ q)`; zeros have `m = 0`. -/
  | finite (negative : Bool) (m : Nat) (q : Int)
  deriving DecidableEq, Repr

/-- Decodes a bit pattern. -/
def decode (f : BinaryFormat) (bits : Nat) : Value :=
  let negative := bits / f.signBit % 2 == 1
  let biased := bits / f.hiddenBit % Nat.pow 2 f.exponentBits
  let fraction := bits % f.hiddenBit
  if biased == f.topExponent then
    if fraction == 0 then .infinite negative else .nan
  else if biased == 0 then .finite negative fraction f.minQuantum
  else .finite negative (fraction + f.hiddenBit) ((biased : Int) - 1 + f.minQuantum)

/-- Rounds to an integral value, downwards (`up = false`) or upwards.  Zeros,
infinities and NaNs are returned as they are; a result of zero keeps the sign
of the argument, as `floor` and `ceil` of IEEE 754 do. -/
def roundIntegral (f : BinaryFormat) (up : Bool) (bits : Nat) : Nat :=
  match f.decode bits with
  | .finite negative m q =>
    if 0 ≤ q then bits else
    let unit := Nat.pow 2 (-q).toNat
    let whole := m / unit
    let exact := m % unit == 0
    let away := !exact && (up != negative)
    f.encode negative (if away then whole + 1 else whole) 1
  | _ => bits

/-- The order key of a bit pattern: its magnitude bits, negated for a negative
value, so that keys compare as the values they denote do and the two zeros are
equal; none for a NaN. -/
def orderKey (f : BinaryFormat) (bits : Nat) : Option Int :=
  let magnitude := bits % f.signBit
  if f.infinityBits < magnitude then none
  else if bits / f.signBit % 2 = 1 then some (-(magnitude : Int)) else some magnitude

/-- The IEEE 754 order of the values of two bit patterns; none if one is a NaN. -/
def compareBits (f : BinaryFormat) (x y : Nat) : Option Ordering := do
  let kx ← f.orderKey x
  let ky ← f.orderKey y
  pure (compare kx ky)

/-- The value of a bit pattern read in another format, rounded to nearest. -/
def convert (source target : BinaryFormat) (bits : Nat) : Nat :=
  match source.decode bits with
  | .nan => target.nanBits
  | .infinite negative => (if negative then target.signBit else 0) + target.infinityBits
  | .finite negative m q =>
    let (n, d) := scaleTwo m q
    target.encode negative n d

end BinaryFormat

/-- `n` zeros. -/
def zeros (n : Nat) : String := String.ofList (List.replicate n '0')

/-- The value of a list of decimal digits. -/
def digitsValue (ds : List Char) : Nat :=
  ds.foldl (fun acc c => acc * 10 + (c.toNat - '0'.toNat)) 0

/-- The bits of `±(mantissa * 10 ^ exponent)` in a format.  Exponents far
outside the range of every format give infinity or zero without computing the
power. -/
def BinaryFormat.ofDecimal (f : BinaryFormat) (negative : Bool) (mantissa : Nat) (exponent : Int) : Nat :=
  if mantissa = 0 then (if negative then f.signBit else 0) else
  let size : Int := ((toString mantissa).length : Int) + exponent
  if size > 400 then (if negative then f.signBit else 0) + f.infinityBits
  else if size < -400 then (if negative then f.signBit else 0)
  else if 0 ≤ exponent then f.encode negative (mantissa * Nat.pow 10 exponent.toNat) 1
  else f.encode negative mantissa (Nat.pow 10 (-exponent).toNat)

/-- Splits an optional leading sign. -/
def splitSign : List Char → Bool × List Char
  | '-' :: rest => (true, rest)
  | '+' :: rest => (false, rest)
  | cs => (false, cs)

/-- The bits a decimal text denotes in a format, read this way: an optional sign, then `inf`, `infinity` or `nan` in any case, or
digits with an optional fraction and an optional exponent.  No white space is
allowed, and `.` alone is not a number. -/
def BinaryFormat.parse (f : BinaryFormat) (text : String) : Option Nat :=
  let (negative, rest) := splitSign text.toList
  let lower := String.ofList (rest.map Char.toLower)
  let sign := if negative then f.signBit else 0
  if lower == "inf" || lower == "infinity" then some (sign + f.infinityBits)
  else if lower == "nan" then some f.nanBits
  else
    let whole := rest.takeWhile Char.isDigit
    let rest := rest.dropWhile Char.isDigit
    let (fraction, rest) := match rest with
      | '.' :: more => (more.takeWhile Char.isDigit, more.dropWhile Char.isDigit)
      | _ => ([], rest)
    if whole.isEmpty && fraction.isEmpty then none else
    let exponent : Option Int := match rest with
      | [] => some 0
      | c :: more =>
        if c == 'e' || c == 'E' then
          let (expNegative, digits) := splitSign more
          if digits.isEmpty || !digits.all Char.isDigit then none
          else
            let v : Int := digitsValue digits
            some (if expNegative then -v else v)
        else none
    exponent.map fun e => f.ofDecimal negative (digitsValue (whole ++ fraction)) (e - fraction.length)

end SparqlBag
