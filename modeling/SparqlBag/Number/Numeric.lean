import SparqlBag.Number.Shortest
import SparqlBag.Number.Decimal
import SparqlBag.Term.Basic

/-!
# Numeric literals

The value of a numeric literal is one of four kinds, ordered by promotion:
integer (64-bit), decimal, float (single) and double.  A binary operation
promotes both operands to the greater kind of the two.  Integer and decimal
arithmetic is checked and fails outside its range; float and double arithmetic
follows IEEE 754 and never fails.  Dividing two integers gives a decimal.

A single meets an integer or a decimal by going through the nearest double and
then the nearest single, two roundings in a row; the double is the exact value
of the integer, or the correctly rounded value of the decimal's text.
-/

namespace SparqlBag

/-- A numeric value. -/
inductive Numeric where
  | integer (value : Int)
  | decimal (value : Decimal)
  | float (value : Float32)
  | double (value : Float)
  deriving Inhabited

namespace Numeric

/-- The double with these bits. -/
def doubleOfBits (bits : Nat) : Float := Float.ofBits (UInt64.ofNat bits)

/-- The single with these bits. -/
def floatOfBits (bits : Nat) : Float32 := Float32.ofBits (UInt32.ofNat bits)

/-- The double nearest to an integer. -/
def intToDouble (i : Int) : Float :=
  doubleOfBits (BinaryFormat.binary64.encode (i < 0) i.natAbs 1)

/-- The single nearest to a double. -/
def doubleToFloat (x : Float) : Float32 :=
  floatOfBits (BinaryFormat.convert .binary64 .binary32 x.toBits.toNat)

/-- The double equal to a single. -/
def floatToDouble (x : Float32) : Float :=
  doubleOfBits (BinaryFormat.convert .binary32 .binary64 x.toBits.toNat)

/-- Reads a literal of a numeric datatype.  Derived integer datatypes are read
as plain 64-bit integers. -/
def ofLiteral (l : Literal) : Option Numeric :=
  let d := l.datatype
  let v := l.value
  if Xsd.isIntegerType d then (parseInt64 v).map .integer
  else if d == Xsd.decimal then (Decimal.parse v).map .decimal
  else if d == Xsd.float then (BinaryFormat.binary32.parse v).map (.float ∘ floatOfBits)
  else if d == Xsd.double then (BinaryFormat.binary64.parse v).map (.double ∘ doubleOfBits)
  else none

/-- The text of a double in a literal: `INF`, `-INF`, or its plain text. -/
def doubleText (x : Float) : String :=
  match BinaryFormat.binary64.decode x.toBits.toNat with
  | .infinite negative => if negative then "-INF" else "INF"
  | _ => Float.displayText x

/-- The text of a single in a literal: `INF`, `-INF`, or its plain text. -/
def floatText (x : Float32) : String :=
  match BinaryFormat.binary32.decode x.toBits.toNat with
  | .infinite negative => if negative then "-INF" else "INF"
  | _ => Float32.displayText x

/-- The literal of a numeric value, in its canonical text. -/
def toLiteral : Numeric → Literal
  | .integer i => .typed (toString i) Xsd.integer
  | .decimal d => .typed d.toText Xsd.decimal
  | .float x => .typed (floatText x) Xsd.float
  | .double x => .typed (doubleText x) Xsd.double

/-- The value as a double. -/
def toDouble : Numeric → Float
  | .integer i => intToDouble i
  | .decimal d => doubleOfBits d.toFloatBits
  | .float x => floatToDouble x
  | .double x => x

/-- Two values promoted to their common kind. -/
inductive Pair where
  | integer (a b : Int)
  | decimal (a b : Decimal)
  | float (a b : Float32)
  | double (a b : Float)

/-- Promotes two values to the greater of their kinds. -/
def promote : Numeric → Numeric → Pair
  | .integer a, .integer b => .integer a b
  | .integer a, .decimal b => .decimal (Decimal.ofInt a) b
  | .decimal a, .integer b => .decimal a (Decimal.ofInt b)
  | .decimal a, .decimal b => .decimal a b
  | .float a, .float b => .float a b
  | .float a, b@(.integer _) => .float a (doubleToFloat b.toDouble)
  | .float a, b@(.decimal _) => .float a (doubleToFloat b.toDouble)
  | a@(.integer _), .float b => .float (doubleToFloat a.toDouble) b
  | a@(.decimal _), .float b => .float (doubleToFloat a.toDouble) b
  | a, b => .double a.toDouble b.toDouble

/-- Checked sum. -/
def add (a b : Numeric) : Option Numeric :=
  match promote a b with
  | .integer x y => (fit64 (x + y)).map .integer
  | .decimal x y => (x.add y).map .decimal
  | .float x y => some (.float (x + y))
  | .double x y => some (.double (x + y))

/-- Checked difference. -/
def sub (a b : Numeric) : Option Numeric :=
  match promote a b with
  | .integer x y => (fit64 (x - y)).map .integer
  | .decimal x y => (x.sub y).map .decimal
  | .float x y => some (.float (x - y))
  | .double x y => some (.double (x - y))

/-- Checked product. -/
def mul (a b : Numeric) : Option Numeric :=
  match promote a b with
  | .integer x y => (fit64 (x * y)).map .integer
  | .decimal x y => (x.mul y).map .decimal
  | .float x y => some (.float (x * y))
  | .double x y => some (.double (x * y))

/-- Checked quotient; integers divide as decimals. -/
def div (a b : Numeric) : Option Numeric :=
  match promote a b with
  | .integer x y => ((Decimal.ofInt x).div (Decimal.ofInt y)).map .decimal
  | .decimal x y => (x.div y).map .decimal
  | .float x y => some (.float (x / y))
  | .double x y => some (.double (x / y))

/-- Checked negation, computed as `0 - a` for integers and decimals. -/
def neg : Numeric → Option Numeric
  | .integer i => (fit64 (0 - i)).map .integer
  | .decimal d => ((Decimal.ofInt 0).sub d).map .decimal
  | .float x => some (.float (-x))
  | .double x => some (.double (-x))

/-- Checked absolute value. -/
def abs : Numeric → Option Numeric
  | .integer i => if i < 0 then neg (.integer i) else some (.integer i)
  | .decimal d => if d.scaled < 0 then neg (.decimal d) else some (.decimal d)
  | .float x => some (.float (floatOfBits (x.toBits.toNat % BinaryFormat.binary32.signBit)))
  | .double x => some (.double (doubleOfBits (x.toBits.toNat % BinaryFormat.binary64.signBit)))

/-- `⌊x⌋` (`up = false`) or `⌈x⌉` of a double. -/
def roundDouble (up : Bool) (x : Float) : Float :=
  doubleOfBits (BinaryFormat.binary64.roundIntegral up x.toBits.toNat)

/-- `⌊x⌋` (`up = false`) or `⌈x⌉` of a single. -/
def roundFloat (up : Bool) (x : Float32) : Float32 :=
  floatOfBits (BinaryFormat.binary32.roundIntegral up x.toBits.toNat)

/-- The decimal of an integral double, if it fits. -/
def decimalOfIntegral (x : Float) : Option Decimal :=
  match BinaryFormat.binary64.decode x.toBits.toNat with
  | .finite negative m q =>
    let (n, d) := BinaryFormat.scaleTwo m q
    let v : Int := (n / d : Nat)
    (fit128 ((if negative then -v else v) * Int.pow 10 decimalPlaces)).map (⟨·⟩)
  | _ => none

/-- Applies a rounding of doubles and its counterpart on singles.  Integers are
unchanged; a decimal is rounded as the nearest double and read back. -/
def mapFractional (onFloat : Float32 → Float32) (onDouble : Float → Float) : Numeric → Option Numeric
  | .integer i => some (.integer i)
  | .decimal d => (decimalOfIntegral (onDouble (doubleOfBits d.toFloatBits))).map .decimal
  | .float x => some (.float (onFloat x))
  | .double x => some (.double (onDouble x))

/-- `ROUND`: `⌊x + 0.5⌋`. -/
def round : Numeric → Option Numeric :=
  mapFractional (fun x => roundFloat false (x + 0.5)) (fun x => roundDouble false (x + 0.5))

/-- `CEIL`. -/
def ceil : Numeric → Option Numeric := mapFractional (roundFloat true) (roundDouble true)

/-- `FLOOR`. -/
def floor : Numeric → Option Numeric := mapFractional (roundFloat false) (roundDouble false)

/-- The IEEE order of two doubles, read from their bits; `none` if one is NaN. -/
def compareDouble (x y : Float) : Option Ordering :=
  BinaryFormat.binary64.compareBits x.toBits.toNat y.toBits.toNat

/-- The IEEE order of two singles, read from their bits; `none` if one is NaN. -/
def compareFloat (x y : Float32) : Option Ordering :=
  BinaryFormat.binary32.compareBits x.toBits.toNat y.toBits.toNat

/-- The order of two values after promotion; `none` if a NaN takes part. -/
def partialCompare (a b : Numeric) : Option Ordering :=
  match promote a b with
  | .integer x y => some (compare x y)
  | .decimal x y => some (compare x.scaled y.scaled)
  | .float x y => compareFloat x y
  | .double x y => compareDouble x y

/-- Whether the value is neither zero nor NaN. -/
def isTruthy (a : Numeric) : Bool :=
  let x := a.toDouble
  !(x == 0.0) && !x.isNaN

end Numeric

/-- The literal of a 64-bit integer. -/
def integerLiteral (i : Int) : Literal := .typed (toString i) Xsd.integer

end SparqlBag
