import SparqlBag.Expr.Value
import SparqlBag.Text.Blank

/-!
# Casts

The constructor functions `xsd:string`, `xsd:integer`, `xsd:decimal`,
`xsd:double`, `xsd:float` and `xsd:boolean`, called like custom functions with
one argument.  A simple string is read after trimming white space; a boolean
counts as `0` or `1`; a number converts to the target type, a double or float
to an integer by truncation toward zero (an error beyond 64 bits) and to a
decimal through its shortest text.  `none` is the error value.
-/

namespace SparqlBag

namespace Cast

/-- The integer part of a double, if it is finite and below `2 ^ 63` in magnitude. -/
def truncateDouble (x : Float) : Option Int :=
  match BinaryFormat.binary64.decode x.toBits.toNat with
  | .finite negative m q =>
    let (n, d) := BinaryFormat.scaleTwo m q
    let whole := n / d
    if whole ≥ Nat.pow 2 63 then none
    else some (if negative then -(whole : Int) else whole)
  | _ => none

/-- The literal of a double. -/
def doubleTerm (x : Float) : Term := Numeric.toTerm (.double x)

/-- The literal of a single. -/
def floatTerm (x : Float32) : Term := Numeric.toTerm (.float x)

/-- The literal of a decimal. -/
def decimalTerm (d : Decimal) : Term := Numeric.toTerm (.decimal d)

/-- `xsd:string`: the text of an IRI or the lexical form of a literal. -/
def toStringTerm : Term → Option Term
  | .iri i => some (.literal (.simple i))
  | .literal l => some (.literal (.simple l.value))
  | .blank _ => none

/-- The value of a boolean literal as `0` or `1`. -/
def booleanDigit (l : Literal) : Option Int :=
  (parseBoolean l.value).map fun b => if b then 1 else 0

/-- `xsd:integer`. -/
def toInteger (t : Term) : Option Term := do
  let .literal l := t | none
  if let some s := plainStringArg t then
    return .literal (integerLiteral (← parseInt64 (trimWhiteSpace s)))
  if l.datatype == Xsd.boolean then
    return .literal (integerLiteral (← booleanDigit l))
  match ← Numeric.ofLiteral l with
  | .integer i => return .literal (integerLiteral i)
  | .decimal d =>
    let whole := (d.toText.splitOn ".").headD "0"
    return .literal (integerLiteral (← parseInt64 whole))
  | n => return .literal (integerLiteral (← truncateDouble n.toDouble))

/-- `xsd:decimal`. -/
def toDecimal (t : Term) : Option Term := do
  let .literal l := t | none
  if let some s := plainStringArg t then
    return decimalTerm (← Decimal.parse (trimWhiteSpace s))
  if l.datatype == Xsd.boolean then
    return decimalTerm (Decimal.ofInt (← booleanDigit l))
  match ← Numeric.ofLiteral l with
  | .integer i => return decimalTerm (Decimal.ofInt i)
  | .decimal d => return decimalTerm d
  | n =>
    let x := n.toDouble
    if x.isNaN || x.isInf then none
    return decimalTerm (← Decimal.parse (Float.displayText x))

/-- The double a cast to `xsd:double` or `xsd:float` starts from. -/
def toDoubleValue (t : Term) : Option Float := do
  let .literal l := t | none
  if let some s := plainStringArg t then
    return Numeric.doubleOfBits (← BinaryFormat.binary64.parse (trimWhiteSpace s))
  if l.datatype == Xsd.boolean then
    return if (← booleanDigit l) == 1 then 1.0 else 0.0
  return (← Numeric.ofLiteral l).toDouble

/-- `xsd:boolean`. -/
def toBoolean (t : Term) : Option Term := do
  let .literal l := t | none
  if let some s := plainStringArg t then
    return .ofBool (← parseBoolean (trimWhiteSpace s))
  if l.datatype == Xsd.boolean then
    return .ofBool (← parseBoolean l.value)
  return .ofBool (← Numeric.ofLiteral l).isTruthy

end Cast

/-- Casts a term to a datatype; `none` when the datatype has no constructor
function, `some none` when the cast fails. -/
def castTo (datatype : String) (t : Term) : Option (Option Term) :=
  if datatype == Xsd.string then some (Cast.toStringTerm t)
  else if datatype == Xsd.integer then some (Cast.toInteger t)
  else if datatype == Xsd.decimal then some (Cast.toDecimal t)
  else if datatype == Xsd.double then some ((Cast.toDoubleValue t).map Cast.doubleTerm)
  else if datatype == Xsd.float then
    some ((Cast.toDoubleValue t).map fun x => Cast.floatTerm (Numeric.doubleToFloat x))
  else if datatype == Xsd.boolean then some (Cast.toBoolean t)
  else none

end SparqlBag
