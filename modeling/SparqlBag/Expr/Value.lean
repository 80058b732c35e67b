import SparqlBag.Term.Order

/-!
# Values of expressions

Evaluating an expression for one solution gives a term, the unbound value, or
an error; errors stay local to the solution and never stop the query.

The effective boolean value of a boolean is its value, of a plain string that
it is non-empty, and of a number that it is neither zero nor NaN (an invalid
boolean or number is false); every other term has none.  Equality compares
literal values where they are comparable and is an error for two different
literals of which one has an unknown datatype; ordering exists only between
comparable literals.
-/

namespace SparqlBag

/-- The value of an expression for one solution. -/
inductive ExprValue where
  | bound (t : Term)
  | unbound
  | error
  deriving DecidableEq, Hashable, Inhabited, Repr

namespace ExprValue

/-- The term, if the value is one. -/
def term? : ExprValue → Option Term
  | .bound t => some t
  | _ => none

def ofBool (b : Bool) : ExprValue := .bound (.ofBool b)

/-- A computation that may fail with an error value. -/
def ofOption : Option Term → ExprValue
  | some t => .bound t
  | none => .error

end ExprValue

/-- The effective boolean value of a term; `none` when it has none. -/
def effectiveBooleanValue : Term → Option Bool
  | .literal l =>
    let d := l.datatype
    if d == Xsd.boolean then some ((booleanOfLiteral l).getD false)
    else if d == Xsd.string then some (!l.value.isEmpty)
    else if Xsd.isNumericType d then
      some ((Numeric.ofLiteral l).any fun n =>
        let x := n.toDouble
        !(x == 0.0) && !x.isNaN)
    else none
  | _ => none

/-- Whether a literal has one of the datatypes whose values the engine knows. -/
def Literal.hasKnownDatatype (l : Literal) : Bool :=
  let d := l.datatype
  d == Xsd.string || d == Rdf.langString || d == Xsd.boolean || d == Xsd.dateTime ||
    Xsd.isNumericType d

/-- SPARQL `=`: the value comparison of literals, term identity otherwise. -/
def termEquals : Term → Term → Option Bool
  | .literal a, .literal b =>
    match partialCompareLiteralValues a b with
    | some o => some (o == .eq)
    | none =>
      if a == b then some true
      else if a.hasKnownDatatype && b.hasKnownDatatype then some false
      else none
  | a, b => some (a == b)

/-- SPARQL `<` and its relatives: the order of two comparable literals. -/
def termCompare : Term → Term → Option Ordering
  | .literal a, .literal b => partialCompareLiteralValues a b
  | _, _ => none

/-- A plain or language-tagged string argument: its text and language. -/
def stringArg : Term → Option (String × Option String)
  | .literal l =>
    if l.datatype == Xsd.string || l.datatype == Rdf.langString then some (l.value, l.language)
    else none
  | _ => none

/-- A string argument without a language. -/
def plainStringArg (t : Term) : Option String :=
  match stringArg t with
  | some (s, none) => some s
  | _ => none

/-- The numeric value of a term. -/
def numericArg : Term → Option Numeric
  | .literal l => Numeric.ofLiteral l
  | _ => none

/-- A string literal with an optional language. -/
def stringTerm (value : String) : Option String → Term
  | some lang => .literal (.tagged value lang)
  | none => .literal (.simple value)

/-- The term of a numeric value. -/
def Numeric.toTerm (n : Numeric) : Term := .literal n.toLiteral

end SparqlBag
