import SparqlBag.Number.Numeric
import SparqlBag.Term.DateTime

/-!
# The order of terms

`compareTerms` is the total order used by `ORDER BY`, `MIN` and `MAX`:
unbound values first, then blank nodes, IRIs and literals.  Blank nodes and
IRIs compare by their text.  Two literals compare by value when their values
are comparable and different (numbers, booleans, date-times, strings of the
same kind), and otherwise lexically: simple literals before language-tagged
ones before the others, then by lexical form, language and datatype.

`fastCompareTerms` skips the value comparison of literals.

Texts compare by code points, which is the byte order of their UTF-8 encoding.
-/

namespace SparqlBag

/-- Reads the lexical forms of `xsd:boolean`: `true`, `1`, `false`, `0`. -/
def parseBoolean (text : String) : Option Bool :=
  if text == "true" || text == "1" then some true
  else if text == "false" || text == "0" then some false
  else none

/-- The value of a literal of datatype `xsd:boolean`. -/
def booleanOfLiteral (l : Literal) : Option Bool :=
  if l.datatype == Xsd.boolean then parseBoolean l.value else none

/-- Orders `none` before every `some`, and values by `cmp`. -/
def compareOption {α : Type} (cmp : α → α → Ordering) : Option α → Option α → Ordering
  | none, none => .eq
  | none, some _ => .lt
  | some _, none => .gt
  | some a, some b => cmp a b

/-- Simple literals rank first, then language-tagged ones, then all others. -/
def Literal.kindRank (l : Literal) : Nat :=
  match l with
  | .simple _ => 0
  | .tagged _ _ => 1
  | .typed _ _ => 2

/-- The lexical order of literals: kind, lexical form, language, datatype. -/
def compareLiteralsLexically (a b : Literal) : Ordering :=
  (compare a.kindRank b.kindRank).then <|
  (compare a.value b.value).then <|
  (compareOption compare a.language b.language).then <|
  compare a.datatype b.datatype

/-- The order of two literal values, when both are numbers, strings, strings
of the same language, booleans or date-times. -/
def partialCompareLiteralValues (a b : Literal) : Option Ordering :=
  match Numeric.ofLiteral a, Numeric.ofLiteral b with
  | some x, some y => x.partialCompare y
  | _, _ =>
    let da := a.datatype
    let db := b.datatype
    if da == Xsd.string && db == Xsd.string then some (compare a.value b.value)
    else if da == Rdf.langString && db == Rdf.langString then
      if a.language == b.language then some (compare a.value b.value) else none
    else if da == Xsd.boolean && db == Xsd.boolean then
      match booleanOfLiteral a, booleanOfLiteral b with
      | some x, some y => some (compare x y)
      | _, _ => none
    else if da == Xsd.dateTime && db == Xsd.dateTime then
      match DateTime.parse a.value, DateTime.parse b.value with
      | some x, some y => x.partialCompare y
      | _, _ => none
    else none

/-- The rank of a term kind: unbound, blank node, IRI, literal. -/
def termKindRank : Option Term → Nat
  | none => 0
  | some (.blank _) => 1
  | some (.iri _) => 2
  | some (.literal _) => 3

/-- The order of a pair that is not two literals: by kind, then by text. -/
def compareNonLiterals (a b : Option Term) : Ordering :=
  (compare (termKindRank a) (termKindRank b)).then <|
    match a, b with
    | some (.blank x), some (.blank y) => compare x y
    | some (.iri x), some (.iri y) => compare x y
    | _, _ => .eq

/-- The total order of optional terms. -/
def compareTerms (a b : Option Term) : Ordering :=
  match a, b with
  | some (.literal x), some (.literal y) =>
    match partialCompareLiteralValues x y with
    | some .lt => .lt
    | some .gt => .gt
    | _ => compareLiteralsLexically x y
  | _, _ => compareNonLiterals a b

/-- The total order of optional terms with literals compared lexically only. -/
def fastCompareTerms (a b : Option Term) : Ordering :=
  match a, b with
  | some (.literal x), some (.literal y) => compareLiteralsLexically x y
  | _, _ => compareTerms a b

end SparqlBag
