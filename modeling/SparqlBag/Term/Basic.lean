/-!
# RDF terms

The values a query works on: IRIs, blank nodes and literals, the variables that
stand for them in patterns, and the quads a store holds.

A literal is one of three shapes.  A simple literal has the datatype
`xsd:string`, a language-tagged literal has `rdf:langString`, and every other
literal carries its datatype IRI.  `Literal.ofTyped` is the one place that turns
the datatype `xsd:string` into a simple literal, so two literals that denote the
same RDF term are always equal as Lean values.  Lexical forms are never
normalised: `"01"^^xsd:integer` stays `"01"`.
-/

namespace SparqlBag

/-- The namespace of the XML Schema datatypes. -/
def xsdNs : String := "http://www.w3.org/2001/XMLSchema#"

/-- The namespace of the RDF vocabulary. -/
def rdfNs : String := "http://www.w3.org/1999/02/22-rdf-syntax-ns#"

namespace Xsd

/-- `xsd:string`. -/
def string : String := xsdNs ++ "string"
/-- `xsd:boolean`. -/
def boolean : String := xsdNs ++ "boolean"
/-- `xsd:integer`. -/
def integer : String := xsdNs ++ "integer"
/-- `xsd:decimal`. -/
def decimal : String := xsdNs ++ "decimal"
/-- `xsd:float`. -/
def float : String := xsdNs ++ "float"
/-- `xsd:double`. -/
def double : String := xsdNs ++ "double"
/-- `xsd:dateTime`. -/
def dateTime : String := xsdNs ++ "dateTime"

/-- `xsd:integer` and the twelve datatypes derived from it.  All of them are
read as 64-bit integers, without the range checks of the derived types. -/
def integerTypes : List String :=
  ["integer", "byte", "short", "int", "long", "unsignedByte", "unsignedShort",
   "unsignedInt", "unsignedLong", "positiveInteger", "negativeInteger",
   "nonPositiveInteger", "nonNegativeInteger"].map (xsdNs ++ ·)

/-- Whether a datatype is read as an integer. -/
def isIntegerType (datatype : String) : Bool := integerTypes.contains datatype

/-- Whether a datatype is one of the numeric datatypes. -/
def isNumericType (datatype : String) : Bool :=
  datatype == decimal || datatype == float || datatype == double || isIntegerType datatype

end Xsd

namespace Rdf

/-- `rdf:langString`. -/
def langString : String := rdfNs ++ "langString"
/-- `rdf:type`, the predicate written `a`. -/
def type : String := rdfNs ++ "type"
/-- `rdf:first`. -/
def first : String := rdfNs ++ "first"
/-- `rdf:rest`. -/
def rest : String := rdfNs ++ "rest"
/-- `rdf:nil`. -/
def nil : String := rdfNs ++ "nil"

end Rdf

/-- An RDF literal. -/
inductive Literal where
  /-- A literal of datatype `xsd:string`. -/
  | simple (value : String)
  /-- A literal with a (lower-case) language tag, of datatype `rdf:langString`. -/
  | tagged (value : String) (language : String)
  /-- A literal of any other datatype. -/
  | typed (value : String) (datatype : String)
  deriving DecidableEq, Hashable, Inhabited, Repr

namespace Literal

/-- A literal with the given datatype; `xsd:string` gives a simple literal. -/
def ofTyped (value datatype : String) : Literal :=
  if datatype == Xsd.string then .simple value else .typed value datatype

/-- The lexical form. -/
def value : Literal → String
  | .simple v => v
  | .tagged v _ => v
  | .typed v _ => v

/-- The language tag, if any. -/
def language : Literal → Option String
  | .tagged _ l => some l
  | _ => none

/-- The datatype IRI. -/
def datatype : Literal → String
  | .simple _ => Xsd.string
  | .tagged _ _ => Rdf.langString
  | .typed _ d => d

/-- The literal `"true"` or `"false"` of datatype `xsd:boolean`. -/
def ofBool (b : Bool) : Literal := .typed (if b then "true" else "false") Xsd.boolean

end Literal

/-- An RDF term: an IRI, a blank node or a literal. -/
inductive Term where
  | iri (value : String)
  | blank (label : String)
  | literal (lit : Literal)
  deriving DecidableEq, Hashable, Inhabited, Repr

namespace Term

/-- The literal `"true"` or `"false"`. -/
def ofBool (b : Bool) : Term := .literal (Literal.ofBool b)

/-- Whether the term is an IRI. -/
def isIri : Term → Bool
  | .iri _ => true
  | _ => false

/-- Whether the term is a blank node. -/
def isBlank : Term → Bool
  | .blank _ => true
  | _ => false

/-- Whether the term is a literal. -/
def isLiteral : Term → Bool
  | .literal _ => true
  | _ => false

end Term

/-- A query variable, named without its `?`. -/
structure Variable where
  name : String
  deriving DecidableEq, Hashable, Inhabited, Repr

/-- The prefix of the variables that path lowering introduces. -/
def pathVariablePrefix : String := "__path"

/-- The prefix of the variables that stand for blank nodes of a pattern. -/
def blankVariablePrefix : String := "__bnode_"

/-- A variable the engine introduced itself.  Hidden variables never reach
results, never seed an `EXISTS` and are ignored by `COUNT(DISTINCT *)`. -/
def Variable.isHidden (v : Variable) : Bool :=
  v.name.startsWith pathVariablePrefix || v.name.startsWith blankVariablePrefix

/-- A position of a triple pattern: a term or a variable. -/
inductive TermPattern where
  | term (t : Term)
  | var (v : Variable)
  deriving DecidableEq, Hashable, Inhabited, Repr

/-- The predicate position of a triple pattern: an IRI or a variable. -/
inductive IriPattern where
  | iri (value : String)
  | var (v : Variable)
  deriving DecidableEq, Hashable, Inhabited, Repr

/-- The term an IRI pattern stands for as a term pattern. -/
def IriPattern.toTermPattern : IriPattern → TermPattern
  | .iri i => .term (.iri i)
  | .var v => .var v

/-- A triple pattern. -/
structure TriplePattern where
  subject : TermPattern
  predicate : IriPattern
  object : TermPattern
  deriving DecidableEq, Hashable, Inhabited, Repr

/-- An RDF triple. -/
structure Triple where
  subject : Term
  predicate : String
  object : Term
  deriving DecidableEq, Hashable, Inhabited, Repr

/-- The graph of a quad: the default graph or a named graph (an IRI or a blank
node). -/
inductive GraphName where
  | default
  | named (name : Term)
  deriving DecidableEq, Hashable, Inhabited, Repr

/-- An RDF quad. -/
structure Quad where
  subject : Term
  predicate : String
  object : Term
  graph : GraphName
  deriving DecidableEq, Hashable, Inhabited, Repr

/-- The triple of a quad. -/
def Quad.triple (q : Quad) : Triple := ⟨q.subject, q.predicate, q.object⟩

end SparqlBag
