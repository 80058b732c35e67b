import SparqlBag.Term.Basic

/-!
# The SPARQL algebra

The tree a query text is parsed into and the engine evaluates: graph patterns,
the expressions inside them, aggregates and property paths.  Expressions and
graph patterns are one mutual family because `EXISTS` puts a graph pattern
inside an expression.

The shapes follow the SPARQL 1.1 algebra with the usual simplifications of a
parser that builds it directly: `!=` is `NOT (=)`, `NOT IN` is `NOT (IN)`, `NOT
EXISTS` is `NOT (EXISTS)`, a `GROUP BY (e AS ?v)` is an `extend` below the
`group`, and `SELECT` expressions are `extend`s below the `project`.
-/

namespace SparqlBag

/-- A property path expression. -/
inductive PropertyPath where
  | iri (value : String)
  | reverse (inner : PropertyPath)
  | sequence (first second : PropertyPath)
  | alternative (left right : PropertyPath)
  | zeroOrMore (inner : PropertyPath)
  | oneOrMore (inner : PropertyPath)
  | zeroOrOne (inner : PropertyPath)
  /-- `!(p₁ | … | pₙ)` over forward IRIs. -/
  | negated (iris : List String)
  deriving DecidableEq, Hashable, Inhabited, Repr

/-- The built-in functions, and functions named by an IRI. -/
inductive Function where
  | str | lang | langMatches | datatype | iri | bnode | rand | abs | ceil | floor | round
  | concat | subStr | strLen | replace | ucase | lcase | encodeForUri | contains
  | strStarts | strEnds | strBefore | strAfter | year | month | day | hours | minutes
  | seconds | timezone | tz | now | uuid | strUuid | md5 | sha1 | sha256 | sha384 | sha512
  | strLang | strDt | isIri | isBlank | isLiteral | isNumeric | regex
  | custom (name : String)
  deriving DecidableEq, Hashable, Inhabited, Repr

namespace Function

/-- The built-in functions with their SPARQL names. -/
def builtins : List (String × Function) :=
  [("STR", .str), ("LANG", .lang), ("LANGMATCHES", .langMatches), ("DATATYPE", .datatype),
   ("IRI", .iri), ("BNODE", .bnode), ("RAND", .rand), ("ABS", .abs), ("CEIL", .ceil),
   ("FLOOR", .floor), ("ROUND", .round), ("CONCAT", .concat), ("SUBSTR", .subStr),
   ("STRLEN", .strLen), ("REPLACE", .replace), ("UCASE", .ucase), ("LCASE", .lcase),
   ("ENCODE_FOR_URI", .encodeForUri), ("CONTAINS", .contains), ("STRSTARTS", .strStarts),
   ("STRENDS", .strEnds), ("STRBEFORE", .strBefore), ("STRAFTER", .strAfter), ("YEAR", .year),
   ("MONTH", .month), ("DAY", .day), ("HOURS", .hours), ("MINUTES", .minutes),
   ("SECONDS", .seconds), ("TIMEZONE", .timezone), ("TZ", .tz), ("NOW", .now), ("UUID", .uuid),
   ("STRUUID", .strUuid), ("MD5", .md5), ("SHA1", .sha1), ("SHA256", .sha256),
   ("SHA384", .sha384), ("SHA512", .sha512), ("STRLANG", .strLang), ("STRDT", .strDt),
   ("isIRI", .isIri), ("isBLANK", .isBlank), ("isLITERAL", .isLiteral),
   ("isNUMERIC", .isNumeric), ("REGEX", .regex)]

/-- The SPARQL name of a built-in function, or the IRI of a custom one. -/
def name : Function → String
  | .custom n => n
  | f => ((builtins.find? (·.2 == f)).map (·.1)).getD ""

end Function

/-- The functions an aggregate applies. -/
inductive AggregateFunction where
  | count | sum | avg | min | max | sample
  | groupConcat (separator : Option String)
  | custom (name : String)
  deriving DecidableEq, Hashable, Inhabited, Repr

mutual

/-- A SPARQL expression. -/
inductive Expression where
  | iri (value : String)
  | literal (value : Literal)
  | var (v : Variable)
  | or (left right : Expression)
  | and (left right : Expression)
  | equal (left right : Expression)
  | sameTerm (left right : Expression)
  | greater (left right : Expression)
  | greaterOrEqual (left right : Expression)
  | less (left right : Expression)
  | lessOrEqual (left right : Expression)
  | «in» (needle : Expression) (haystack : List Expression)
  | add (left right : Expression)
  | subtract (left right : Expression)
  | multiply (left right : Expression)
  | divide (left right : Expression)
  | unaryPlus (inner : Expression)
  | unaryMinus (inner : Expression)
  | not (inner : Expression)
  | «exists» (pattern : GraphPattern)
  | bound (v : Variable)
  | «if» (condition thenBranch elseBranch : Expression)
  | coalesce (alternatives : List Expression)
  | call (function : Function) (args : List Expression)

/-- A graph pattern. -/
inductive GraphPattern where
  | bgp (patterns : List TriplePattern)
  | path (subject : TermPattern) (path : PropertyPath) (object : TermPattern)
  | join (left right : GraphPattern)
  | leftJoin (left right : GraphPattern) (filter : Option Expression)
  | filter (condition : Expression) (inner : GraphPattern)
  | union (left right : GraphPattern)
  | graph (name : IriPattern) (inner : GraphPattern)
  | extend (inner : GraphPattern) (v : Variable) (expr : Expression)
  | minus (left right : GraphPattern)
  | values (vars : List Variable) (rows : List (List (Option Term)))
  | orderBy (inner : GraphPattern) (keys : List OrderKey)
  | project (inner : GraphPattern) (vars : List Variable)
  | distinct (inner : GraphPattern)
  | reduced (inner : GraphPattern)
  | slice (inner : GraphPattern) (start : Nat) (length : Option Nat)
  | group (inner : GraphPattern) (vars : List Variable) (aggregates : List (Variable × Aggregate))
  | service (name : IriPattern) (inner : GraphPattern) (silent : Bool)

/-- An `ORDER BY` key. -/
inductive OrderKey where
  | asc (expr : Expression)
  | desc (expr : Expression)

/-- An aggregate. -/
inductive Aggregate where
  | countSolutions (distinct : Bool)
  | call (function : AggregateFunction) (expr : Expression) (distinct : Bool)

end

deriving instance BEq for Expression, GraphPattern, OrderKey, Aggregate

instance : Inhabited GraphPattern := ⟨.bgp []⟩
instance : Inhabited Expression := ⟨.bound ⟨""⟩⟩

/-- The graphs a query reads: `FROM` and `FROM NAMED`. -/
structure QueryDataset where
  defaultGraphs : List Term
  namedGraphs : Option (List Term)
  deriving DecidableEq, Inhabited, Repr

/-- The four query forms. -/
inductive QueryForm where
  | select
  | ask
  | construct (template : List TriplePattern)
  | describe

/-- A parsed query. -/
structure Query where
  form : QueryForm
  dataset : Option QueryDataset
  pattern : GraphPattern
  baseIri : Option String

/-- Adds `v` at the end of `vs` unless it is there already. -/
def pushNew {α : Type} [BEq α] (vs : List α) (v : α) : List α :=
  if vs.contains v then vs else vs ++ [v]

mutual

/-- The variables a pattern binds in its solutions, in the order the parser
meets them: for `extend` the new variable comes before those of the inner
pattern, for `minus` only the left side counts, and a `project` or `group`
exposes exactly its own variables. -/
def GraphPattern.inScope : GraphPattern → List Variable
  | .bgp ps => ps.flatMap TriplePattern.vars
  | .path s _ o => termPatternVars s ++ termPatternVars o
  | .join l r | .leftJoin l r _ | .union l r => l.inScope ++ r.inScope
  | .graph name inner =>
    (match name with | .var v => [v] | .iri _ => []) ++ inner.inScope
  | .extend inner v _ => v :: inner.inScope
  | .minus l _ => l.inScope
  | .values vs _ | .project _ vs => vs
  | .service _ inner _ | .filter _ inner | .orderBy inner _ | .distinct inner
  | .reduced inner | .slice inner _ _ => inner.inScope
  | .group _ vs aggs => vs ++ aggs.map (·.1)

/-- The variables of a term pattern. -/
def termPatternVars : TermPattern → List Variable
  | .var v => [v]
  | .term _ => []

/-- The variables of a triple pattern, subject first. -/
def TriplePattern.vars (t : TriplePattern) : List Variable :=
  termPatternVars t.subject ++
    (match t.predicate with | .var v => [v] | .iri _ => []) ++ termPatternVars t.object

end

mutual

/-- Whether every variable an expression reads is in `vars`; `BOUND`,
`COALESCE` and `EXISTS` count as reading none. -/
def Expression.variablesBound (e : Expression) (vars : List Variable) : Bool :=
  match e with
  | .iri _ | .literal _ | .bound _ | .coalesce _ | .exists _ => true
  | .var v => vars.contains v
  | .unaryPlus a | .unaryMinus a | .not a => a.variablesBound vars
  | .or a b | .and a b | .equal a b | .sameTerm a b | .greater a b | .greaterOrEqual a b
  | .less a b | .lessOrEqual a b | .add a b | .subtract a b | .multiply a b | .divide a b =>
    a.variablesBound vars && b.variablesBound vars
  | .in a l => a.variablesBound vars && Expression.allBound l vars
  | .call _ args => Expression.allBound args vars
  | .if a b c => a.variablesBound vars && b.variablesBound vars && c.variablesBound vars

/-- Whether every expression of a list reads only variables of `vars`. -/
def Expression.allBound (es : List Expression) (vars : List Variable) : Bool :=
  match es with
  | [] => true
  | e :: rest => e.variablesBound vars && Expression.allBound rest vars

end

/-- The in-scope variables without repetitions, in first-seen order. -/
def GraphPattern.inScopeDistinct (p : GraphPattern) : List Variable :=
  p.inScope.foldl pushNew []

end SparqlBag
