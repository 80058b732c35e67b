import SparqlBag.Syntax.Reader

/-!
# The SPARQL grammar

Graph patterns, triples with property paths, expressions, aggregates and solution
modifiers, read by recursive descent with ordered choice; every nonterminal takes
fuel bounding the depth, so a text nested too deep is a syntax error.  The algebra
is built while reading: consecutive triples form one basic graph pattern and a
path that is no IRI, inverse or sequence a path pattern; `OPTIONAL`, `MINUS` and
`BIND` apply to what precedes them, other patterns join (adjacent basic graph
patterns merge), and filters wrap the group.  An aggregate is replaced by a fresh
variable that the enclosing `GROUP BY` binds, the same one for the same aggregate.
-/

namespace SparqlBag

/-- A triple pattern or a path pattern, as read from a block of triples. -/
inductive TripleOrPath where
  | triple (t : TriplePattern)
  | path (subject : TermPattern) (path : PropertyPath) (object : TermPattern)

/-- The predicate of a triple as written: a variable or a path. -/
inductive Verb where
  | var (v : Variable)
  | path (p : PropertyPath)

/-- A node of a triple and the triples its writing produced. -/
structure Focused (α : Type) where
  focus : α
  patterns : List TripleOrPath

/-- A piece of a group graph pattern, before the group is assembled. -/
inductive GroupPart where
  | optional (p : GraphPattern) (filter : Option Expression)
  | minus (p : GraphPattern)
  | bind (e : Expression) (v : Variable)
  | filter (e : Expression)
  | other (p : GraphPattern)

/-- A member of a `SELECT` clause. -/
inductive SelectMember where
  | var (v : Variable)
  | expr (e : Expression) (v : Variable)

/-- What a query form projects. -/
inductive Projection where
  | explicit (members : List SelectMember)
  | star
  /-- No projection at all (`ASK`, `CONSTRUCT`, `DESCRIBE *`). -/
  | everything

/-- `DISTINCT`, `REDUCED` or neither. -/
inductive SelectModifier where
  | none | distinct | reduced

/-- A `SELECT` clause. -/
structure Selection where
  modifier : SelectModifier
  projection : Projection

/-- The solution modifiers after a `WHERE` clause. -/
structure Modifiers where
  group : Option (List Variable × List (Expression × Variable))
  having : Option Expression
  orderBy : Option (List OrderKey)
  slice : Option (Nat × Option Nat)
  values : Option GraphPattern

/-- Joins two patterns, dropping empty basic graph patterns and merging two
basic graph patterns into one. -/
def newJoin (l r : GraphPattern) : GraphPattern :=
  match l, r with
  | .bgp [], r => r
  | l, .bgp [] => l
  | .bgp a, .bgp b => .bgp (a ++ b)
  | l, r => .join l r

/-- Groups consecutive triples into basic graph patterns, keeps path patterns
apart, and joins the pieces from left to right. -/
def buildBgp (items : List TripleOrPath) : GraphPattern :=
  let (pieces, pending) := items.foldl (fun (acc : List GraphPattern × List TriplePattern) item =>
    match item with
    | .triple t => (acc.1, acc.2 ++ [t])
    | .path s p o =>
      let flushed := if acc.2.isEmpty then acc.1 else acc.1 ++ [.bgp acc.2]
      (flushed ++ [.path s p o], [])) ([], [])
  let pieces := if pending.isEmpty then pieces else pieces ++ [.bgp pending]
  match pieces with
  | [] => .bgp []
  | first :: rest => rest.foldl newJoin first

namespace Parser

/-- A fresh blank node. -/
def freshBlank : Parser TermPattern := do
  pure (.term (.blank (← freshName)))

/-- The triple and path patterns of `s p o` for a predicate that may be a path:
an IRI or a variable gives a triple, an inverse swaps the ends, a sequence
goes through a fresh blank node, and every other path gives a path pattern. -/
def pathPatterns (s : TermPattern) (p : PropertyPath) (o : TermPattern) : Parser (List TripleOrPath) :=
  match p with
  | .iri i => pure [.triple ⟨s, .iri i, o⟩]
  | .reverse q => pathPatterns o q s
  | .sequence a b => do
    let middle ← freshBlank
    let l ← pathPatterns s a middle
    let r ← pathPatterns middle b o
    pure (l ++ r)
  | other => pure [.path s other o]

/-- The patterns of `s v o`. -/
def verbPatterns (s : TermPattern) (v : Verb) (o : TermPattern) : Parser (List TripleOrPath) :=
  match v with
  | .var x => pure [.triple ⟨s, .var x, o⟩]
  | .path p => pathPatterns s p o

/-- The patterns of a subject with its predicates and objects. -/
def subjectPatterns (s : TermPattern) (po : List (Verb × List TermPattern)) : Parser (List TripleOrPath) := do
  let mut out := []
  for (v, os) in po do
    for o in os do
      out := out ++ (← verbPatterns s v o)
  pure out

/-- The variable an aggregate is replaced by, in the innermost `SELECT`. -/
def newAggregation (agg : Aggregate) : Parser Variable := do
  let s ← get
  match s.aggregates with
  | [] => failure
  | top :: rest =>
    match top.find? (fun (_, a) => a == agg) with
    | some (v, _) => pure v
    | none =>
      let v : Variable := ⟨← freshName⟩
      modify fun s => { s with aggregates := (top ++ [(v, agg)]) :: rest }
      pure v

/-- Removes the aggregates of the innermost `SELECT`. -/
def popAggregates : Parser (List (Variable × Aggregate)) := do
  let s ← get
  match s.aggregates with
  | [] => pure []
  | top :: rest =>
    set { s with aggregates := rest }
    pure top

/-- A variable or an IRI. -/
def varOrIri : Parser IriPattern := (IriPattern.var <$> var) <|> (IriPattern.iri <$> iri)

/-- An RDF term written in a pattern. -/
def graphTerm : Parser Term :=
  (Term.iri <$> iri) <|> (Term.literal <$> rdfLiteral) <|> (Term.literal <$> numericLiteral) <|>
  (Term.literal <$> booleanLiteral) <|> (Term.blank <$> blankNode) <|> (nil *> pure (Term.iri Rdf.nil))

/-- A variable or an RDF term. -/
def varOrTerm : Parser TermPattern := (TermPattern.var <$> var) <|> (TermPattern.term <$> graphTerm)

/-- A value of a `VALUES` block: an IRI, a literal or `UNDEF`. -/
def dataBlockValue : Parser (Option Term) :=
  ((some ∘ Term.iri) <$> iri) <|> ((some ∘ Term.literal) <$> rdfLiteral) <|>
  ((some ∘ Term.literal) <$> numericLiteral) <|> ((some ∘ Term.literal) <$> booleanLiteral) <|>
  (keyword "UNDEF" *> pure none)

/-- The body of a `VALUES` block: one variable and its values, or a list of
variables and rows of the same length. -/
def dataBlock : Parser GraphPattern :=
  (do
    let v ← var
    skip
    char '{'
    skip
    let vals ← many (dataBlockValue <* skip)
    char '}'
    pure (.values [v] (vals.map ([·])))) <|>
  (do
    char '('
    skip
    let vars ← many (var <* skip)
    skip
    char ')'
    skip
    char '{'
    skip
    let rows ← many (do
      char '('
      skip
      let row ← many (dataBlockValue <* skip)
      skip
      char ')'
      skip
      pure row)
    char '}'
    if rows.all (·.length == vars.length) then pure (.values vars rows) else failure)

/-- A count of `LIMIT` or `OFFSET`: digits within 64 bits. -/
def count : Parser Nat := do
  let ds ← digits
  let n := digitsValue ds
  if n < Nat.pow 2 64 then pure n else failure

/-- `LIMIT` and `OFFSET` in either order: the start and the optional length. -/
def limitOffset : Parser (Nat × Option Nat) :=
  (do
    keyword "LIMIT"
    skip
    let l ← count
    skip
    let o ← opt (keyword "OFFSET" *> skip *> count)
    pure (o.getD 0, some l)) <|>
  (do
    keyword "OFFSET"
    skip
    let o ← count
    skip
    let l ← opt (keyword "LIMIT" *> skip *> count)
    pure (o, l))

/-- The one-argument built-in functions. -/
def unaryBuiltins : List (String × Function) :=
  [("STR", .str), ("LANG", .lang), ("DATATYPE", .datatype), ("IRI", .iri), ("URI", .iri),
   ("ABS", .abs), ("CEIL", .ceil), ("FLOOR", .floor), ("ROUND", .round), ("STRLEN", .strLen),
   ("UCASE", .ucase), ("LCASE", .lcase), ("ENCODE_FOR_URI", .encodeForUri), ("YEAR", .year),
   ("MONTH", .month), ("DAY", .day), ("HOURS", .hours), ("MINUTES", .minutes),
   ("SECONDS", .seconds), ("TIMEZONE", .timezone), ("TZ", .tz), ("MD5", .md5), ("SHA1", .sha1),
   ("SHA256", .sha256), ("SHA384", .sha384), ("SHA512", .sha512), ("ISIRI", .isIri),
   ("ISURI", .isIri), ("ISBLANK", .isBlank), ("ISLITERAL", .isLiteral), ("ISNUMERIC", .isNumeric)]

/-- The two-argument built-in functions. -/
def binaryBuiltins : List (String × Function) :=
  [("LANGMATCHES", .langMatches), ("CONTAINS", .contains), ("STRSTARTS", .strStarts),
   ("STRENDS", .strEnds), ("STRBEFORE", .strBefore), ("STRAFTER", .strAfter),
   ("STRLANG", .strLang), ("STRDT", .strDt)]

/-- The built-in functions without arguments. -/
def nullaryBuiltins : List (String × Function) :=
  [("RAND", .rand), ("NOW", .now), ("UUID", .uuid), ("STRUUID", .strUuid)]

/-- The built-in calls whose name is followed by `(` directly, with no white
space between. -/
def adjacentBuiltins : List String :=
  ["BNODE", "CONCAT", "ENCODE_FOR_URI", "MD5", "SHA1", "SHA256", "SHA384", "SHA512", "COALESCE",
   "SAMETERM", "ISBLANK", "ISLITERAL", "ISNUMERIC"]

/-- The name of a built-in call or aggregate, upper-cased. -/
def builtinName : Parser String := do
  let cs ← many1 (satisfy (fun c => Iri.isAlpha c || c.isDigit || c == '_'))
  pure (String.ofList (cs.map Char.toUpper))

/-- The aggregate functions that take an expression. -/
def aggregateFunctions : List (String × AggregateFunction) :=
  [("COUNT", .count), ("SUM", .sum), ("MIN", .min), ("MAX", .max), ("AVG", .avg), ("SAMPLE", .sample)]

/-- Applies the solution modifiers and the projection of a query form. -/
def buildSelect (sel : Selection) (wherePattern : GraphPattern) (mods : Modifiers) : Parser GraphPattern := do
  let aggregates ← popAggregates
  let group := if mods.group.isNone && !aggregates.isEmpty then some ([], []) else mods.group
  let mut p := wherePattern
  let mut withAggregate := false
  match group with
  | some (clauses, binds) =>
    for (e, v) in binds do
      p := .extend p v e
    p := .group p clauses aggregates
    withAggregate := true
  | none => pure ()
  match mods.having with
  | some e => p := .filter e p
  | none => pure ()
  match mods.values with
  | some data => p := newJoin p data
  | none => pure ()
  let visible := p.inScope
  let mut projected : List Variable := []
  let mut withProject := true
  match sel.projection with
  | .explicit members =>
    for m in members do
      let v ← match m with
        | .var v =>
          if withAggregate && !visible.contains v then failure
          pure v
        | .expr e v =>
          if visible.contains v then failure
          if withAggregate && !(e.variablesBound visible) then failure
          p := .extend p v e
          pure v
      if projected.contains v then failure
      projected := projected ++ [v]
  | .star =>
    if withAggregate then failure
    projected := (p.inScope.foldl pushNew []).mergeSort (fun a b => a.name ≤ b.name)
  | .everything => withProject := false
  let mut m := p
  match mods.orderBy with
  | some keys => m := .orderBy m keys
  | none => pure ()
  if withProject then m := .project m projected
  match sel.modifier with
  | .distinct => m := .distinct m
  | .reduced => m := .reduced m
  | .none => pure ()
  match mods.slice with
  | some (start, length) => m := .slice m start length
  | none => pure ()
  pure m

/-- One member of a negated property set: an IRI or `a`, inverted by `^`. -/
def oneInPropertySet : Parser (Bool × String) :=
  (char '^' *> skip *> ((true, ·) <$> (iri <|> (char 'a' *> pure Rdf.type)))) <|>
  ((false, ·) <$> (iri <|> (char 'a' *> pure Rdf.type)))

/-- A negated property set after `!`: one member, or at least one in
brackets; forward members form one set, inverse members another under `^`,
and the two are alternatives when both occur. -/
def negatedSet : Parser PropertyPath := do
  let items ← (do
      char '('
      skip
      let items ← sepBy1 (oneInPropertySet <* skip) (char '|' *> skip)
      char ')'
      pure items) <|>
    ((·::[]) <$> oneInPropertySet)
  let direct := (items.filter (!·.1)).map (·.2)
  let inverse := (items.filter (·.1)).map (·.2)
  pure (if inverse.isEmpty then .negated direct
    else if direct.isEmpty then .reverse (.negated inverse)
    else .alternative (.negated direct) (.reverse (.negated inverse)))

mutual

/-- `{ … }`: a sub-select or a group of patterns. -/
def groupGraphPattern : Nat → Parser GraphPattern
  | 0 => failure
  | n + 1 => do
    char '{'
    skip
    closeBlankScope
    let p ← subSelect n <|> groupGraphPatternSub n
    closeBlankScope
    skip
    char '}'
    pure p

/-- A `SELECT` inside a group. -/
def subSelect : Nat → Parser GraphPattern
  | 0 => failure
  | n + 1 => do
    let sel ← selectClause n
    skip
    let w ← whereClause n
    let mods ← modifiers n
    buildSelect sel w mods

/-- `SELECT` with its modifier and its projection; opens a scope for aggregates. -/
def selectClause : Nat → Parser Selection
  | 0 => failure
  | n + 1 => do
    keyword "SELECT"
    skip
    modify fun s => { s with aggregates := [] :: s.aggregates }
    let modifier ← (keyword "DISTINCT" *> pure SelectModifier.distinct) <|>
      (keyword "REDUCED" *> pure SelectModifier.reduced) <|> pure SelectModifier.none
    skip
    let projection ← (char '*' *> pure Projection.star) <|>
      (Projection.explicit <$> many1 (selectMember n))
    pure ⟨modifier, projection⟩

/-- A variable or `(expression AS ?var)` of a `SELECT` clause. -/
def selectMember : Nat → Parser SelectMember
  | 0 => failure
  | n + 1 =>
    (do
      let v ← var
      skip
      pure (.var v)) <|>
    (do
      char '('
      skip
      let e ← expression n
      skip
      keyword "AS"
      skip
      let v ← var
      skip
      char ')'
      skip
      pure (.expr e v))

/-- `WHERE`, which may be left out, and a group. -/
def whereClause : Nat → Parser GraphPattern
  | 0 => failure
  | n + 1 => do
    let _ ← opt (keyword "WHERE")
    skip
    groupGraphPattern n

/-- `GROUP BY`, `HAVING`, `ORDER BY`, `LIMIT`/`OFFSET` and `VALUES`, each optional. -/
def modifiers : Nat → Parser Modifiers
  | 0 => failure
  | n + 1 => do
    skip
    let g ← opt (groupClause n)
    skip
    let h ← opt (havingClause n)
    skip
    let o ← opt (orderClause n)
    skip
    let l ← opt limitOffset
    skip
    let v ← opt (keyword "VALUES" *> skip *> dataBlock)
    pure ⟨g, h, o, l, v⟩

/-- `GROUP BY` conditions: the grouped variables, and the expressions to bind
first with the variables they are bound to. -/
def groupClause : Nat → Parser (List Variable × List (Expression × Variable))
  | 0 => failure
  | n + 1 => do
    keyword "GROUP"
    skip
    keyword "BY"
    skip
    let conds ← many1 (groupCondition n <* skip)
    let mut vars := []
    let mut binds := []
    for (e, named) in conds do
      match e with
      | .var v => vars := vars ++ [v]
      | _ =>
        let v ← match named with
          | some v => pure v
          | none => (fun name => Variable.mk name) <$> freshName
        binds := binds ++ [(e, v)]
        vars := vars ++ [v]
    pure (vars, binds)

/-- One `GROUP BY` condition. -/
def groupCondition : Nat → Parser (Expression × Option Variable)
  | 0 => failure
  | n + 1 =>
    ((·, none) <$> builtInCall n) <|>
    ((·, none) <$> functionCall n) <|>
    (do
      char '('
      skip
      let e ← expression n
      skip
      let v ← opt (keyword "AS" *> skip *> var <* skip)
      char ')'
      pure (e, v)) <|>
    ((fun v => (Expression.var v, none)) <$> var)

/-- `HAVING` and its constraints, combined with `&&`; no white space stands
between two constraints. -/
def havingClause : Nat → Parser Expression
  | 0 => failure
  | n + 1 => do
    keyword "HAVING"
    skip
    let es ← many1 (constraint n)
    match es with
    | [] => failure
    | e :: rest => pure (rest.foldl Expression.and e)

/-- `ORDER BY` and its keys. -/
def orderClause : Nat → Parser (List OrderKey)
  | 0 => failure
  | n + 1 => do
    keyword "ORDER"
    skip
    keyword "BY"
    skip
    many1 (orderCondition n <* skip)

/-- One key of `ORDER BY`. -/
def orderCondition : Nat → Parser OrderKey
  | 0 => failure
  | n + 1 =>
    (keyword "ASC" *> skip *> (OrderKey.asc <$> bracketted n)) <|>
    (keyword "DESC" *> skip *> (OrderKey.desc <$> bracketted n)) <|>
    (OrderKey.asc <$> constraint n) <|>
    ((OrderKey.asc ∘ Expression.var) <$> var)

/-- The body of a group: triples, then other patterns, each optionally
followed by `.` and more triples. -/
def groupGraphPatternSub : Nat → Parser GraphPattern
  | 0 => failure
  | n + 1 => do
    let first ← opt (triplesBlock true n)
    skip
    let items ← many (do
      let part ← graphPatternNotTriples n
      skip
      let _ ← opt (char '.' *> skip)
      let more ← opt (triplesBlock true n)
      skip
      pure (part, more))
    let mut g := match first with
      | some ts => buildBgp ts
      | none => GraphPattern.bgp []
    let mut filter : Option Expression := none
    for (part, more) in items do
      match part with
      | .optional p f => g := .leftJoin g p f
      | .minus p => g := .minus g p
      | .bind e v =>
        if g.inScope.contains v then failure
        g := .extend g v e
      | .filter e => filter := some (match filter with | some f => .and f e | none => e)
      | .other p => g := newJoin g p
      match more with
      | some ts => g := newJoin g (buildBgp ts)
      | none => pure ()
    pure (match filter with | some e => .filter e g | none => g)

/-- A pattern that is not a block of triples. -/
def graphPatternNotTriples : Nat → Parser GroupPart
  | 0 => failure
  | n + 1 =>
    (do
      let ps ← sepBy1 (groupGraphPattern n <* skip) (keyword "UNION" *> skip)
      match ps with
      | [] => failure
      | p :: rest => pure (.other (rest.foldl GraphPattern.union p))) <|>
    (do
      keyword "OPTIONAL"
      skip
      let p ← groupGraphPattern n
      match p with
      | .filter e inner => pure (.optional inner (some e))
      | p => pure (.optional p none)) <|>
    (do
      keyword "MINUS"
      skip
      pure (.minus (← groupGraphPattern n))) <|>
    (do
      keyword "GRAPH"
      skip
      let name ← varOrIri
      skip
      pure (.other (.graph name (← groupGraphPattern n)))) <|>
    (do
      keyword "SERVICE"
      skip
      let silent ← (keyword "SILENT" *> skip *> pure true) <|> pure false
      let name ← varOrIri
      skip
      let p ← groupGraphPattern n
      pure (.other (.service name p silent))) <|>
    (do
      keyword "FILTER"
      skip
      pure (.filter (← constraint n))) <|>
    (do
      keyword "BIND"
      skip
      char '('
      skip
      let e ← expression n
      skip
      keyword "AS"
      skip
      let v ← var
      skip
      char ')'
      pure (.bind e v)) <|>
    (do
      keyword "VALUES"
      skip
      pure (.other (← dataBlock)))

/-- Triples separated by `.`; with `paths` property paths are allowed. -/
def triplesBlock (paths : Bool) : Nat → Parser (List TripleOrPath)
  | 0 => failure
  | n + 1 => do
    let h ← triplesSameSubject paths n
    skip
    let t ← opt (do
      char '.'
      skip
      let t ← opt (triplesBlock paths n)
      skip
      pure t)
    pure (h ++ (t.bind id).getD [])

/-- A subject with its predicate-object list. -/
def triplesSameSubject (paths : Bool) : Nat → Parser (List TripleOrPath)
  | 0 => failure
  | n + 1 =>
    (do
      let s ← varOrTerm
      skip
      let po ← propertyListNotEmpty paths n
      pure (po.patterns ++ (← subjectPatterns s po.focus))) <|>
    (do
      let s ← triplesNode paths n
      skip
      let po ← (propertyListNotEmpty paths n) <|> pure ⟨[], []⟩
      pure (s.patterns ++ po.patterns ++ (← subjectPatterns s.focus po.focus)))

/-- Predicates with their objects, separated by `;`. -/
def propertyListNotEmpty (paths : Bool) : Nat → Parser (Focused (List (Verb × List TermPattern)))
  | 0 => failure
  | n + 1 => do
    let v ← verb paths n
    skip
    let os ← objectList paths n
    skip
    let rest ← many (do
      char ';'
      skip
      opt (do
        let v ← verb paths n
        skip
        let os ← objectList paths n
        skip
        pure (v, os)))
    let rest := rest.filterMap id
    pure ⟨(v, os.focus) :: rest.map (fun (v, o) => (v, o.focus)),
      os.patterns ++ (rest.map (·.2.patterns)).flatten⟩

/-- A predicate: a path (or, without `paths`, an IRI or `a`), or a variable. -/
def verb (paths : Bool) : Nat → Parser Verb
  | 0 => failure
  | n + 1 =>
    if paths then (Verb.path <$> path n) <|> (Verb.var <$> var)
    else (Verb.var <$> var) <|> ((Verb.path ∘ PropertyPath.iri) <$> iri) <|>
      (char 'a' *> pure (Verb.path (.iri Rdf.type)))

/-- Objects separated by `,`. -/
def objectList (paths : Bool) : Nat → Parser (Focused (List TermPattern))
  | 0 => failure
  | n + 1 => do
    let os ← sepBy1 (graphNode paths n <* skip) (char ',' *> skip)
    pure ⟨os.map (·.focus), (os.map (·.patterns)).flatten⟩

/-- A node: a variable, a term, a collection or a blank node with properties. -/
def graphNode (paths : Bool) : Nat → Parser (Focused TermPattern)
  | 0 => failure
  | n + 1 => ((fun t => ⟨t, []⟩) <$> varOrTerm) <|> triplesNode paths n

/-- A collection `( … )` or a blank node with properties `[ … ]`. -/
def triplesNode (paths : Bool) : Nat → Parser (Focused TermPattern)
  | 0 => failure
  | n + 1 =>
    (do
      char '('
      skip
      let items ← many1 (graphNode paths n <* skip)
      char ')'
      let mut patterns : List TripleOrPath := []
      let mut current : TermPattern := .term (.iri Rdf.nil)
      for item in items.reverse do
        let node ← freshBlank
        patterns := patterns ++ [.triple ⟨node, .iri Rdf.first, item.focus⟩,
          .triple ⟨node, .iri Rdf.rest, current⟩] ++ item.patterns
        current := node
      pure ⟨current, patterns⟩) <|>
    (do
      char '['
      skip
      let po ← propertyListNotEmpty paths n
      skip
      char ']'
      let node ← freshBlank
      pure ⟨node, po.patterns ++ (← subjectPatterns node po.focus)⟩)

/-- A property path: alternatives of sequences. -/
def path : Nat → Parser PropertyPath
  | 0 => failure
  | n + 1 => do
    let alts ← sepBy1 (pathSequence n <* skip) (char '|' *> skip)
    match alts with
    | [] => failure
    | p :: rest => pure (rest.foldl PropertyPath.alternative p)

/-- A sequence of path elements separated by `/`. -/
def pathSequence : Nat → Parser PropertyPath
  | 0 => failure
  | n + 1 => do
    let steps ← sepBy1 (pathEltOrInverse n <* skip) (char '/' *> skip)
    match steps with
    | [] => failure
    | p :: rest => pure (rest.foldl PropertyPath.sequence p)

/-- A path element, inverted by `^`. -/
def pathEltOrInverse : Nat → Parser PropertyPath
  | 0 => failure
  | n + 1 => (char '^' *> skip *> (PropertyPath.reverse <$> pathElt n)) <|> pathElt n

/-- A primary path with an optional `*`, `+` or `?`. -/
def pathElt : Nat → Parser PropertyPath
  | 0 => failure
  | n + 1 => do
    let p ← pathPrimary n
    skip
    let modifier ← opt ((char '*' *> pure '*') <|> (char '+' *> pure '+') <|> (do
      char '?'
      match ← peek with
      | some c => if c.isDigit || isPnCharsU c then failure else pure '?'
      | none => pure '?'))
    pure (match modifier with
      | some '*' => .zeroOrMore p
      | some '+' => .oneOrMore p
      | some _ => .zeroOrOne p
      | none => p)

/-- An IRI, `a`, a negated property set or a bracketed path. -/
def pathPrimary : Nat → Parser PropertyPath
  | 0 => failure
  | n + 1 =>
    (PropertyPath.iri <$> iri) <|>
    (char 'a' *> pure (PropertyPath.iri Rdf.type)) <|>
    (char '!' *> skip *> negatedSet) <|>
    (do
      char '('
      skip
      let p ← path n
      skip
      char ')'
      pure p)

/-- An expression. -/
def expression : Nat → Parser Expression
  | 0 => failure
  | n + 1 => do
    let es ← sepBy1 (conditionalAnd n <* skip) (text "||" *> skip)
    match es with
    | [] => failure
    | e :: rest => pure (rest.foldl Expression.or e)

/-- Relational expressions joined by `&&`. -/
def conditionalAnd : Nat → Parser Expression
  | 0 => failure
  | n + 1 => do
    let es ← sepBy1 (relational n <* skip) (text "&&" *> skip)
    match es with
    | [] => failure
    | e :: rest => pure (rest.foldl Expression.and e)

/-- A comparison, `IN` or `NOT IN`, or a numeric expression alone. -/
def relational : Nat → Parser Expression
  | 0 => failure
  | n + 1 => do
    let a ← additive n
    skip
    let rest ← opt (
      (do
        let op ← (text "=" *> pure "=") <|> (text "!=" *> pure "!=") <|> (text ">=" *> pure ">=") <|>
          (text ">" *> pure ">") <|> (text "<=" *> pure "<=") <|> (text "<" *> pure "<")
        skip
        let b ← additive n
        pure (match op with
          | "=" => Expression.equal a b
          | "!=" => .not (.equal a b)
          | ">=" => .greaterOrEqual a b
          | ">" => .greater a b
          | "<=" => .lessOrEqual a b
          | _ => .less a b)) <|>
      (do
        keyword "IN"
        skip
        pure (Expression.in a (← expressionList n))) <|>
      (do
        keyword "NOT"
        skip
        keyword "IN"
        skip
        pure (Expression.not (.in a (← expressionList n)))))
    pure (rest.getD a)

/-- A sum or difference, associating to the right. -/
def additive : Nat → Parser Expression
  | 0 => failure
  | n + 1 => do
    let a ← multiplicative n
    skip
    let rest ← opt (do
      let op ← (char '+' *> pure true) <|> (char '-' *> pure false)
      skip
      let b ← additive n
      pure (if op then Expression.add a b else .subtract a b))
    pure (rest.getD a)

/-- A product or quotient, associating to the right. -/
def multiplicative : Nat → Parser Expression
  | 0 => failure
  | n + 1 => do
    let a ← unary n
    skip
    let rest ← opt (do
      let op ← (char '*' *> pure true) <|> (char '/' *> pure false)
      skip
      let b ← multiplicative n
      pure (if op then Expression.multiply a b else .divide a b))
    pure (rest.getD a)

/-- `!`, `+` or `-` before a primary expression. -/
def unary : Nat → Parser Expression
  | 0 => failure
  | n + 1 => do
    let op ← opt (satisfy (fun c => c == '!' || c == '+' || c == '-'))
    skip
    let e ← primary n
    pure (match op with
      | some '!' => .not e
      | some '+' => .unaryPlus e
      | some _ => .unaryMinus e
      | none => e)

/-- A bracketed expression, an IRI or function call, a variable, a literal, or
a built-in call. -/
def primary : Nat → Parser Expression
  | 0 => failure
  | n + 1 =>
    bracketted n <|> iriOrFunction n <|> (Expression.var <$> var) <|>
    (Expression.literal <$> rdfLiteral) <|> (Expression.literal <$> numericLiteral) <|>
    (Expression.literal <$> booleanLiteral) <|> builtInCall n

/-- `( expression )`. -/
def bracketted : Nat → Parser Expression
  | 0 => failure
  | n + 1 => do
    char '('
    skip
    let e ← expression n
    skip
    char ')'
    pure e

/-- An IRI, called as a function when arguments follow. -/
def iriOrFunction : Nat → Parser Expression
  | 0 => failure
  | n + 1 => do
    let i ← iri
    skip
    match ← opt (argList n) with
    | some args => pure (.call (.custom i) args)
    | none => pure (.iri i)

/-- An IRI with arguments. -/
def functionCall : Nat → Parser Expression
  | 0 => failure
  | n + 1 => do
    let i ← iri
    skip
    pure (.call (.custom i) (← argList n))

/-- The arguments of a function call. -/
def argList : Nat → Parser (List Expression)
  | 0 => failure
  | n + 1 => (nil *> pure []) <|> (do
    char '('
    skip
    let args ← sepBy1 (expression n <* skip) (char ',' *> skip)
    skip
    char ')'
    pure args)

/-- A bracketed list of expressions, possibly empty. -/
def expressionList : Nat → Parser (List Expression)
  | 0 => failure
  | n + 1 => (nil *> pure []) <|> (do
    char '('
    skip
    let args ← sepBy1 (expression n <* skip) (char ',' *> skip)
    char ')'
    pure args)

/-- A bracketed list of exactly `k` expressions. -/
def fixedArgs (k : Nat) : Nat → Parser (List Expression)
  | 0 => failure
  | n + 1 => do
    let args ← expressionList n
    if args.length == k then pure args else failure

/-- A filter constraint: bracketed, a built-in call or a function call.  A
built-in call comes first, so an IRI with one argument is read as a custom
aggregate. -/
def constraint : Nat → Parser Expression
  | 0 => failure
  | n + 1 => bracketted n <|> builtInCall n <|> functionCall n

/-- The argument of an aggregate up to its `)`, for the aggregate `name`. -/
def aggregateBody (name : String) (distinct : Bool) : Nat → Parser Aggregate
  | 0 => failure
  | n + 1 => do
    let agg ← match name with
      | "COUNT" =>
        (char '*' *> skip *> pure (Aggregate.countSolutions distinct)) <|>
        (do
          let e ← expression n
          skip
          pure (Aggregate.call .count e distinct))
      | "GROUP_CONCAT" => do
        let e ← expression n
        skip
        let sep ← opt (do
          char ';'
          skip
          keyword "SEPARATOR"
          skip
          char '='
          skip
          let s ← string
          skip
          pure s)
        pure (Aggregate.call (.groupConcat sep) e distinct)
      | other =>
        match aggregateFunctions.lookup other with
        | some f => do
          let e ← expression n
          skip
          pure (Aggregate.call f e distinct)
        | none => failure
    char ')'
    pure agg

/-- An aggregate, replaced by its variable: a built-in one, or one named by an
IRI with a single argument.  `DISTINCT` is read as the keyword only when the
rest of the aggregate can then be read; otherwise it starts the argument. -/
def aggregate : Nat → Parser Expression
  | 0 => failure
  | n + 1 => (do
    let name ← builtinName
    skip
    char '('
    skip
    let agg ← (keyword "DISTINCT" *> skip *> aggregateBody name true n) <|>
      aggregateBody name false n
    pure (.var (← newAggregation agg))) <|>
  (do
    let name ← iri
    skip
    char '('
    skip
    let argument (distinct : Bool) : Parser Aggregate := do
      let e ← expression n
      skip
      char ')'
      pure (.call (.custom name) e distinct)
    let agg ← (keyword "DISTINCT" *> skip *> argument true) <|> argument false
    pure (.var (← newAggregation agg)))

/-- A built-in call, an aggregate, `BOUND`, `EXISTS` or `NOT EXISTS` (white
space between `NOT` and `EXISTS` may be left out). -/
def builtInCall : Nat → Parser Expression
  | 0 => failure
  | n + 1 => aggregate n <|> (do
    let name ← builtinName
    if !adjacentBuiltins.contains name then skip
    match name with
    | "BOUND" => do
      char '('
      skip
      let v ← var
      skip
      char ')'
      pure (.bound v)
    | "EXISTS" => .exists <$> groupGraphPattern n
    | "NOT" => do
      keyword "EXISTS"
      skip
      pure (.not (.exists (← groupGraphPattern n)))
    | "NOTEXISTS" => .not <$> .exists <$> groupGraphPattern n
    | "IF" => do
      match ← fixedArgs 3 n with
      | [a, b, c] => pure (.if a b c)
      | _ => failure
    | "COALESCE" => .coalesce <$> expressionList n
    | "CONCAT" => .call .concat <$> expressionList n
    | "SAMETERM" => do
      match ← fixedArgs 2 n with
      | [a, b] => pure (.sameTerm a b)
      | _ => failure
    | "BNODE" => (nil *> pure (.call .bnode [])) <|> (.call .bnode <$> fixedArgs 1 n)
    | "SUBSTR" => do
      let args ← expressionList n
      if args.length == 2 || args.length == 3 then pure (.call .subStr args) else failure
    | "REPLACE" => do
      let args ← expressionList n
      if args.length == 3 || args.length == 4 then pure (.call .replace args) else failure
    | "REGEX" => do
      let args ← expressionList n
      if args.length == 2 || args.length == 3 then pure (.call .regex args) else failure
    | other =>
      match unaryBuiltins.lookup other, binaryBuiltins.lookup other, nullaryBuiltins.lookup other with
      | some f, _, _ => .call f <$> fixedArgs 1 n
      | _, some f, _ => .call f <$> fixedArgs 2 n
      | _, _, some f => nil *> pure (.call f [])
      | _, _, _ => failure)

end

end Parser

end SparqlBag
