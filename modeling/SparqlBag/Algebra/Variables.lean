import SparqlBag.Algebra.Syntax

/-!
# The variables a pattern reads, and the nesting of `EXISTS`

`GraphPattern.mentioned` lists every variable a pattern may read: those of
its triple patterns and paths, of its expressions (the patterns inside
`EXISTS` included), of `VALUES`, `BIND`, `GROUP BY` and its aggregates.  A
sub-query shows only the variables it projects.  The list may repeat a
variable; only membership counts.

`GraphPattern.existsDepth` is how deeply `EXISTS` patterns nest inside a
pattern: evaluating a pattern never needs to evaluate more than that many
levels of `EXISTS` inside each other.
-/

namespace SparqlBag

/-- The variable of an IRI pattern. -/
def iriPatternVars : IriPattern → List Variable
  | .var v => [v]
  | .iri _ => []

mutual

/-- The variables a pattern may read. -/
def GraphPattern.mentioned : GraphPattern → List Variable
  | .bgp ps => ps.flatMap TriplePattern.vars
  | .path s _ o => termPatternVars s ++ termPatternVars o
  | .join l r | .union l r | .minus l r => l.mentioned ++ r.mentioned
  | .leftJoin l r e => l.mentioned ++ r.mentioned ++ Expression.mentionedOption e
  | .filter e inner => e.mentioned ++ inner.mentioned
  | .graph name inner | .service name inner _ => iriPatternVars name ++ inner.mentioned
  | .extend inner v e => v :: e.mentioned ++ inner.mentioned
  | .values vs _ => vs
  | .orderBy inner keys => OrderKey.mentionedList keys ++ inner.mentioned
  | .project _ vs => vs
  | .distinct inner | .reduced inner | .slice inner _ _ => inner.mentioned
  | .group inner vs aggs => vs ++ Aggregate.mentionedList aggs ++ inner.mentioned

/-- The variables an expression reads, inside `EXISTS` included. -/
def Expression.mentioned : Expression → List Variable
  | .iri _ | .literal _ => []
  | .var v | .bound v => [v]
  | .or a b | .and a b | .equal a b | .sameTerm a b | .greater a b | .greaterOrEqual a b
  | .less a b | .lessOrEqual a b | .add a b | .subtract a b | .multiply a b | .divide a b =>
    a.mentioned ++ b.mentioned
  | .unaryPlus a | .unaryMinus a | .not a => a.mentioned
  | .in a l => a.mentioned ++ Expression.mentionedList l
  | .if a b c => a.mentioned ++ b.mentioned ++ c.mentioned
  | .coalesce l | .call _ l => Expression.mentionedList l
  | .exists p => p.mentioned

/-- The variables of a list of expressions. -/
def Expression.mentionedList : List Expression → List Variable
  | [] => []
  | e :: rest => e.mentioned ++ Expression.mentionedList rest

/-- The variables of an optional expression. -/
def Expression.mentionedOption : Option Expression → List Variable
  | none => []
  | some e => e.mentioned

/-- The variables of `ORDER BY` keys. -/
def OrderKey.mentionedList : List OrderKey → List Variable
  | [] => []
  | .asc e :: rest | .desc e :: rest => e.mentioned ++ OrderKey.mentionedList rest

/-- The variables of aggregates and the variables they bind. -/
def Aggregate.mentionedList : List (Variable × Aggregate) → List Variable
  | [] => []
  | (v, .countSolutions _) :: rest => v :: Aggregate.mentionedList rest
  | (v, .call _ e _) :: rest => v :: e.mentioned ++ Aggregate.mentionedList rest

end

mutual

/-- How deeply `EXISTS` patterns nest inside a pattern. -/
def GraphPattern.existsDepth : GraphPattern → Nat
  | .bgp _ | .path _ _ _ | .values _ _ => 0
  | .join l r | .union l r | .minus l r => max l.existsDepth r.existsDepth
  | .leftJoin l r e => max (max l.existsDepth r.existsDepth) (Expression.depthOption e)
  | .filter e inner => max e.existsDepth inner.existsDepth
  | .graph _ inner | .service _ inner _ | .project inner _ | .distinct inner | .reduced inner
  | .slice inner _ _ => inner.existsDepth
  | .extend inner _ e => max e.existsDepth inner.existsDepth
  | .orderBy inner keys => max (OrderKey.depthList keys) inner.existsDepth
  | .group inner _ aggs => max (Aggregate.depthList aggs) inner.existsDepth

/-- How deeply `EXISTS` patterns nest inside an expression. -/
def Expression.existsDepth : Expression → Nat
  | .iri _ | .literal _ | .var _ | .bound _ => 0
  | .or a b | .and a b | .equal a b | .sameTerm a b | .greater a b | .greaterOrEqual a b
  | .less a b | .lessOrEqual a b | .add a b | .subtract a b | .multiply a b | .divide a b =>
    max a.existsDepth b.existsDepth
  | .unaryPlus a | .unaryMinus a | .not a => a.existsDepth
  | .in a l => max a.existsDepth (Expression.depthList l)
  | .if a b c => max a.existsDepth (max b.existsDepth c.existsDepth)
  | .coalesce l | .call _ l => Expression.depthList l
  | .exists p => p.existsDepth + 1

/-- The deepest nesting in a list of expressions. -/
def Expression.depthList : List Expression → Nat
  | [] => 0
  | e :: rest => max e.existsDepth (Expression.depthList rest)

/-- The nesting in an optional expression. -/
def Expression.depthOption : Option Expression → Nat
  | none => 0
  | some e => e.existsDepth

/-- The deepest nesting in `ORDER BY` keys. -/
def OrderKey.depthList : List OrderKey → Nat
  | [] => 0
  | .asc e :: rest | .desc e :: rest => max e.existsDepth (OrderKey.depthList rest)

/-- The deepest nesting in aggregates. -/
def Aggregate.depthList : List (Variable × Aggregate) → Nat
  | [] => 0
  | (_, .countSolutions _) :: rest => Aggregate.depthList rest
  | (_, .call _ e _) :: rest => max e.existsDepth (Aggregate.depthList rest)

end

end SparqlBag
