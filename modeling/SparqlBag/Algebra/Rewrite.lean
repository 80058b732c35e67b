import SparqlBag.Algebra.Syntax

/-!
# Bottom-up rewriting of graph patterns

`GraphPattern.rewriteUp f p` applies `f` to every graph pattern node of `p`,
children first, the patterns inside `EXISTS` included.  Aggregates and the
expressions of `GROUP` are left alone.  The effects of `f` happen in a fixed
order: for a filter its condition before its inner pattern, for a left join
the left side, the right side, then the condition, and for `extend` and
`ORDER BY` the inner pattern before the expressions.
-/

namespace SparqlBag

variable {m : Type → Type} [Monad m] (f : GraphPattern → m GraphPattern)

mutual

/-- Rewrites the children of a pattern, then the pattern itself. -/
def GraphPattern.rewriteUp : GraphPattern → m GraphPattern
  | .bgp ps => f (.bgp ps)
  | .path s p o => f (.path s p o)
  | .values vs rows => f (.values vs rows)
  | .join l r => do
    let l ← l.rewriteUp
    let r ← r.rewriteUp
    f (.join l r)
  | .leftJoin l r e => do
    let l ← l.rewriteUp
    let r ← r.rewriteUp
    let e ← Expression.rewriteOption e
    f (.leftJoin l r e)
  | .filter e inner => do
    let e ← e.rewriteUp
    let inner ← inner.rewriteUp
    f (.filter e inner)
  | .union l r => do
    let l ← l.rewriteUp
    let r ← r.rewriteUp
    f (.union l r)
  | .graph name inner => do f (.graph name (← inner.rewriteUp))
  | .extend inner v e => do
    let inner ← inner.rewriteUp
    let e ← e.rewriteUp
    f (.extend inner v e)
  | .minus l r => do
    let l ← l.rewriteUp
    let r ← r.rewriteUp
    f (.minus l r)
  | .orderBy inner keys => do
    let inner ← inner.rewriteUp
    let keys ← OrderKey.rewriteList keys
    f (.orderBy inner keys)
  | .project inner vs => do f (.project (← inner.rewriteUp) vs)
  | .distinct inner => do f (.distinct (← inner.rewriteUp))
  | .reduced inner => do f (.reduced (← inner.rewriteUp))
  | .slice inner start length => do f (.slice (← inner.rewriteUp) start length)
  | .group inner vs aggs => do f (.group (← inner.rewriteUp) vs aggs)
  | .service name inner silent => do f (.service name (← inner.rewriteUp) silent)

/-- Rewrites the patterns inside the `EXISTS` of an expression. -/
def Expression.rewriteUp : Expression → m Expression
  | .exists p => do return .exists (← p.rewriteUp)
  | .not a => do return .not (← a.rewriteUp)
  | .unaryPlus a => do return .unaryPlus (← a.rewriteUp)
  | .unaryMinus a => do return .unaryMinus (← a.rewriteUp)
  | .or a b => do
    let a ← a.rewriteUp
    return .or a (← b.rewriteUp)
  | .and a b => do
    let a ← a.rewriteUp
    return .and a (← b.rewriteUp)
  | .equal a b => do
    let a ← a.rewriteUp
    return .equal a (← b.rewriteUp)
  | .sameTerm a b => do
    let a ← a.rewriteUp
    return .sameTerm a (← b.rewriteUp)
  | .greater a b => do
    let a ← a.rewriteUp
    return .greater a (← b.rewriteUp)
  | .greaterOrEqual a b => do
    let a ← a.rewriteUp
    return .greaterOrEqual a (← b.rewriteUp)
  | .less a b => do
    let a ← a.rewriteUp
    return .less a (← b.rewriteUp)
  | .lessOrEqual a b => do
    let a ← a.rewriteUp
    return .lessOrEqual a (← b.rewriteUp)
  | .add a b => do
    let a ← a.rewriteUp
    return .add a (← b.rewriteUp)
  | .subtract a b => do
    let a ← a.rewriteUp
    return .subtract a (← b.rewriteUp)
  | .multiply a b => do
    let a ← a.rewriteUp
    return .multiply a (← b.rewriteUp)
  | .divide a b => do
    let a ← a.rewriteUp
    return .divide a (← b.rewriteUp)
  | .if a b c => do
    let a ← a.rewriteUp
    let b ← b.rewriteUp
    return .if a b (← c.rewriteUp)
  | .in a l => do
    let a ← a.rewriteUp
    return .in a (← Expression.rewriteList l)
  | .coalesce l => do return .coalesce (← Expression.rewriteList l)
  | .call fn l => do return .call fn (← Expression.rewriteList l)
  | .iri i => pure (.iri i)
  | .literal l => pure (.literal l)
  | .var v => pure (.var v)
  | .bound v => pure (.bound v)

/-- Rewrites a list of expressions from left to right. -/
def Expression.rewriteList : List Expression → m (List Expression)
  | [] => pure []
  | e :: rest => do
    let e ← e.rewriteUp
    return e :: (← Expression.rewriteList rest)

/-- Rewrites an optional expression. -/
def Expression.rewriteOption : Option Expression → m (Option Expression)
  | none => pure none
  | some e => do return some (← e.rewriteUp)

/-- Rewrites the expressions of `ORDER BY` keys from left to right. -/
def OrderKey.rewriteList : List OrderKey → m (List OrderKey)
  | [] => pure []
  | .asc e :: rest => do
    let e ← e.rewriteUp
    return .asc e :: (← OrderKey.rewriteList rest)
  | .desc e :: rest => do
    let e ← e.rewriteUp
    return .desc e :: (← OrderKey.rewriteList rest)

end

end SparqlBag
