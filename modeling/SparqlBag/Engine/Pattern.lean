import SparqlBag.Engine.Path
import SparqlBag.Solution.Group
import SparqlBag.Algebra.Variables

/-!
# Evaluating graph patterns

A graph pattern is evaluated bottom-up into a multiset of solutions.  A basic
graph pattern matches its triple patterns one after another from the seed or the
identity; joins, unions and minus combine their sides, a left join keeping what
its condition accepts.  `GRAPH` evaluates in the named graphs available, a
projection below the top is a sub-query that wraps its errors, `ORDER BY` sorts
stably in the term order, and `SERVICE` is not implemented.  `EXISTS` evaluates
its pattern one level deeper, seeded with the values of the visible variables it
mentions; `GraphPattern.eval` gives as many levels as the pattern nests.  A zero
timeout stops at the first pattern.
-/

namespace SparqlBag

/-- What the evaluation of a pattern depends on besides the pattern. -/
structure EvalEnv where
  dataset : Dataset
  options : QueryOptions
  call : CallContext
  /-- The named graphs of `FROM NAMED`; `none` when every named graph is available. -/
  namedGraphs : Option (List Term)
  active : ActiveGraph
  /-- A solution joined into every leaf: the outer values an `EXISTS` reads. -/
  seed : Option Multiset

namespace EvalEnv

/-- The dataset through the active graph. -/
def graphs (env : EvalEnv) : Graphs := ⟨env.dataset, env.active⟩

/-- Joins a leaf's solutions with the seed. -/
def withSeed (env : EvalEnv) (m : Multiset) : Multiset :=
  match env.seed with
  | some s => s.join m
  | none => m

/-- Fails once the deadline has passed; only a zero deadline passes. -/
def checkDeadline (env : EvalEnv) : EvalM Unit :=
  if env.options.timeout == some 0 then throw .timeout else pure ()

/-- The seed for `EXISTS p` in a solution: the visible variables of the
solution that `p` mentions, with their values; none if there are none. -/
def existsSeed (sol : Solution) (p : GraphPattern) : Option Multiset :=
  let mentioned := p.mentioned
  let pairs := (sol.vars.zip (sol.values.fit sol.vars.length)).filter fun (v, _) =>
    !v.isHidden && mentioned.contains v
  if pairs.isEmpty then none else some (Multiset.ofRows (pairs.map (·.1)) [pairs.map (·.2)])

/-- The scope of a solution, deciding `EXISTS` with `inner`. -/
def scope (env : EvalEnv) (inner : EvalEnv → GraphPattern → EvalM Multiset) (sol : Solution) :
    Scope :=
  ⟨sol, fun p => do
    let m ← inner { env with seed := existsSeed sol p } p
    return !m.isEmpty⟩

/-- Whether an expression is true in a solution. -/
def isTrue (env : EvalEnv) (inner : EvalEnv → GraphPattern → EvalM Multiset) (sol : Solution)
    (e : Expression) : EvalM Bool := do
  return (← e.eval env.call (env.scope inner sol)).ebv == some true

/-- The position of a pattern variable among `vars`, added at the end if new. -/
def place (vars : List Variable) : PatternTerm → List Variable × Option Nat
  | .constant _ => (vars, none)
  | .variable v =>
    match vars.idxOf? v with
    | some i => (vars, some i)
    | none => (vars ++ [v], some vars.length)

/-- Binds the matched terms into a row, if they agree with its values. -/
def bindMatch (row : Row) : List (Option Nat × Term) → Option Row
  | [] => some row
  | (none, _) :: rest => bindMatch row rest
  | (some i, t) :: rest =>
    match Layout.at? row i with
    | some existing => if existing == t then bindMatch row rest else none
    | none => bindMatch (row.set i (some t)) rest

/-- Matches one triple pattern against every solution of `input`. -/
def matchTriple (env : EvalEnv) (input : Multiset) (t : TriplePattern) : Multiset :=
  let mode := env.options.blankNodeMode
  let s := t.subject.resolve mode
  let p : PatternTerm := match t.predicate with
    | .iri i => .constant (.iri i)
    | .var v => .variable v
  let o := t.object.resolve mode
  let (vars, ps) := place input.vars s
  let (vars, pp) := place vars p
  let (vars, po) := place vars o
  let lookup := fun (values : Row) (term : PatternTerm) (pos : Option Nat) =>
    match term with
    | .constant c => some c
    | .variable _ => pos.bind (Layout.at? values)
  let rows := input.entries.flatMap fun (_, values) =>
    let values := values.fit vars.length
    let found := fun (pred : Option String) =>
      (env.graphs.triples (lookup values s ps) pred (lookup values o po)).filterMap fun tr =>
        bindMatch values [(ps, tr.subject), (pp, .iri tr.predicate), (po, tr.object)]
    match lookup values p pp with
    | some (.iri i) => found (some i)
    | some _ => []
    | none => found none
  Multiset.ofRows vars rows

/-- Matches the triple patterns of a basic graph pattern in order. -/
def evalBgp (env : EvalEnv) (patterns : List TriplePattern) : Multiset :=
  patterns.foldl env.matchTriple (env.seed.getD .identity)

/-- Compares the keys of two solutions, key by key. -/
def compareKeys : List OrderKey → List (Option Term) → List (Option Term) → Ordering
  | .asc _ :: keys, a :: as, b :: bs => (compareTerms a b).then (compareKeys keys as bs)
  | .desc _ :: keys, a :: as, b :: bs => (compareTerms b a).then (compareKeys keys as bs)
  | _, _, _ => .eq

/-- The expression of an `ORDER BY` key. -/
def keyExpression : OrderKey → Expression
  | .asc e | .desc e => e

/-- The text of a `SERVICE` name. -/
def serviceName : IriPattern → String
  | .iri i => "<" ++ i ++ ">"
  | .var v => "?" ++ v.name

/-- Evaluates a pattern; `inner` evaluates the patterns of `EXISTS`. -/
def evalWith (inner : EvalEnv → GraphPattern → EvalM Multiset) (env : EvalEnv) :
    GraphPattern → EvalM Multiset
  | .bgp ps => do
    env.checkDeadline
    return env.evalBgp ps
  | .path s q o => do
    env.checkDeadline
    return env.withSeed (env.graphs.evalPath env.options.blankNodeMode s q o)
  | .join l r => do
    env.checkDeadline
    let a ← evalWith inner env l
    let b ← evalWith inner env r
    return a.join b
  | .leftJoin l r condition => do
    env.checkDeadline
    let a ← evalWith inner env l
    let b ← evalWith inner env r
    a.leftJoin b fun sol =>
      match condition with
      | some e => env.isTrue inner sol e
      | none => pure true
  | .filter condition p => do
    env.checkDeadline
    let m ← evalWith inner env p
    m.filterM fun sol => env.isTrue inner sol condition
  | .union l r => do
    env.checkDeadline
    let a ← evalWith inner env l
    let b ← evalWith inner env r
    return a.union b
  | .graph (.iri g) p => do
    env.checkDeadline
    if env.namedGraphs.any (!·.contains (.iri g)) then return .null
    evalWith inner { env with active := .named (.iri g) } p
  | .graph (.var v) p => do
    env.checkDeadline
    let mut result : Multiset := .bag (Bag.empty [v])
    for g in env.namedGraphs.getD env.dataset.namedGraphs do
      let m ← evalWith inner { env with active := .named g } p
      result := result.union (m.join (Multiset.ofRows [v] [[some g]]))
    return result
  | .extend p v e => do
    env.checkDeadline
    let m ← evalWith inner env p
    m.extendM v fun sol => do
      return (← e.eval env.call (env.scope inner sol)).term?
  | .minus l r => do
    env.checkDeadline
    let a ← evalWith inner env l
    let b ← evalWith inner env r
    return a.minus b
  | .values vars rows => do
    env.checkDeadline
    return env.withSeed (Multiset.ofRows vars rows)
  | .orderBy p keys => do
    env.checkDeadline
    let m ← evalWith inner env p
    let keyed ← m.entries.mapM fun entry => do
      let sc := env.scope inner ⟨m.vars, entry.2⟩
      let values ← keys.mapM fun k => do return (← (keyExpression k).eval env.call sc).term?
      return (entry.2, values)
    let some sorted := StableSort.sort 8 (fun a b => compareKeys keys a.2 b.2 == .lt) keyed
      | throw .abort
    return match m with
      | .bag b => Multiset.ofRows b.vars (sorted.map (·.1))
      | m => m
  | .project p vars => do
    env.checkDeadline
    let nested := { env with seed := env.seed.map (·.project vars) }
    -- An abnormal stop is not an error of the sub-query: it stops the whole query.
    let m ← tryCatch (evalWith inner nested p) fun e =>
      throw (if e == .abort then .abort else .subQuery e)
    return m.project vars
  | .distinct p | .reduced p => do
    env.checkDeadline
    return (← evalWith inner env p).distinct
  | .slice p start length => do
    env.checkDeadline
    return (← evalWith inner env p).slice start length
  | .group p vars aggs => do
    env.checkDeadline
    let m ← evalWith inner env p
    for (_, a) in aggs do
      if let .call f _ _ := a then
        let _ ← (Accumulator.ofFunction f : Except QueryError Accumulator)
    let scopeOf := fun (id : Nat) => env.scope inner (m.solution id)
    let groups ← (GroupBy.mk (vars.map fun v => .variable v (some v))).apply env.call scopeOf m.ids
    let mut rows : List Row := []
    for g in groups do
      let keys := vars.map fun v => (g.assignment v).join
      let values ← aggs.mapM fun (_, a) => do
        return (← a.apply env.call m.vars (g.ids.map scopeOf)).term?
      rows := rows ++ [keys ++ values]
    return Multiset.ofRows (vars ++ aggs.map (·.1)) rows
  | .service name _ _ => do
    env.checkDeadline
    throw (.notImplemented ("SERVICE " ++ serviceName name))

end EvalEnv

/-- Evaluates a pattern with `fuel` levels of `EXISTS`. -/
def EvalEnv.evalAt : Nat → EvalEnv → GraphPattern → EvalM Multiset
  | 0, _, _ => throw (.internal "EXISTS patterns nest deeper than the query")
  | fuel + 1, env, p => EvalEnv.evalWith (EvalEnv.evalAt fuel) env p

/-- Evaluates a pattern. -/
def EvalEnv.eval (env : EvalEnv) (p : GraphPattern) : EvalM Multiset :=
  env.evalAt (p.existsDepth + 1) p

/-- Evaluates the pattern of a `SELECT` or `DESCRIBE` query: its outermost
projection, distinct and slice belong to the query, not to a sub-query. -/
def EvalEnv.evalQuery (env : EvalEnv) : GraphPattern → EvalM Multiset
  | .project p vars => do return (← env.eval p).project vars
  | .distinct p | .reduced p => do return (← env.evalQuery p).distinct
  | .slice p start length => do return (← env.evalQuery p).slice start length
  | p => env.eval p

end SparqlBag
