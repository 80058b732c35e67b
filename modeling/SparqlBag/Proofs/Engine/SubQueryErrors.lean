import SparqlBag.Proofs.Expr.Locality
import SparqlBag.Proofs.Engine.Datasets
import SparqlBag.Proofs.Engine.GraphResults
import SparqlBag.Proofs.Solution.Grouping
import SparqlBag.Proofs.Plan.LoweredForm

/-!
# Errors of sub-queries

A query stops with an error raised at one node of its algebra (`GraphPattern.Raises`):
a zero deadline, `SERVICE`, or an aggregate function the engine does not know.
The error passes up unchanged, except through a projection below the top of the
query, a sub-query, which wraps it once; an abnormal stop passes unwrapped.  The
nodes of a pattern include those of the patterns of its `EXISTS`.  The proof goes
node by node (`EvalEnv.evalWith_outcomes`) and then over the nesting of `EXISTS`
(`EvalEnv.evalAt_outcomes`); the query's own projection wraps nothing
(`Query.errors_wrapped_once_per_projection`).
-/

namespace SparqlBag

namespace QueryError

/-- An error passed up through `k` sub-queries, each wrapping it once. -/
def wrap : Nat → QueryError → QueryError
  | 0, e => e
  | k + 1, e => .subQuery (wrap k e)

end QueryError

namespace Expression

mutual

/-- `EXISTS` nests no deeper in a sub-expression than in the whole. -/
theorem existsDepth_le_of_mem_subterms : ∀ (e x : Expression), x ∈ e.subterms →
    x.existsDepth ≤ e.existsDepth
  | .iri _, x, hx | .literal _, x, hx | .var _, x, hx | .bound _, x, hx | .exists _, x, hx => by
    rw [subterms, List.mem_singleton] at hx
    rw [hx]
  | .or a b, x, hx | .and a b, x, hx | .equal a b, x, hx | .sameTerm a b, x, hx
  | .greater a b, x, hx | .greaterOrEqual a b, x, hx | .less a b, x, hx
  | .lessOrEqual a b, x, hx | .add a b, x, hx | .subtract a b, x, hx | .multiply a b, x, hx
  | .divide a b, x, hx => by
    rw [subterms, List.mem_cons, List.mem_append] at hx
    rcases hx with rfl | hx | hx
    · exact le_rfl
    · exact (existsDepth_le_of_mem_subterms a x hx).trans (by rw [existsDepth]; omega)
    · exact (existsDepth_le_of_mem_subterms b x hx).trans (by rw [existsDepth]; omega)
  | .unaryPlus a, x, hx | .unaryMinus a, x, hx | .not a, x, hx => by
    rw [subterms, List.mem_cons] at hx
    rcases hx with rfl | hx
    · exact le_rfl
    · exact (existsDepth_le_of_mem_subterms a x hx).trans (by rw [existsDepth])
  | .if a b c, x, hx => by
    rw [subterms, List.mem_cons, List.mem_append, List.mem_append] at hx
    rcases hx with rfl | (hx | hx) | hx
    · exact le_rfl
    · exact (existsDepth_le_of_mem_subterms a x hx).trans (by rw [existsDepth]; omega)
    · exact (existsDepth_le_of_mem_subterms b x hx).trans (by rw [existsDepth]; omega)
    · exact (existsDepth_le_of_mem_subterms c x hx).trans (by rw [existsDepth]; omega)
  | .in a l, x, hx => by
    rw [subterms, List.mem_cons, List.mem_append] at hx
    rcases hx with rfl | hx | hx
    · exact le_rfl
    · exact (existsDepth_le_of_mem_subterms a x hx).trans (by rw [existsDepth]; omega)
    · exact (existsDepth_le_of_mem_subtermsList l x hx).trans (by rw [existsDepth]; omega)
  | .coalesce l, x, hx | .call _ l, x, hx => by
    rw [subterms, List.mem_cons] at hx
    rcases hx with rfl | hx
    · exact le_rfl
    · exact (existsDepth_le_of_mem_subtermsList l x hx).trans (by rw [existsDepth])

theorem existsDepth_le_of_mem_subtermsList : ∀ (l : List Expression) (x : Expression),
    x ∈ subtermsList l → x.existsDepth ≤ depthList l
  | [], x, hx => by simp [subtermsList] at hx
  | e :: rest, x, hx => by
    rw [subtermsList, List.mem_append] at hx
    rcases hx with hx | hx
    · exact (existsDepth_le_of_mem_subterms e x hx).trans (by rw [depthList]; omega)
    · exact (existsDepth_le_of_mem_subtermsList rest x hx).trans (by rw [depthList]; omega)

end

/-- The pattern of an `EXISTS` inside an expression nests less deeply than it. -/
theorem existsDepth_lt_of_exists_mem {e : Expression} {q : GraphPattern}
    (h : .exists q ∈ e.subterms) : q.existsDepth < e.existsDepth := by
  have hle := existsDepth_le_of_mem_subterms e _ h
  rw [existsDepth] at hle
  omega

end Expression

/-- The expression an aggregate evaluates at each solution, if any. -/
def Aggregate.argument? : Aggregate → Option Expression
  | .call _ e _ => some e
  | .countSolutions _ => none

theorem OrderKey.existsDepth_le_depthList : ∀ (keys : List OrderKey), ∀ k ∈ keys,
    (EvalEnv.keyExpression k).existsDepth ≤ OrderKey.depthList keys
  | [], _, h => by simp at h
  | .asc e :: rest, k, h | .desc e :: rest, k, h => by
    rcases List.mem_cons.1 h with rfl | h
    · simp [EvalEnv.keyExpression, OrderKey.depthList]
    · exact (existsDepth_le_depthList rest k h).trans (by rw [OrderKey.depthList]; omega)

theorem Aggregate.existsDepth_le_depthList : ∀ (aggs : List (Variable × Aggregate)) (x : Expression),
    x ∈ aggs.filterMap (·.2.argument?) → x.existsDepth ≤ Aggregate.depthList aggs
  | [], _, h => by simp at h
  | (_, .countSolutions _) :: rest, x, h => by
    rw [depthList]
    simp only [List.filterMap_cons, argument?] at h
    exact existsDepth_le_depthList rest x h
  | (_, .call _ e _) :: rest, x, h => by
    rw [depthList]
    simp only [List.filterMap_cons, argument?, List.mem_cons] at h
    rcases h with rfl | h
    · omega
    · exact (existsDepth_le_depthList rest x h).trans (by omega)

namespace GraphPattern

/-- The operands a pattern evaluates at its own level.  The pattern of a
projection is a sub-query, one level down, and the pattern of `SERVICE` is
never evaluated. -/
def operands : GraphPattern → List GraphPattern
  | .join l r | .leftJoin l r _ | .union l r | .minus l r => [l, r]
  | .filter _ p | .graph _ p | .extend p _ _ | .orderBy p _ | .distinct p | .reduced p
  | .slice p _ _ | .group p _ _ => [p]
  | .bgp _ | .path _ _ _ | .values _ _ | .project _ _ | .service _ _ _ => []

/-- The expressions a pattern evaluates at its own node: the condition of a
left join or a filter, the value of `BIND`, the keys of `ORDER BY` and the
arguments of the aggregates of `GROUP BY`. -/
def expressions : GraphPattern → List Expression
  | .leftJoin _ _ c => c.toList
  | .filter c _ | .extend _ _ c => [c]
  | .orderBy _ keys => keys.map EvalEnv.keyExpression
  | .group _ _ aggs => aggs.filterMap (·.2.argument?)
  | _ => []

/-- `p.Raises opts e k`: evaluating `p` under the options `opts` may raise the
error `e` at a node of `p` that `k` projections of `p` enclose. -/
inductive Raises (opts : QueryOptions) : GraphPattern → QueryError → Nat → Prop
  /-- A zero deadline has passed at whatever node is evaluated first. -/
  | timeout (p : GraphPattern) : opts.timeout = some 0 → Raises opts p .timeout 0
  /-- `SERVICE` is not implemented. -/
  | service (name : IriPattern) (inner : GraphPattern) (silent : Bool) :
      Raises opts (.service name inner silent)
        (.notImplemented ("SERVICE " ++ EvalEnv.serviceName name)) 0
  /-- `GROUP BY` with an aggregate function the engine does not know. -/
  | aggregate {inner : GraphPattern} {vars : List Variable} {aggs : List (Variable × Aggregate)}
      {v : Variable} {f : AggregateFunction} {x : Expression} {distinct : Bool} {e : QueryError} :
      (v, .call f x distinct) ∈ aggs → Accumulator.ofFunction f = .error e →
      Raises opts (.group inner vars aggs) e 0
  /-- The pattern of a projection is one level further down. -/
  | subQuery {inner : GraphPattern} {vars : List Variable} {e : QueryError} {k : Nat} :
      Raises opts inner e k → Raises opts (.project inner vars) e (k + 1)
  /-- An operand is evaluated at the level of the node. -/
  | operand {p q : GraphPattern} {e : QueryError} {k : Nat} :
      q ∈ p.operands → Raises opts q e k → Raises opts p e k
  /-- The pattern of an `EXISTS` in an expression of the node. -/
  | inExists {p q : GraphPattern} {x : Expression} {e : QueryError} {k : Nat} :
      x ∈ p.expressions → .exists q ∈ x.subterms → Raises opts q e k → Raises opts p e k

/-- What evaluating `p` may stop with: an abnormal stop, or an error raised at a
node of `p` and wrapped once by each projection of `p` that encloses the node. -/
def StopsWith (opts : QueryOptions) (p : GraphPattern) (err : QueryError) : Prop :=
  err = .abort ∨ ∃ e k, p.Raises opts e k ∧ err = e.wrap k

theorem existsDepth_le_of_mem_operands {p q : GraphPattern} (h : q ∈ p.operands) :
    q.existsDepth ≤ p.existsDepth := by
  cases p <;> simp only [operands, List.mem_cons, List.not_mem_nil, or_false] at h <;>
    rcases h with rfl | rfl <;> simp [existsDepth]

theorem existsDepth_le_of_mem_expressions {p : GraphPattern} {x : Expression}
    (h : x ∈ p.expressions) : x.existsDepth ≤ p.existsDepth := by
  cases p with
  | leftJoin l r c =>
    cases c with
    | none => simp [expressions] at h
    | some e =>
      rw [expressions, Option.toList_some, List.mem_singleton] at h
      subst h
      simp [existsDepth, Expression.depthOption]
  | filter c q | extend q _ c =>
    rw [expressions, List.mem_singleton] at h
    subst h
    simp [existsDepth]
  | orderBy q keys =>
    obtain ⟨k, hk, rfl⟩ := List.mem_map.1 h
    exact (OrderKey.existsDepth_le_depthList keys k hk).trans (by rw [existsDepth]; omega)
  | group q vars aggs =>
    exact (Aggregate.existsDepth_le_depthList aggs x h).trans (by rw [existsDepth]; omega)
  | _ => simp [expressions] at h

theorem StopsWith.of_operand {opts : QueryOptions} {p q : GraphPattern} {err : QueryError}
    (hq : q ∈ p.operands) : q.StopsWith opts err → p.StopsWith opts err
  | .inl h => .inl h
  | .inr ⟨e, k, he, hw⟩ => .inr ⟨e, k, .operand hq he, hw⟩

theorem StopsWith.of_exists {opts : QueryOptions} {p q : GraphPattern} {x : Expression}
    {err : QueryError} (hx : x ∈ p.expressions) (hq : .exists q ∈ x.subterms) :
    q.StopsWith opts err → p.StopsWith opts err
  | .inl h => .inl h
  | .inr ⟨e, k, he, hw⟩ => .inr ⟨e, k, .inExists hx hq he, hw⟩

end GraphPattern

/-- The part of the pattern of a `SELECT` or `DESCRIBE` query that is evaluated
as a pattern: below the query's own projection, reached through `DISTINCT`,
`REDUCED` and `LIMIT`/`OFFSET`. -/
def GraphPattern.queryBody : GraphPattern → GraphPattern
  | .project p _ => p
  | .distinct p | .reduced p | .slice p _ _ => p.queryBody
  | p => p

/-- The pattern a query of this form evaluates as a pattern. -/
def QueryForm.evaluated : QueryForm → GraphPattern → GraphPattern
  | .select, p | .describe, p => p.queryBody
  | .ask, p | .construct _, p => p

namespace Multiset

variable {S : QueryError → Prop}

theorem outcomes_filterM {m : Multiset} {keep : Solution → EvalM Bool}
    (h : ∀ sol, Outcomes S (fun _ => True) (keep sol)) : Outcomes S (fun _ => True) (m.filterM keep) := by
  unfold filterM
  exact (Outcomes.mapM fun _ _ => h _).bind fun _ _ => outcomes_pure trivial

theorem outcomes_extendM {m : Multiset} {v : Variable} {value : Solution → EvalM (Option Term)}
    (h : ∀ sol, Outcomes S (fun _ => True) (value sol)) :
    Outcomes S (fun _ => True) (m.extendM v value) := by
  unfold extendM
  exact (Outcomes.mapM fun _ _ => h _).bind fun _ _ => outcomes_pure trivial

theorem outcomes_leftJoin {m n : Multiset} {keep : Solution → EvalM Bool}
    (h : ∀ sol, Outcomes S (fun _ => True) (keep sol)) :
    Outcomes S (fun _ => True) (m.leftJoin n keep) := by
  unfold leftJoin
  exact (Outcomes.mapM fun _ _ => Outcomes.mapM fun _ _ => h _).bind fun _ _ => outcomes_pure trivial

end Multiset

/-- The finish of an accumulator fails only by stopping abnormally. -/
theorem Accumulator.finish_error {acc : Accumulator} {e : QueryError} (h : acc.finish = .error e) :
    e = .abort := by
  unfold Accumulator.finish at h
  split at h
  · split at h
    · cases h
    · cases h
      rfl
  · cases h

/-- An aggregate's fold fails only by stopping abnormally or as the evaluation
of its expression at one of the solutions does. -/
theorem Accumulator.outcomes_run {S : QueryError → Prop} {ctx : CallContext} {e : Expression}
    {distinct : Bool} (habort : S .abort) :
    ∀ {scopes : List Scope} (acc : Accumulator) (seen : List ExprValue),
      (∀ sc ∈ scopes, Outcomes S (fun _ => True) (e.eval ctx sc)) →
      Outcomes S (fun _ => True) (Accumulator.run ctx e distinct acc seen scopes)
  | [], acc, _, _ => by
    rw [run]
    exact outcomes_monadLift fun _ h => finish_error h ▸ habort
  | sc :: rest, acc, seen, h => by
    rw [run]
    split
    · exact outcomes_monadLift fun _ h => finish_error h ▸ habort
    · refine (h sc List.mem_cons_self).bind fun v _ => ?_
      have hrest : ∀ sc' ∈ rest, Outcomes S (fun _ => True) (e.eval ctx sc') :=
        fun sc' hsc' => h sc' (List.mem_cons_of_mem _ hsc')
      split
      · exact outcomes_run habort acc seen hrest
      · exact outcomes_run habort _ _ hrest

/-- Grouping by variables never fails. -/
theorem GroupBy.outcomes_apply_variables {S : QueryError → Prop} (ctx : CallContext)
    (scope : Nat → Scope) (vars : List Variable) (ids : List Nat) :
    Outcomes S (fun _ => True)
      ((GroupBy.mk (vars.map fun v => .variable v (some v))).apply ctx scope ids) := by
  have hkey : ∀ (v : Variable) (a : Option Variable) (ids : List Nat),
      Outcomes S (fun _ => True) ((GroupKey.variable v a).apply ctx scope ids) := fun v a ids => by
    rw [GroupKey.apply_eq]
    refine (Outcomes.mapM fun _ _ => ?_).map
    rw [GroupKey.classOf_variable]
    exact outcomes_pure trivial
  cases vars with
  | nil => exact outcomes_pure trivial
  | cons v rest =>
    rw [List.map_cons, GroupBy.apply_cons]
    refine (hkey v _ ids).bind fun _ _ => Outcomes.foldlM fun gs k hk => ?_
    obtain ⟨w, -, rfl⟩ := List.mem_map.1 hk
    rw [GroupKey.subdivide_eq]
    exact Outcomes.foldlM fun _ g _ => (hkey w _ g.ids).map

namespace EvalEnv

variable {opts : QueryOptions} {d : Nat} {inner : EvalEnv → GraphPattern → EvalM Multiset}
  {env : EvalEnv}

/-- `inner` evaluates every pattern in which `EXISTS` nests less than `d` deep,
under the options `opts`, failing only as the pattern may. -/
def SoundBelow (opts : QueryOptions) (d : Nat) (inner : EvalEnv → GraphPattern → EvalM Multiset) :
    Prop :=
  ∀ q env, q.existsDepth < d → env.options = opts →
    Outcomes (q.StopsWith opts) (fun _ => True) (inner env q)

/-- The deadline check fails only with the zero deadline. -/
theorem checkDeadline_outcomes (henv : env.options = opts) (p : GraphPattern) :
    Outcomes (p.StopsWith opts) (fun _ => True) env.checkDeadline := by
  unfold checkDeadline
  split
  · next h =>
    exact outcomes_throw (.inr ⟨.timeout, 0, .timeout p (by rw [← henv]; simpa using h), rfl⟩)
  · exact outcomes_pure trivial

/-- The pattern of an `EXISTS` that failed in the scope of a solution failed
itself, with the same error. -/
theorem scope_patternExists_error {sol : Solution} {q : GraphPattern} {err : QueryError}
    (h : Gives ((env.scope inner sol).patternExists q) (.error err)) :
    ∃ s, (inner { env with seed := existsSeed sol q } q).run s = .error err := by
  obtain ⟨s, hs⟩ := h
  refine ⟨s, ?_⟩
  simp only [scope, StateT.run'_eq, run_bind] at hs
  cases hrun : (inner { env with seed := existsSeed sol q } q).run s with
  | error e =>
    rw [hrun] at hs
    cases hs
    rfl
  | ok p => rw [hrun] at hs; cases hs

/-- An expression of a node fails only with an abnormal stop or as the pattern
of one of its `EXISTS`. -/
theorem eval_expression_outcomes (hinner : SoundBelow opts d inner) {p : GraphPattern}
    (hd : p.existsDepth ≤ d) (henv : env.options = opts) {x : Expression} (hx : x ∈ p.expressions)
    (sol : Solution) :
    Outcomes (p.StopsWith opts) (fun _ => True) (x.eval env.call (env.scope inner sol)) := by
  refine (Expression.eval_outcomes _ _ x).mono (fun err herr => ?_) fun _ _ => trivial
  rcases herr with ⟨q, hq, hgives⟩ | ⟨rfl, -⟩
  · obtain ⟨s, hs⟩ := scope_patternExists_error hgives
    have hdepth : q.existsDepth < d := lt_of_lt_of_le (Expression.existsDepth_lt_of_exists_mem hq)
      ((GraphPattern.existsDepth_le_of_mem_expressions hx).trans hd)
    exact GraphPattern.StopsWith.of_exists hx hq
      ((hinner q { env with seed := existsSeed sol q } hdepth henv).fails s err hs)
  · exact .inl rfl

theorem isTrue_outcomes (hinner : SoundBelow opts d inner) {p : GraphPattern}
    (hd : p.existsDepth ≤ d) (henv : env.options = opts) {x : Expression} (hx : x ∈ p.expressions)
    (sol : Solution) : Outcomes (p.StopsWith opts) (fun _ => True) (env.isTrue inner sol x) := by
  unfold isTrue
  exact (eval_expression_outcomes hinner hd henv hx sol).bind fun _ _ => outcomes_pure trivial

/-- What an operand evaluated at the same level fails with, the whole may fail with. -/
theorem outcomes_of_operand {p q : GraphPattern} (hq : q ∈ p.operands) {x : EvalM Multiset}
    (h : q.existsDepth ≤ d → Outcomes (q.StopsWith opts) (fun _ => True) x) (hd : p.existsDepth ≤ d) :
    Outcomes (p.StopsWith opts) (fun _ => True) x :=
  (h ((GraphPattern.existsDepth_le_of_mem_operands hq).trans hd)).mono
    (fun _ => GraphPattern.StopsWith.of_operand hq) fun _ _ => trivial

/-- An aggregate of a `GROUP BY` node, over solutions of the node's operand,
fails only with an abnormal stop, with an unknown function, or as the pattern of
an `EXISTS` in its argument. -/
theorem aggregate_outcomes (hinner : SoundBelow opts d inner) {p : GraphPattern}
    {vars : List Variable} {aggs : List (Variable × Aggregate)}
    (hd : (GraphPattern.group p vars aggs).existsDepth ≤ d) (henv : env.options = opts)
    {v : Variable} {a : Aggregate} (hmem : (v, a) ∈ aggs) (vs : List Variable) (ids : List Nat)
    (sol : Nat → Solution) :
    Outcomes ((GraphPattern.group p vars aggs).StopsWith opts) (fun _ => True)
      (a.apply env.call vs (ids.map fun id => env.scope inner (sol id))) := by
  cases a with
  | countSolutions distinct => cases distinct <;> exact outcomes_pure trivial
  | call f e distinct =>
    have he : e ∈ (GraphPattern.group p vars aggs).expressions :=
      List.mem_filterMap.2 ⟨(v, .call f e distinct), hmem, rfl⟩
    refine (outcomes_monadLift fun err herr => .inr ⟨err, 0, .aggregate hmem herr, rfl⟩).bind
      fun acc _ => Accumulator.outcomes_run (.inl rfl) acc [] fun sc hsc => ?_
    obtain ⟨id, -, rfl⟩ := List.mem_map.1 hsc
    exact eval_expression_outcomes hinner hd henv he (sol id)

/-- **One level of the evaluator.**  With `inner` sound for the patterns of the
`EXISTS` below, a node fails only with an error raised at it, with an error of an
operand, with an error of the pattern of one of its `EXISTS`, or, at a
projection, with the error of its sub-query wrapped once; an abnormal stop is
passed on as it is. -/
theorem evalWith_outcomes (hinner : SoundBelow opts d inner) :
    ∀ (p : GraphPattern) (env : EvalEnv), p.existsDepth ≤ d → env.options = opts →
      Outcomes (p.StopsWith opts) (fun _ => True) (evalWith inner env p)
  | .bgp _, env, _, henv | .path _ _ _, env, _, henv | .values _ _, env, _, henv => by
    rw [evalWith]
    exact (checkDeadline_outcomes henv _).bind fun _ _ => outcomes_pure trivial
  | .join l r, env, hd, henv | .union l r, env, hd, henv | .minus l r, env, hd, henv => by
    rw [evalWith]
    exact (checkDeadline_outcomes henv _).bind fun _ _ =>
      (outcomes_of_operand (by simp [GraphPattern.operands])
        (evalWith_outcomes hinner l env · henv) hd).bind fun _ _ =>
      (outcomes_of_operand (by simp [GraphPattern.operands])
        (evalWith_outcomes hinner r env · henv) hd).bind fun _ _ => outcomes_pure trivial
  | .leftJoin l r c, env, hd, henv => by
    rw [evalWith]
    refine (checkDeadline_outcomes henv _).bind fun _ _ =>
      (outcomes_of_operand (by simp [GraphPattern.operands])
        (evalWith_outcomes hinner l env · henv) hd).bind fun _ _ =>
      (outcomes_of_operand (by simp [GraphPattern.operands])
        (evalWith_outcomes hinner r env · henv) hd).bind fun _ _ =>
      Multiset.outcomes_leftJoin fun sol => ?_
    cases c with
    | none => exact outcomes_pure trivial
    | some x => exact isTrue_outcomes hinner hd henv (by simp [GraphPattern.expressions]) sol
  | .filter c q, env, hd, henv => by
    rw [evalWith]
    exact (checkDeadline_outcomes henv _).bind fun _ _ =>
      (outcomes_of_operand (by simp [GraphPattern.operands])
        (evalWith_outcomes hinner q env · henv) hd).bind fun _ _ =>
      Multiset.outcomes_filterM fun sol =>
        isTrue_outcomes hinner hd henv (by simp [GraphPattern.expressions]) sol
  | .graph (.iri g) q, env, hd, henv => by
    rw [evalWith]
    refine (checkDeadline_outcomes henv _).bind fun _ _ => ?_
    split
    · exact outcomes_pure trivial
    · exact outcomes_of_operand (by simp [GraphPattern.operands])
        (evalWith_outcomes hinner q _ · henv) hd
  | .graph (.var v) q, env, hd, henv => by
    rw [evalWith_graph_var]
    -- one evaluation of the pattern per named graph
    exact (checkDeadline_outcomes henv _).bind fun _ _ => Outcomes.foldlM fun _ g _ =>
      (outcomes_of_operand (by simp [GraphPattern.operands])
        (evalWith_outcomes hinner q { env with active := .named g } · henv) hd).bind fun _ _ =>
      outcomes_pure trivial
  | .extend q v x, env, hd, henv => by
    rw [evalWith]
    exact (checkDeadline_outcomes henv _).bind fun _ _ =>
      (outcomes_of_operand (by simp [GraphPattern.operands])
        (evalWith_outcomes hinner q env · henv) hd).bind fun _ _ =>
      Multiset.outcomes_extendM fun sol =>
        (eval_expression_outcomes hinner hd henv (by simp [GraphPattern.expressions]) sol).bind
          fun _ _ => outcomes_pure trivial
  | .orderBy q keys, env, hd, henv => by
    rw [evalWith]
    refine (checkDeadline_outcomes henv _).bind fun _ _ =>
      (outcomes_of_operand (by simp [GraphPattern.operands])
        (evalWith_outcomes hinner q env · henv) hd).bind fun m _ =>
      (Outcomes.mapM fun _ _ => ?_).bind fun _ _ => ?_
    · -- the keys of one solution
      exact (Outcomes.mapM fun k hk =>
        (eval_expression_outcomes hinner hd henv (List.mem_map_of_mem hk) _).bind fun _ _ =>
          outcomes_pure trivial).bind fun _ _ => outcomes_pure trivial
    · -- the sort stops abnormally if it cannot finish
      split
      · exact outcomes_pure trivial
      · exact outcomes_throw (.inl rfl)
  | .project q vars, env, hd, henv => by
    rw [evalWith]
    refine (checkDeadline_outcomes henv _).bind fun _ _ =>
      (Outcomes.tryCatch (evalWith_outcomes hinner q { env with seed := env.seed.map (·.project vars) }
        hd henv) fun e he => outcomes_throw ?_).bind
        fun _ _ => outcomes_pure trivial
    -- the sub-query's error is wrapped once more
    split
    · exact .inl rfl
    · next habort =>
      rcases he with rfl | ⟨e', k, hraise, rfl⟩
      · exact absurd rfl habort
      · exact .inr ⟨e', k + 1, .subQuery hraise, rfl⟩
  | .distinct q, env, hd, henv | .reduced q, env, hd, henv | .slice q _ _, env, hd, henv => by
    rw [evalWith]
    exact (checkDeadline_outcomes henv _).bind fun _ _ =>
      (outcomes_of_operand (by simp [GraphPattern.operands])
        (evalWith_outcomes hinner q env · henv) hd).bind fun _ _ => outcomes_pure trivial
  | .group q vars aggs, env, hd, henv => by
    rw [evalWith]
    refine (checkDeadline_outcomes henv _).bind fun _ _ =>
      (outcomes_of_operand (by simp [GraphPattern.operands])
        (evalWith_outcomes hinner q env · henv) hd).bind fun m _ =>
      (Outcomes.forIn fun agg hagg _ => ?_).bind fun _ _ =>
      (GroupBy.outcomes_apply_variables _ _ vars m.ids).bind fun groups _ =>
      (Outcomes.forIn fun g _ _ => ?_).bind fun _ _ => outcomes_pure trivial
    · -- every aggregate function is known
      obtain ⟨v, a⟩ := agg
      cases a with
      | countSolutions _ => exact outcomes_pure trivial
      | call f x distinct =>
        exact (outcomes_monadLift fun err herr => .inr ⟨err, 0, .aggregate hagg herr, rfl⟩).bind
          fun _ _ => outcomes_pure trivial
    · -- the aggregates of one group
      refine (Outcomes.mapM fun agg hagg => ?_).bind fun _ _ => outcomes_pure trivial
      obtain ⟨v, a⟩ := agg
      exact (aggregate_outcomes hinner hd henv hagg _ _ _).bind fun _ _ => outcomes_pure trivial
  | .service name q silent, env, _, henv => by
    rw [evalWith]
    exact (checkDeadline_outcomes henv _).bind fun _ _ =>
      outcomes_throw (.inr ⟨_, 0, .service name q silent, rfl⟩)

/-- **A whole evaluation**, with more levels than `EXISTS` nests, fails only as
the pattern may: in particular it never runs out of levels. -/
theorem evalAt_outcomes (opts : QueryOptions) : ∀ (fuel : Nat) (p : GraphPattern) (env : EvalEnv),
    p.existsDepth < fuel → env.options = opts →
      Outcomes (p.StopsWith opts) (fun _ => True) (evalAt fuel env p)
  | 0, _, _, h, _ => absurd h (Nat.not_lt_zero _)
  | fuel + 1, p, env, h, henv => by
    rw [evalAt]
    -- the patterns of the `EXISTS` are evaluated with one level less
    exact evalWith_outcomes (fun q env' hq henv' => evalAt_outcomes opts fuel q env' hq henv') p env
      (Nat.lt_succ_iff.1 h) henv

theorem eval_outcomes (henv : env.options = opts) (p : GraphPattern) :
    Outcomes (p.StopsWith opts) (fun _ => True) (env.eval p) :=
  evalAt_outcomes opts _ p env (Nat.lt_succ_self _) henv

end EvalEnv

namespace EvalEnv

variable {env : EvalEnv} {S : QueryError → Prop}

/-- The query's own projection, distinct and slice add no failure to the
evaluation of the pattern below them. -/
theorem evalQuery_outcomes (p : GraphPattern) (h : Outcomes S (fun _ => True) (env.eval p.queryBody)) :
    Outcomes S (fun _ => True) (env.evalQuery p) := by
  fun_induction evalQuery env p with
  | case1 p vars => exact h.bind fun _ _ => outcomes_pure trivial
  | case2 p ih | case3 p ih | case4 p _ _ ih => exact (ih h).bind fun _ _ => outcomes_pure trivial
  | case5 p hproject hdistinct hreduced hslice =>
    -- any other root is evaluated as it is
    have hbody : p.queryBody = p := by
      cases p with
      | project q vars => exact absurd rfl (hproject q vars)
      | distinct q => exact absurd rfl (hdistinct q)
      | reduced q => exact absurd rfl (hreduced q)
      | slice q start length => exact absurd rfl (hslice q start length)
      | _ => rfl
    rwa [hbody] at h

end EvalEnv

/-- Preparing a pattern never fails. -/
theorem GraphPattern.prepare_ok (options : QueryOptions) (model : Option Weightings)
    (p : GraphPattern) : ∃ q, p.prepare options model = .ok q := by
  obtain ⟨lowered, hl, -⟩ := p.lowerPaths_everywhere
  simp only [GraphPattern.prepare, hl]
  split <;> exact ⟨_, rfl⟩

/-- Building the graph of `CONSTRUCT` never fails. -/
theorem construct_outcomes {S : QueryError → Prop} (template : List TriplePattern) (m : Multiset) :
    Outcomes S (fun _ => True) (construct template m) where
  fails n _ he := by
    rw [construct_run] at he
    cases he
  returns _ _ _ _ := trivial

namespace Query

variable {q : Query} {dataset : Dataset} {options : QueryOptions} {model : Option Weightings}

/-- A query fails as the evaluation of its prepared pattern may: each form runs
the evaluation, then steps that never fail. -/
theorem evaluate_stopsWith {err : QueryError} (h : q.evaluate dataset options model = .error err) :
    ∃ pattern, q.pattern.prepare options model = .ok pattern ∧
      (q.form.evaluated pattern).StopsWith options err := by
  obtain ⟨pattern, hprep⟩ := q.pattern.prepare_ok options model
  refine ⟨pattern, hprep, ?_⟩
  have henv : (q.evalEnv dataset options).options = options := rfl
  simp only [evaluate, hprep] at h
  cases hform : q.form with
  | select =>
    rw [hform] at h
    exact ((EvalEnv.evalQuery_outcomes pattern (EvalEnv.eval_outcomes henv _)).bind fun _ _ =>
      outcomes_pure (P := fun _ => True) trivial).fails 0 err (run_of_run'_error h)
  | ask =>
    rw [hform] at h
    exact ((EvalEnv.eval_outcomes henv _).bind fun _ _ => outcomes_pure (P := fun _ => True) trivial).fails 0 err
      (run_of_run'_error h)
  | construct template =>
    rw [hform] at h
    exact ((EvalEnv.eval_outcomes henv _).bind fun m _ => (construct_outcomes template m).bind
      fun _ _ => outcomes_pure (P := fun _ => True) trivial).fails 0 err (run_of_run'_error h)
  | describe =>
    rw [hform] at h
    exact ((EvalEnv.evalQuery_outcomes pattern (EvalEnv.eval_outcomes henv _)).bind fun _ _ =>
      outcomes_pure (P := fun _ => True) trivial).fails 0 err (run_of_run'_error h)

/-- **Sub-query errors are wrapped once per level.**  A query fails only with an
abnormal stop, or with an error `e` raised at a node of its prepared pattern,
wrapped as the error of a sub-query once for each of the `k` projections that
enclose the node, the query's own projection of `SELECT` and `DESCRIBE` apart. -/
theorem errors_wrapped_once_per_projection (q : Query) (dataset : Dataset) (options : QueryOptions)
    (model : Option Weightings) (err : QueryError) (h : q.evaluate dataset options model = .error err) :
    err = .abort ∨ ∃ pattern e k, q.pattern.prepare options model = .ok pattern ∧
      (q.form.evaluated pattern).Raises options e k ∧ err = e.wrap k := by
  obtain ⟨pattern, hprep, hstops⟩ := evaluate_stopsWith h
  rcases hstops with rfl | ⟨e, k, hraise, rfl⟩
  · exact .inl rfl
  · exact .inr ⟨pattern, e, k, hprep, hraise, rfl⟩

/-- `SERVICE` inside a sub-query of a `SELECT` query: the error is wrapped once,
by the inner projection; the query's own projection wraps nothing. -/
theorem service_error_wrapped_once :
    let q : Query := ⟨.select, none,
      .project (.project (.service (.iri "http://ex/s") (.bgp []) false) []) [], none⟩
    q.evaluate default {} none = .error (.subQuery (.notImplemented "SERVICE <http://ex/s>")) ∧
      (QueryError.subQuery (.notImplemented "SERVICE <http://ex/s>") = .abort ∨
        ∃ pattern e k, q.pattern.prepare {} none = .ok pattern ∧
          (q.form.evaluated pattern).Raises {} e k ∧
          QueryError.subQuery (.notImplemented "SERVICE <http://ex/s>") = e.wrap k) :=
  ⟨rfl, errors_wrapped_once_per_projection _ default {} none _ rfl⟩

end Query

end SparqlBag
