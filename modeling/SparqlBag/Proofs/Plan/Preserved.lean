import SparqlBag.Proofs.Plan.Optimise
import SparqlBag.Algebra.Variables

/-!
# What the optimiser keeps

`GraphPattern.optimise` is a bottom-up rewrite in the identity monad: it reorders
basic graph patterns, merges a join of two, and otherwise rebuilds each node from
its optimised children; in an expression it optimises the patterns of `EXISTS`
only (`Expression.optimise`, equal to the rewrite by `Expression.optimise_eq_run`).
It keeps the variables a pattern mentions, which choose the seed of an `EXISTS`
(`GraphPattern.mem_mentioned_optimise`), and how deeply `EXISTS` nest, the
evaluator's fuel (`GraphPattern.existsDepth_optimise`).  `GraphPattern.orderFree`
names the patterns whose solutions do not depend on the order of rows below them.
-/

namespace SparqlBag

/-- The functions that draw from the counter of fresh values. -/
def Function.drawsFresh : Function → Bool
  | .bnode | .rand | .uuid | .strUuid => true
  | _ => false

mutual

/-- Patterns whose solutions, counted as a multiset, do not depend on the order
of the rows below them: no slice, no group (whose aggregates may read the
order) and no service; no function that draws fresh values; projections and
`VALUES` over variables named once; `ORDER BY` only when `sorts` allows it. -/
def GraphPattern.orderFree (sorts : Bool) : GraphPattern → Bool
  | .bgp _ | .path .. => true
  | .values vs _ => vs.Nodup
  | .join l r | .union l r | .minus l r => l.orderFree sorts && r.orderFree sorts
  | .leftJoin l r e => l.orderFree sorts && r.orderFree sorts && Expression.orderFreeOption sorts e
  | .filter e inner => e.orderFree sorts && inner.orderFree sorts
  | .graph _ inner | .distinct inner | .reduced inner => inner.orderFree sorts
  | .extend inner _ e => inner.orderFree sorts && e.orderFree sorts
  | .orderBy inner keys => sorts && inner.orderFree sorts && OrderKey.orderFreeList sorts keys
  | .project inner vs => vs.Nodup && inner.orderFree sorts
  | .slice .. | .group .. | .service .. => false

/-- Expressions that call no function drawing fresh values, and whose `EXISTS`
patterns are order-free. -/
def Expression.orderFree (sorts : Bool) : Expression → Bool
  | .iri _ | .literal _ | .var _ | .bound _ => true
  | .or a b | .and a b | .equal a b | .sameTerm a b | .greater a b | .greaterOrEqual a b
  | .less a b | .lessOrEqual a b | .add a b | .subtract a b | .multiply a b | .divide a b =>
    a.orderFree sorts && b.orderFree sorts
  | .unaryPlus a | .unaryMinus a | .not a => a.orderFree sorts
  | .in a l => a.orderFree sorts && Expression.orderFreeList sorts l
  | .if a b c => a.orderFree sorts && b.orderFree sorts && c.orderFree sorts
  | .coalesce l => Expression.orderFreeList sorts l
  | .call f l => !f.drawsFresh && Expression.orderFreeList sorts l
  | .exists p => p.orderFree sorts

def Expression.orderFreeList (sorts : Bool) : List Expression → Bool
  | [] => true
  | e :: rest => e.orderFree sorts && Expression.orderFreeList sorts rest

def Expression.orderFreeOption (sorts : Bool) : Option Expression → Bool
  | none => true
  | some e => e.orderFree sorts

def OrderKey.orderFreeList (sorts : Bool) : List OrderKey → Bool
  | [] => true
  | .asc e :: rest | .desc e :: rest => e.orderFree sorts && OrderKey.orderFreeList sorts rest

end

/-! ## The optimiser, node by node -/

mutual

/-- The optimiser on an expression: the patterns of its `EXISTS` are optimised. -/
def Expression.optimise (r : PatternRanking) : Expression → Expression
  | .iri i => .iri i
  | .literal l => .literal l
  | .var v => .var v
  | .bound v => .bound v
  | .or a b => .or (a.optimise r) (b.optimise r)
  | .and a b => .and (a.optimise r) (b.optimise r)
  | .equal a b => .equal (a.optimise r) (b.optimise r)
  | .sameTerm a b => .sameTerm (a.optimise r) (b.optimise r)
  | .greater a b => .greater (a.optimise r) (b.optimise r)
  | .greaterOrEqual a b => .greaterOrEqual (a.optimise r) (b.optimise r)
  | .less a b => .less (a.optimise r) (b.optimise r)
  | .lessOrEqual a b => .lessOrEqual (a.optimise r) (b.optimise r)
  | .add a b => .add (a.optimise r) (b.optimise r)
  | .subtract a b => .subtract (a.optimise r) (b.optimise r)
  | .multiply a b => .multiply (a.optimise r) (b.optimise r)
  | .divide a b => .divide (a.optimise r) (b.optimise r)
  | .unaryPlus a => .unaryPlus (a.optimise r)
  | .unaryMinus a => .unaryMinus (a.optimise r)
  | .not a => .not (a.optimise r)
  | .in a l => .in (a.optimise r) (Expression.optimiseList r l)
  | .if a b c => .if (a.optimise r) (b.optimise r) (c.optimise r)
  | .coalesce l => .coalesce (Expression.optimiseList r l)
  | .call f l => .call f (Expression.optimiseList r l)
  | .exists p => .exists (p.optimise r)

def Expression.optimiseList (r : PatternRanking) : List Expression → List Expression
  | [] => []
  | e :: rest => e.optimise r :: Expression.optimiseList r rest

end

/-- The optimiser on an `ORDER BY` key. -/
def OrderKey.optimise (r : PatternRanking) : OrderKey → OrderKey
  | .asc e => .asc (e.optimise r)
  | .desc e => .desc (e.optimise r)

variable (r : PatternRanking)

mutual

/-- **The optimiser on an expression is the rewrite** that the optimiser of
patterns runs on it. -/
theorem Expression.optimise_eq_run : ∀ e : Expression, e.optimise r = Id.run (e.rewriteUp r.mergeStep)
  | .iri _ | .literal _ | .var _ | .bound _ | .exists _ => rfl
  | .or a b | .and a b | .equal a b | .sameTerm a b | .greater a b | .greaterOrEqual a b
  | .less a b | .lessOrEqual a b | .add a b | .subtract a b | .multiply a b | .divide a b => by
    rw [Expression.optimise, a.optimise_eq_run, b.optimise_eq_run]
    rfl
  | .unaryPlus a | .unaryMinus a | .not a => by
    rw [Expression.optimise, a.optimise_eq_run]
    rfl
  | .in a l => by
    rw [Expression.optimise, a.optimise_eq_run, Expression.optimiseList_eq_run l]
    rfl
  | .if a b c => by
    rw [Expression.optimise, a.optimise_eq_run, b.optimise_eq_run, c.optimise_eq_run]
    rfl
  | .coalesce l | .call _ l => by
    rw [Expression.optimise, Expression.optimiseList_eq_run l]
    rfl

theorem Expression.optimiseList_eq_run :
    ∀ l : List Expression, Expression.optimiseList r l = Id.run (Expression.rewriteList r.mergeStep l)
  | [] => rfl
  | e :: rest => by
    rw [Expression.optimiseList, e.optimise_eq_run, Expression.optimiseList_eq_run rest]
    rfl

end

theorem Expression.rewriteOption_run (e : Option Expression) :
    Id.run (Expression.rewriteOption r.mergeStep e) = e.map (Expression.optimise r) := by
  cases e with
  | none => rfl
  | some e =>
    rw [Option.map_some, Expression.optimise_eq_run]
    rfl

theorem OrderKey.rewriteList_run (keys : List OrderKey) :
    Id.run (OrderKey.rewriteList r.mergeStep keys) = keys.map (OrderKey.optimise r) := by
  induction keys with
  | nil => rfl
  | cons k rest ih =>
    cases k with
    | asc e =>
      rw [List.map_cons, OrderKey.optimise, Expression.optimise_eq_run, ← ih]
      rfl
    | desc e =>
      rw [List.map_cons, OrderKey.optimise, Expression.optimise_eq_run, ← ih]
      rfl

namespace GraphPattern

@[simp] theorem optimise_bgp (ps : List TriplePattern) : (bgp ps).optimise r = bgp (r.reorder ps) := rfl

@[simp] theorem optimise_path (s : TermPattern) (q : PropertyPath) (o : TermPattern) :
    (path s q o).optimise r = path s q o := rfl

@[simp] theorem optimise_values (vs : List Variable) (rows : List (List (Option Term))) :
    (values vs rows).optimise r = values vs rows := rfl

/-- A join is rebuilt from its optimised sides, and merged if both are basic
graph patterns. -/
theorem optimise_join (l q : GraphPattern) :
    (join l q).optimise r = Id.run (r.mergeStep (join (l.optimise r) (q.optimise r))) := rfl

@[simp] theorem optimise_leftJoin (l q : GraphPattern) (e : Option Expression) :
    (leftJoin l q e).optimise r = leftJoin (l.optimise r) (q.optimise r) (e.map (Expression.optimise r)) := by
  rw [← Expression.rewriteOption_run]
  rfl

@[simp] theorem optimise_filter (e : Expression) (p : GraphPattern) :
    (filter e p).optimise r = filter (e.optimise r) (p.optimise r) := by
  rw [Expression.optimise_eq_run]
  rfl

@[simp] theorem optimise_union (l q : GraphPattern) :
    (union l q).optimise r = union (l.optimise r) (q.optimise r) := rfl

@[simp] theorem optimise_graph (name : IriPattern) (p : GraphPattern) :
    (graph name p).optimise r = graph name (p.optimise r) := rfl

@[simp] theorem optimise_extend (p : GraphPattern) (v : Variable) (e : Expression) :
    (extend p v e).optimise r = extend (p.optimise r) v (e.optimise r) := by
  rw [Expression.optimise_eq_run]
  rfl

@[simp] theorem optimise_minus (l q : GraphPattern) :
    (minus l q).optimise r = minus (l.optimise r) (q.optimise r) := rfl

@[simp] theorem optimise_orderBy (p : GraphPattern) (keys : List OrderKey) :
    (orderBy p keys).optimise r = orderBy (p.optimise r) (keys.map (OrderKey.optimise r)) := by
  rw [← OrderKey.rewriteList_run]
  rfl

@[simp] theorem optimise_project (p : GraphPattern) (vs : List Variable) :
    (project p vs).optimise r = project (p.optimise r) vs := rfl

@[simp] theorem optimise_distinct (p : GraphPattern) : (distinct p).optimise r = distinct (p.optimise r) := rfl

@[simp] theorem optimise_reduced (p : GraphPattern) : (reduced p).optimise r = reduced (p.optimise r) := rfl

@[simp] theorem optimise_slice (p : GraphPattern) (start : Nat) (length : Option Nat) :
    (slice p start length).optimise r = slice (p.optimise r) start length := rfl

@[simp] theorem optimise_group (p : GraphPattern) (vs : List Variable) (aggs : List (Variable × Aggregate)) :
    (group p vs aggs).optimise r = group (p.optimise r) vs aggs := rfl

@[simp] theorem optimise_service (name : IriPattern) (p : GraphPattern) (silent : Bool) :
    (service name p silent).optimise r = service name (p.optimise r) silent := rfl

/-- The three things a join can become: two basic graph patterns merged, or the
join of its optimised sides. -/
theorem optimise_join_cases (l q : GraphPattern) :
    (∃ a b, l.optimise r = bgp a ∧ q.optimise r = bgp b ∧
        (join l q).optimise r = bgp (r.reorder (a ++ b))) ∨
      ((join l q).optimise r = join (l.optimise r) (q.optimise r) ∧
        ∀ a b, join (l.optimise r) (q.optimise r) ≠ join (bgp a) (bgp b)) := by
  rw [optimise_join]
  rcases r.mergeStep_cases (join (l.optimise r) (q.optimise r)) with
    ⟨ps, h, -⟩ | ⟨a, b, h, hstep⟩ | ⟨hstep, -, hjoin⟩
  · cases h
  · injection h with hl hq
    exact .inl ⟨a, b, hl, hq, by rw [hstep]; rfl⟩
  · exact .inr ⟨by rw [hstep]; rfl, hjoin⟩

end GraphPattern

/-! ## The variables mentioned -/

section Mentioned

variable (v : Variable)

mutual

/-- **The optimiser keeps the variables a pattern mentions.** -/
theorem GraphPattern.mem_mentioned_optimise : ∀ p : GraphPattern, v ∈ (p.optimise r).mentioned ↔ v ∈ p.mentioned
  | .bgp ps => by
    simp only [GraphPattern.optimise_bgp, GraphPattern.mentioned, List.mem_flatMap,
      (r.reorder_perm ps).mem_iff]
  | .path .. | .values .. => Iff.rfl
  | .join l q => by
    rcases GraphPattern.optimise_join_cases r l q with ⟨a, b, hl, hq, h⟩ | ⟨h, -⟩
    · -- Merged: the triple patterns of both sides, in another order.
      have hl' := l.mem_mentioned_optimise
      have hq' := q.mem_mentioned_optimise
      rw [hl] at hl'
      rw [hq] at hq'
      rw [h, GraphPattern.mentioned, GraphPattern.mentioned, List.mem_append, ← hl', ← hq']
      simp only [GraphPattern.mentioned, List.mem_flatMap, (r.reorder_perm _).mem_iff, List.mem_append,
        or_and_right, exists_or]
    · rw [h]
      simp only [GraphPattern.mentioned, List.mem_append, l.mem_mentioned_optimise, q.mem_mentioned_optimise]
  | .leftJoin l q e => by
    rw [GraphPattern.optimise_leftJoin]
    cases e with
    | none =>
      simp only [GraphPattern.mentioned, Option.map_none, List.mem_append, l.mem_mentioned_optimise,
        q.mem_mentioned_optimise]
    | some e =>
      simp only [GraphPattern.mentioned, Option.map_some, Expression.mentionedOption, List.mem_append,
        l.mem_mentioned_optimise, q.mem_mentioned_optimise, e.mem_mentioned_optimise]
  | .filter e p => by
    simp only [GraphPattern.optimise_filter, GraphPattern.mentioned, List.mem_append,
      e.mem_mentioned_optimise, p.mem_mentioned_optimise]
  | .union l q => by
    simp only [GraphPattern.optimise_union, GraphPattern.mentioned, List.mem_append,
      l.mem_mentioned_optimise, q.mem_mentioned_optimise]
  | .minus l q => by
    simp only [GraphPattern.optimise_minus, GraphPattern.mentioned, List.mem_append,
      l.mem_mentioned_optimise, q.mem_mentioned_optimise]
  | .graph _ p => by
    simp only [GraphPattern.optimise_graph, GraphPattern.mentioned, List.mem_append, p.mem_mentioned_optimise]
  | .service _ p _ => by
    simp only [GraphPattern.optimise_service, GraphPattern.mentioned, List.mem_append,
      p.mem_mentioned_optimise]
  | .extend p _ e => by
    simp only [GraphPattern.optimise_extend, GraphPattern.mentioned, List.mem_cons, List.mem_append,
      e.mem_mentioned_optimise, p.mem_mentioned_optimise]
  | .orderBy p keys => by
    simp only [GraphPattern.optimise_orderBy, GraphPattern.mentioned, List.mem_append,
      OrderKey.mem_mentionedList_optimise keys, p.mem_mentioned_optimise]
  | .project _ _ => Iff.rfl
  | .distinct p => by simp only [GraphPattern.optimise_distinct, GraphPattern.mentioned, p.mem_mentioned_optimise]
  | .reduced p => by simp only [GraphPattern.optimise_reduced, GraphPattern.mentioned, p.mem_mentioned_optimise]
  | .slice p _ _ => by
    simp only [GraphPattern.optimise_slice, GraphPattern.mentioned, p.mem_mentioned_optimise]
  | .group p _ _ => by
    simp only [GraphPattern.optimise_group, GraphPattern.mentioned, List.mem_append, p.mem_mentioned_optimise]

theorem Expression.mem_mentioned_optimise : ∀ e : Expression, v ∈ (e.optimise r).mentioned ↔ v ∈ e.mentioned
  | .iri _ | .literal _ | .var _ | .bound _ => Iff.rfl
  | .or a b | .and a b | .equal a b | .sameTerm a b | .greater a b | .greaterOrEqual a b
  | .less a b | .lessOrEqual a b | .add a b | .subtract a b | .multiply a b | .divide a b => by
    simp only [Expression.optimise, Expression.mentioned, List.mem_append, a.mem_mentioned_optimise,
      b.mem_mentioned_optimise]
  | .unaryPlus a | .unaryMinus a | .not a => by
    simp only [Expression.optimise, Expression.mentioned, a.mem_mentioned_optimise]
  | .in a l => by
    simp only [Expression.optimise, Expression.mentioned, List.mem_append, a.mem_mentioned_optimise,
      Expression.mem_mentionedList_optimise l]
  | .if a b c => by
    simp only [Expression.optimise, Expression.mentioned, List.mem_append, a.mem_mentioned_optimise,
      b.mem_mentioned_optimise, c.mem_mentioned_optimise]
  | .coalesce l | .call _ l => by
    simp only [Expression.optimise, Expression.mentioned, Expression.mem_mentionedList_optimise l]
  | .exists p => by simp only [Expression.optimise, Expression.mentioned, p.mem_mentioned_optimise]

theorem Expression.mem_mentionedList_optimise :
    ∀ l : List Expression, v ∈ Expression.mentionedList (Expression.optimiseList r l) ↔ v ∈ Expression.mentionedList l
  | [] => Iff.rfl
  | e :: rest => by
    simp only [Expression.optimiseList, Expression.mentionedList, List.mem_append, e.mem_mentioned_optimise,
      Expression.mem_mentionedList_optimise rest]

theorem OrderKey.mem_mentionedList_optimise :
    ∀ keys : List OrderKey,
      v ∈ OrderKey.mentionedList (keys.map (OrderKey.optimise r)) ↔ v ∈ OrderKey.mentionedList keys
  | [] => Iff.rfl
  | .asc e :: rest | .desc e :: rest => by
    simp only [List.map_cons, OrderKey.optimise, OrderKey.mentionedList, List.mem_append,
      e.mem_mentioned_optimise, OrderKey.mem_mentionedList_optimise rest]

end

end Mentioned

/-! ## The nesting of `EXISTS` -/

mutual

/-- **The optimiser keeps how deeply `EXISTS` patterns nest.** -/
theorem GraphPattern.existsDepth_optimise : ∀ p : GraphPattern, (p.optimise r).existsDepth = p.existsDepth
  | .bgp _ | .path .. | .values .. => rfl
  | .join l q => by
    rcases GraphPattern.optimise_join_cases r l q with ⟨a, b, hl, hq, h⟩ | ⟨h, -⟩
    · -- Merged: both sides were basic graph patterns, with no `EXISTS`.
      rw [h, GraphPattern.existsDepth, GraphPattern.existsDepth, ← l.existsDepth_optimise,
        ← q.existsDepth_optimise, hl, hq]
      rfl
    · rw [h, GraphPattern.existsDepth, GraphPattern.existsDepth, l.existsDepth_optimise,
        q.existsDepth_optimise]
  | .leftJoin l q e => by
    rw [GraphPattern.optimise_leftJoin]
    cases e with
    | none =>
      simp only [GraphPattern.existsDepth, Option.map_none, l.existsDepth_optimise, q.existsDepth_optimise]
    | some e =>
      simp only [GraphPattern.existsDepth, Option.map_some, Expression.depthOption, l.existsDepth_optimise,
        q.existsDepth_optimise, e.existsDepth_optimise]
  | .filter e p => by
    simp only [GraphPattern.optimise_filter, GraphPattern.existsDepth, e.existsDepth_optimise,
      p.existsDepth_optimise]
  | .union l q => by
    simp only [GraphPattern.optimise_union, GraphPattern.existsDepth, l.existsDepth_optimise,
      q.existsDepth_optimise]
  | .minus l q => by
    simp only [GraphPattern.optimise_minus, GraphPattern.existsDepth, l.existsDepth_optimise,
      q.existsDepth_optimise]
  | .graph _ p => by simp only [GraphPattern.optimise_graph, GraphPattern.existsDepth, p.existsDepth_optimise]
  | .service _ p _ => by
    simp only [GraphPattern.optimise_service, GraphPattern.existsDepth, p.existsDepth_optimise]
  | .extend p _ e => by
    simp only [GraphPattern.optimise_extend, GraphPattern.existsDepth, e.existsDepth_optimise,
      p.existsDepth_optimise]
  | .orderBy p keys => by
    simp only [GraphPattern.optimise_orderBy, GraphPattern.existsDepth, OrderKey.depthList_optimise keys,
      p.existsDepth_optimise]
  | .project p _ => by simp only [GraphPattern.optimise_project, GraphPattern.existsDepth, p.existsDepth_optimise]
  | .distinct p => by simp only [GraphPattern.optimise_distinct, GraphPattern.existsDepth, p.existsDepth_optimise]
  | .reduced p => by simp only [GraphPattern.optimise_reduced, GraphPattern.existsDepth, p.existsDepth_optimise]
  | .slice p _ _ => by
    simp only [GraphPattern.optimise_slice, GraphPattern.existsDepth, p.existsDepth_optimise]
  | .group p _ _ => by simp only [GraphPattern.optimise_group, GraphPattern.existsDepth, p.existsDepth_optimise]

theorem Expression.existsDepth_optimise : ∀ e : Expression, (e.optimise r).existsDepth = e.existsDepth
  | .iri _ | .literal _ | .var _ | .bound _ => rfl
  | .or a b | .and a b | .equal a b | .sameTerm a b | .greater a b | .greaterOrEqual a b
  | .less a b | .lessOrEqual a b | .add a b | .subtract a b | .multiply a b | .divide a b => by
    simp only [Expression.optimise, Expression.existsDepth, a.existsDepth_optimise, b.existsDepth_optimise]
  | .unaryPlus a | .unaryMinus a | .not a => by
    simp only [Expression.optimise, Expression.existsDepth, a.existsDepth_optimise]
  | .in a l => by
    simp only [Expression.optimise, Expression.existsDepth, a.existsDepth_optimise,
      Expression.depthList_optimise l]
  | .if a b c => by
    simp only [Expression.optimise, Expression.existsDepth, a.existsDepth_optimise, b.existsDepth_optimise,
      c.existsDepth_optimise]
  | .coalesce l | .call _ l => by
    simp only [Expression.optimise, Expression.existsDepth, Expression.depthList_optimise l]
  | .exists p => by simp only [Expression.optimise, Expression.existsDepth, p.existsDepth_optimise]

theorem Expression.depthList_optimise :
    ∀ l : List Expression, Expression.depthList (Expression.optimiseList r l) = Expression.depthList l
  | [] => rfl
  | e :: rest => by
    simp only [Expression.optimiseList, Expression.depthList, e.existsDepth_optimise,
      Expression.depthList_optimise rest]

theorem OrderKey.depthList_optimise :
    ∀ keys : List OrderKey, OrderKey.depthList (keys.map (OrderKey.optimise r)) = OrderKey.depthList keys
  | [] => rfl
  | .asc e :: rest | .desc e :: rest => by
    simp only [List.map_cons, OrderKey.optimise, OrderKey.depthList, e.existsDepth_optimise,
      OrderKey.depthList_optimise rest]

end

end SparqlBag
