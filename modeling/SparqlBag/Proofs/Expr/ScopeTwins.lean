import SparqlBag.Proofs.Plan.Preserved
import SparqlBag.Proofs.Engine.Outcome
import SparqlBag.Expr.Eval

/-!
# Expressions in scopes that read the same

An expression reads two things from its scope: the values of variables in the
solution, and whether the patterns of its `EXISTS` have a solution.  Two scopes
that read the same (`Scope.Twins`) give the same values for every variable, and
decide `EXISTS` alike for an optimised pattern and the pattern itself.  In them
an expression and its optimised form evaluate alike (`Expression.related_eval`),
provided it calls no function that draws fresh values: those read the counter,
and two evaluations that start from different counters draw different values.
-/

namespace SparqlBag

variable {α β : Type} {E : QueryError → Prop}

/-- Related by equality first, the same continuation after. -/
theorem Related.bind_eq {S : β → β → Prop} {x x' : EvalM α} {f f' : α → EvalM β}
    (hx : Related E (· = ·) x x') (hf : ∀ a, Related E S (f a) (f' a)) : Related E S (x >>= f) (x' >>= f') :=
  hx.bind fun a _ h => h ▸ hf a

/-- A computation whose outcome does not depend on the counter is related to itself. -/
theorem related_self_of_run' {x : EvalM α} (r : Except QueryError α) (h : ∀ n, x.run' n = r) :
    Related E (· = ·) x x := by
  intro s s'
  rw [h s, h s']
  cases r with
  | error e => exact .error e e
  | ok a => exact .ok rfl

/-- A computation that never reads the counter is related to itself. -/
theorem related_liftM (x : Except QueryError α) : Related E (· = ·) (liftM x : EvalM α) (liftM x) :=
  related_self_of_run' x fun _ => by cases x <;> rfl

/-- **A call that draws no fresh value answers alike from any counter.** -/
theorem callFunction_related (ctx : CallContext) {f : Function} (hf : f.drawsFresh = false)
    (args : List Term) : Related E (· = ·) (callFunction ctx f args) (callFunction ctx f args) := by
  unfold callFunction
  -- Every branch is a value but the four that draw, ruled out, and the three
  -- that cut text, which may stop the query but never read the counter.
  split <;> first
    | exact related_self_of_run' (.ok _) fun _ => rfl
    | exact absurd hf (by decide)
    | exact related_liftM _
    | exact (related_liftM _).bind_eq fun _ => related_pure rfl

namespace Scope

/-- Two scopes that read the same for the optimiser `r`: the same value for
every variable, and `EXISTS` decided alike for the optimised form of an
order-free pattern and the pattern itself. -/
structure Twins (E : QueryError → Prop) (r : PatternRanking) (sorts : Bool) (sc sc' : Scope) : Prop where
  get_eq : sc.solution.get = sc'.solution.get
  exists_related : ∀ p : GraphPattern, p.orderFree sorts →
    Related E (· = ·) (sc.patternExists (p.optimise r)) (sc'.patternExists p)

end Scope

namespace Expression

variable {r : PatternRanking} {sorts : Bool} {sc sc' : Scope} (ctx : CallContext)

mutual

/-- **An expression and its optimised form evaluate alike in twin scopes.** -/
theorem related_eval (h : sc.Twins E r sorts sc') :
    ∀ e : Expression, e.orderFree sorts → Related E (· = ·) ((e.optimise r).eval ctx sc) (e.eval ctx sc')
  | .iri _, _ | .literal _, _ => related_pure rfl
  | .var v, _ => by
    simp only [optimise, eval]
    exact related_pure (by rw [h.get_eq])
  | .bound v, _ => by
    simp only [optimise, eval]
    exact related_pure (by rw [h.get_eq])
  | .or a b, he => by
    simp only [orderFree, Bool.and_eq_true] at he
    simp only [optimise, eval]
    refine (related_eval h a he.1).bind_eq fun x => ?_
    split
    · exact related_pure rfl
    · exact (related_eval h b he.2).bind_eq fun _ => related_pure rfl
  | .and a b, he => by
    simp only [orderFree, Bool.and_eq_true] at he
    simp only [optimise, eval]
    refine (related_eval h a he.1).bind_eq fun x => ?_
    split
    · exact related_pure rfl
    · exact (related_eval h b he.2).bind_eq fun _ => related_pure rfl
  | .equal a b, he | .sameTerm a b, he | .greater a b, he | .greaterOrEqual a b, he
  | .less a b, he | .lessOrEqual a b, he | .add a b, he | .subtract a b, he
  | .multiply a b, he | .divide a b, he => by
    simp only [orderFree, Bool.and_eq_true] at he
    simp only [optimise, eval]
    exact (related_eval h a he.1).bind_eq fun _ => (related_eval h b he.2).bind_eq fun _ => related_pure rfl
  | .unaryPlus a, he | .unaryMinus a, he | .not a, he => by
    simp only [orderFree] at he
    simp only [optimise, eval]
    exact (related_eval h a he).bind_eq fun _ => related_pure rfl
  | .in a l, he => by
    simp only [orderFree, Bool.and_eq_true] at he
    simp only [optimise, eval]
    refine (related_eval h a he.1).bind_eq fun x => ?_
    split
    · exact related_evalIn h _ false l he.2
    · exact related_pure rfl
  | .exists p, he => by
    simp only [orderFree] at he
    simp only [optimise, eval]
    exact (h.exists_related p he).bind_eq fun _ => related_pure rfl
  | .if a b c, he => by
    simp only [orderFree, Bool.and_eq_true] at he
    simp only [optimise, eval]
    refine (related_eval h a he.1.1).bind_eq fun x => ?_
    split
    · exact related_eval h b he.1.2
    · exact related_eval h c he.2
    · exact related_pure rfl
  | .coalesce l, he => by
    simp only [orderFree] at he
    simp only [optimise, eval]
    exact related_evalFirstBound h l he
  | .call f l, he => by
    simp only [orderFree, Bool.and_eq_true, Bool.not_eq_eq_eq_not, Bool.not_true] at he
    simp only [optimise, eval]
    refine (related_evalArgs h l he.2).bind_eq fun x => ?_
    split
    · exact (callFunction_related ctx he.1 _).bind_eq fun _ => related_pure rfl
    · exact related_pure rfl

theorem related_evalIn (h : sc.Twins E r sorts sc') (needle : Term) :
    ∀ (sawError : Bool) (l : List Expression), orderFreeList sorts l →
      Related E (· = ·) (evalIn ctx sc needle sawError (optimiseList r l)) (evalIn ctx sc' needle sawError l)
  | _, [], _ => related_pure rfl
  | sawError, e :: rest, he => by
    simp only [orderFreeList, Bool.and_eq_true] at he
    simp only [optimiseList, evalIn]
    refine (related_eval h e he.1).bind_eq fun x => ?_
    split
    · exact related_pure rfl
    · exact related_evalIn h needle sawError rest he.2
    · exact related_evalIn h needle true rest he.2

theorem related_evalFirstBound (h : sc.Twins E r sorts sc') :
    ∀ l : List Expression, orderFreeList sorts l →
      Related E (· = ·) (evalFirstBound ctx sc (optimiseList r l)) (evalFirstBound ctx sc' l)
  | [], _ => related_pure rfl
  | e :: rest, he => by
    simp only [orderFreeList, Bool.and_eq_true] at he
    simp only [optimiseList, evalFirstBound]
    refine (related_eval h e he.1).bind_eq fun x => ?_
    split
    · exact related_pure rfl
    · exact related_evalFirstBound h rest he.2

theorem related_evalArgs (h : sc.Twins E r sorts sc') :
    ∀ l : List Expression, orderFreeList sorts l →
      Related E (· = ·) (evalArgs ctx sc (optimiseList r l)) (evalArgs ctx sc' l)
  | [], _ => related_pure rfl
  | e :: rest, he => by
    simp only [orderFreeList, Bool.and_eq_true] at he
    simp only [optimiseList, evalArgs]
    refine (related_eval h e he.1).bind_eq fun x => ?_
    split
    · exact (related_evalArgs h rest he.2).bind_eq fun _ => related_pure rfl
    · exact related_pure rfl

end

end Expression

end SparqlBag
