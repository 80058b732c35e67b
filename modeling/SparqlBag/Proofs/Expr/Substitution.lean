import SparqlBag.Expr.Eval
import SparqlBag.Proofs.Expr.Totality
import SparqlBag.Proofs.Plan.Preserved
import SparqlBag.Proofs.Solution.View

/-!
# Putting values into expressions

An expression reads a variable's value from its scope; a constant written in its
place reads the same, when the value is an IRI or a literal.  For the expressions
that read nothing else of the scope (no `EXISTS`, no `BOUND` of a variable given
a value, no function that draws fresh values or may stop the query), evaluating
the expression with the values of `σ` put in is evaluating it in a scope that
adds `σ` to the solution (`Expression.eval_subst`).  Such an expression is a
value of the solution's mapping alone (`Expression.exists_eval_eq_pure_get`).
-/

namespace SparqlBag

namespace Solution

/-- A variable a solution binds is one of its variables. -/
theorem mem_vars_of_get_ne_none {s : Solution} {v : Variable} (h : s.get v ≠ none) : v ∈ s.vars :=
  by_contra fun hv => h (get_of_not_mem hv s.values)

/-- A mapping that binds only variables of `vars` is the solution of its values over them. -/
theorem get_map_of_bound {μ : Mapping} {vars : List Variable} (h : ∀ v, μ v ≠ none → v ∈ vars) :
    Solution.get ⟨vars, vars.map μ⟩ = μ := by
  funext v
  rw [get_map_self]
  split_ifs with hv
  · rfl
  · exact (by_contra fun hμ => hv (h v hμ) : μ v = none).symm

end Solution

/-- The functions whose call is a value of their arguments: they draw no fresh
value, and they are not `LANGMATCHES`, which may stop the query. -/
def Function.isPure : Function → Bool
  | .bnode | .rand | .uuid | .strUuid | .langMatches => false
  | _ => true

/-- **A pure call is a value**, whatever the counter. -/
theorem callFunction_eq_pure (ctx : CallContext) {f : Function} (hf : f.isPure = true)
    (args : List Term) : ∃ r, callFunction ctx f args = pure r := by
  unfold callFunction
  -- Every branch is a value but the five that are not pure, ruled out, and the
  -- two that cut text between characters, which always answer.
  split <;> first | exact ⟨_, rfl⟩ | exact absurd hf (by decide) | skip
  · next a b =>
    obtain ⟨r, hr⟩ := strBefore_eq_ok a b
    rw [hr]
    exact ⟨r, rfl⟩
  · next a b =>
    obtain ⟨r, hr⟩ := strAfter_eq_ok a b
    rw [hr]
    exact ⟨r, rfl⟩

namespace Expression

mutual

/-- The expression with the values of `σ` written in for its variables, where a
value can be written: an IRI or a literal.  `BOUND` and the patterns of
`EXISTS` are left as they are. -/
def subst (σ : Mapping) : Expression → Expression
  | .iri i => .iri i
  | .literal l => .literal l
  | .var v =>
    match σ v with
    | some (.iri i) => .iri i
    | some (.literal l) => .literal l
    | _ => .var v
  | .or a b => .or (a.subst σ) (b.subst σ)
  | .and a b => .and (a.subst σ) (b.subst σ)
  | .equal a b => .equal (a.subst σ) (b.subst σ)
  | .sameTerm a b => .sameTerm (a.subst σ) (b.subst σ)
  | .greater a b => .greater (a.subst σ) (b.subst σ)
  | .greaterOrEqual a b => .greaterOrEqual (a.subst σ) (b.subst σ)
  | .less a b => .less (a.subst σ) (b.subst σ)
  | .lessOrEqual a b => .lessOrEqual (a.subst σ) (b.subst σ)
  | .in a l => .in (a.subst σ) (substList σ l)
  | .add a b => .add (a.subst σ) (b.subst σ)
  | .subtract a b => .subtract (a.subst σ) (b.subst σ)
  | .multiply a b => .multiply (a.subst σ) (b.subst σ)
  | .divide a b => .divide (a.subst σ) (b.subst σ)
  | .unaryPlus a => .unaryPlus (a.subst σ)
  | .unaryMinus a => .unaryMinus (a.subst σ)
  | .not a => .not (a.subst σ)
  | .exists p => .exists p
  | .bound v => .bound v
  | .if a b c => .if (a.subst σ) (b.subst σ) (c.subst σ)
  | .coalesce l => .coalesce (substList σ l)
  | .call f l => .call f (substList σ l)

def substList (σ : Mapping) : List Expression → List Expression
  | [] => []
  | e :: rest => e.subst σ :: substList σ rest

end

mutual

/-- Whether the values of `σ` can be written into an expression that reads
nothing else of its scope: no `EXISTS`, `BOUND` only of variables `σ` leaves
unbound, no blank node of `σ` read (no constant writes one), and only pure
functions. -/
def substitutable (σ : Mapping) : Expression → Bool
  | .iri _ | .literal _ => true
  | .var v => (σ v).all fun t => !t.isBlank
  | .bound v => (σ v).isNone
  | .exists _ => false
  | .or a b | .and a b | .equal a b | .sameTerm a b | .greater a b | .greaterOrEqual a b
  | .less a b | .lessOrEqual a b | .add a b | .subtract a b | .multiply a b | .divide a b =>
    a.substitutable σ && b.substitutable σ
  | .unaryPlus a | .unaryMinus a | .not a => a.substitutable σ
  | .in a l => a.substitutable σ && substitutableList σ l
  | .if a b c => a.substitutable σ && b.substitutable σ && c.substitutable σ
  | .coalesce l => substitutableList σ l
  | .call f l => f.isPure && substitutableList σ l

def substitutableList (σ : Mapping) : List Expression → Bool
  | [] => true
  | e :: rest => e.substitutable σ && substitutableList σ rest

end

/-! ## Writing in nothing -/

mutual

@[simp] theorem subst_empty : ∀ e : Expression, e.subst Mapping.empty = e
  | .iri _ | .literal _ | .var _ | .exists _ | .bound _ => rfl
  | .or a b | .and a b | .equal a b | .sameTerm a b | .greater a b | .greaterOrEqual a b
  | .less a b | .lessOrEqual a b | .add a b | .subtract a b | .multiply a b | .divide a b => by
    rw [subst, subst_empty a, subst_empty b]
  | .unaryPlus a | .unaryMinus a | .not a => by rw [subst, subst_empty a]
  | .in a l => by rw [subst, subst_empty a, substList_empty l]
  | .if a b c => by rw [subst, subst_empty a, subst_empty b, subst_empty c]
  | .coalesce l | .call _ l => by rw [subst, substList_empty l]

@[simp] theorem substList_empty : ∀ l : List Expression, substList Mapping.empty l = l
  | [] => rfl
  | e :: rest => by rw [substList, subst_empty e, substList_empty rest]

end

variable {σ : Mapping}

mutual

/-- What reads nothing of the scope but the values of `σ`'s variables reads
nothing but the solution. -/
theorem substitutable_empty : ∀ e : Expression, e.substitutable σ → e.substitutable Mapping.empty
  | .iri _, _ | .literal _, _ | .var _, _ | .bound _, _ => rfl
  | .or a b, h | .and a b, h | .equal a b, h | .sameTerm a b, h | .greater a b, h
  | .greaterOrEqual a b, h | .less a b, h | .lessOrEqual a b, h | .add a b, h
  | .subtract a b, h | .multiply a b, h | .divide a b, h => by
    simp only [substitutable, Bool.and_eq_true] at h ⊢
    exact ⟨substitutable_empty a h.1, substitutable_empty b h.2⟩
  | .unaryPlus a, h | .unaryMinus a, h | .not a, h => by
    simp only [substitutable] at h ⊢
    exact substitutable_empty a h
  | .in a l, h => by
    simp only [substitutable, Bool.and_eq_true] at h ⊢
    exact ⟨substitutable_empty a h.1, substitutableList_empty l h.2⟩
  | .if a b c, h => by
    simp only [substitutable, Bool.and_eq_true] at h ⊢
    exact ⟨⟨substitutable_empty a h.1.1, substitutable_empty b h.1.2⟩, substitutable_empty c h.2⟩
  | .coalesce l, h => by
    simp only [substitutable] at h ⊢
    exact substitutableList_empty l h
  | .call _ l, h => by
    simp only [substitutable, Bool.and_eq_true] at h ⊢
    exact ⟨h.1, substitutableList_empty l h.2⟩

theorem substitutableList_empty :
    ∀ l : List Expression, substitutableList σ l → substitutableList Mapping.empty l
  | [], _ => rfl
  | e :: rest, h => by
    simp only [substitutableList, Bool.and_eq_true] at h ⊢
    exact ⟨substitutable_empty e h.1, substitutableList_empty rest h.2⟩

end

/-! ## Writing in is reading -/

variable (ctx : CallContext) {sc sc' : Scope}

mutual

/-- **Writing the values of `σ` into an expression is reading them from the
scope**: in a scope whose solution is that of `sc'` with `σ` added. -/
theorem eval_subst (h : sc.solution.get = Mapping.union σ sc'.solution.get) :
    ∀ e : Expression, e.substitutable σ → (e.subst σ).eval ctx sc' = e.eval ctx sc
  | .iri _, _ | .literal _, _ => rfl
  | .var v, he => by
    simp only [substitutable] at he
    simp only [eval, h, Mapping.union_apply]
    -- a value of `σ` is written as a constant, its absence reads `sc'`
    cases hv : σ v with
    | none => simp only [subst, hv, eval, Option.none_or]
    | some t =>
      rw [hv] at he
      rcases t with i | b | l
      · simp only [subst, hv, eval, Option.some_or]
        rfl
      · simp [Term.isBlank] at he
      · simp only [subst, hv, eval, Option.some_or]
        rfl
  | .bound v, he => by
    simp only [substitutable, Option.isNone_iff_eq_none] at he
    simp only [subst, eval, h, Mapping.union_apply, he, Option.none_or]
  | .exists _, he => absurd he (by simp [substitutable])
  | .or a b, he | .and a b, he | .equal a b, he | .sameTerm a b, he | .greater a b, he
  | .greaterOrEqual a b, he | .less a b, he | .lessOrEqual a b, he | .add a b, he
  | .subtract a b, he | .multiply a b, he | .divide a b, he => by
    simp only [substitutable, Bool.and_eq_true] at he
    simp only [subst, eval, eval_subst h a he.1, eval_subst h b he.2]
  | .unaryPlus a, he | .unaryMinus a, he | .not a, he => by
    simp only [substitutable] at he
    simp only [subst, eval, eval_subst h a he]
  | .in a l, he => by
    simp only [substitutable, Bool.and_eq_true] at he
    simp only [subst, eval, eval_subst h a he.1, evalIn_subst h _ false l he.2]
  | .if a b c, he => by
    simp only [substitutable, Bool.and_eq_true] at he
    simp only [subst, eval, eval_subst h a he.1.1, eval_subst h b he.1.2, eval_subst h c he.2]
  | .coalesce l, he => by
    simp only [substitutable] at he
    simp only [subst, eval, evalFirstBound_subst h l he]
  | .call f l, he => by
    simp only [substitutable, Bool.and_eq_true] at he
    simp only [subst, eval, evalArgs_subst h l he.2]

theorem evalIn_subst (h : sc.solution.get = Mapping.union σ sc'.solution.get) (needle : Term) :
    ∀ (sawError : Bool) (l : List Expression), substitutableList σ l →
      evalIn ctx sc' needle sawError (substList σ l) = evalIn ctx sc needle sawError l
  | _, [], _ => rfl
  | sawError, e :: rest, he => by
    simp only [substitutableList, Bool.and_eq_true] at he
    simp only [substList, evalIn, eval_subst h e he.1, evalIn_subst h needle _ rest he.2]

theorem evalFirstBound_subst (h : sc.solution.get = Mapping.union σ sc'.solution.get) :
    ∀ l : List Expression, substitutableList σ l →
      evalFirstBound ctx sc' (substList σ l) = evalFirstBound ctx sc l
  | [], _ => rfl
  | e :: rest, he => by
    simp only [substitutableList, Bool.and_eq_true] at he
    simp only [substList, evalFirstBound, eval_subst h e he.1, evalFirstBound_subst h rest he.2]

theorem evalArgs_subst (h : sc.solution.get = Mapping.union σ sc'.solution.get) :
    ∀ l : List Expression, substitutableList σ l → evalArgs ctx sc' (substList σ l) = evalArgs ctx sc l
  | [], _ => rfl
  | e :: rest, he => by
    simp only [substitutableList, Bool.and_eq_true] at he
    simp only [substList, evalArgs, eval_subst h e he.1, evalArgs_subst h rest he.2]

end

/-- An expression that reads nothing but the solution reads the same in two
scopes whose solutions give every variable the same value. -/
theorem eval_congr_get (h : sc.solution.get = sc'.solution.get) {e : Expression}
    (he : e.substitutable Mapping.empty) : e.eval ctx sc = e.eval ctx sc' := by
  have h' : sc.solution.get = Mapping.union Mapping.empty sc'.solution.get := by
    rw [h, Mapping.union_empty_left]
  rw [← eval_subst ctx h' e he, subst_empty]

/-! ## Reading without effects -/

mutual

/-- **An expression that reads nothing but the solution is a value**: it neither
fails nor reads the counter. -/
theorem eval_eq_pure (sc : Scope) :
    ∀ e : Expression, e.substitutable σ → ∃ x, e.eval ctx sc = pure x
  | .iri _, _ | .literal _, _ | .var _, _ | .bound _, _ => ⟨_, rfl⟩
  | .exists _, he => absurd he (by simp [substitutable])
  | .or a b, he | .and a b, he => by
    simp only [substitutable, Bool.and_eq_true] at he
    obtain ⟨x, hx⟩ := eval_eq_pure sc a he.1
    obtain ⟨y, hy⟩ := eval_eq_pure sc b he.2
    simp only [eval, hx, hy, pure_bind]
    split <;> exact ⟨_, rfl⟩
  | .equal a b, he | .sameTerm a b, he | .greater a b, he | .greaterOrEqual a b, he
  | .less a b, he | .lessOrEqual a b, he | .add a b, he | .subtract a b, he
  | .multiply a b, he | .divide a b, he => by
    simp only [substitutable, Bool.and_eq_true] at he
    obtain ⟨x, hx⟩ := eval_eq_pure sc a he.1
    obtain ⟨y, hy⟩ := eval_eq_pure sc b he.2
    simp only [eval, hx, hy, pure_bind]
    exact ⟨_, rfl⟩
  | .unaryPlus a, he | .unaryMinus a, he | .not a, he => by
    simp only [substitutable] at he
    obtain ⟨x, hx⟩ := eval_eq_pure sc a he
    simp only [eval, hx, pure_bind]
    exact ⟨_, rfl⟩
  | .in a l, he => by
    simp only [substitutable, Bool.and_eq_true] at he
    obtain ⟨x, hx⟩ := eval_eq_pure sc a he.1
    simp only [eval, hx, pure_bind]
    split
    · exact evalIn_eq_pure sc _ false l he.2
    · exact ⟨_, rfl⟩
  | .if a b c, he => by
    simp only [substitutable, Bool.and_eq_true] at he
    obtain ⟨x, hx⟩ := eval_eq_pure sc a he.1.1
    simp only [eval, hx, pure_bind]
    split
    · exact eval_eq_pure sc b he.1.2
    · exact eval_eq_pure sc c he.2
    · exact ⟨_, rfl⟩
  | .coalesce l, he => by
    simp only [substitutable] at he
    exact evalFirstBound_eq_pure sc l he
  | .call f l, he => by
    simp only [substitutable, Bool.and_eq_true] at he
    obtain ⟨x, hx⟩ := evalArgs_eq_pure sc l he.2
    simp only [eval, hx, pure_bind]
    split
    · obtain ⟨r, hr⟩ := callFunction_eq_pure ctx he.1 _
      rw [hr, pure_bind]
      exact ⟨_, rfl⟩
    · exact ⟨_, rfl⟩

theorem evalIn_eq_pure (sc : Scope) (needle : Term) :
    ∀ (sawError : Bool) (l : List Expression), substitutableList σ l →
      ∃ x, evalIn ctx sc needle sawError l = pure x
  | _, [], _ => ⟨_, rfl⟩
  | sawError, e :: rest, he => by
    simp only [substitutableList, Bool.and_eq_true] at he
    obtain ⟨x, hx⟩ := eval_eq_pure sc e he.1
    simp only [evalIn, hx, pure_bind]
    split
    · exact ⟨_, rfl⟩
    · exact evalIn_eq_pure sc needle sawError rest he.2
    · exact evalIn_eq_pure sc needle true rest he.2

theorem evalFirstBound_eq_pure (sc : Scope) :
    ∀ l : List Expression, substitutableList σ l → ∃ x, evalFirstBound ctx sc l = pure x
  | [], _ => ⟨_, rfl⟩
  | e :: rest, he => by
    simp only [substitutableList, Bool.and_eq_true] at he
    obtain ⟨x, hx⟩ := eval_eq_pure sc e he.1
    simp only [evalFirstBound, hx, pure_bind]
    split
    · exact ⟨_, rfl⟩
    · exact evalFirstBound_eq_pure sc rest he.2

theorem evalArgs_eq_pure (sc : Scope) :
    ∀ l : List Expression, substitutableList σ l → ∃ x, evalArgs ctx sc l = pure x
  | [], _ => ⟨_, rfl⟩
  | e :: rest, he => by
    simp only [substitutableList, Bool.and_eq_true] at he
    obtain ⟨x, hx⟩ := eval_eq_pure sc e he.1
    simp only [evalArgs, hx, pure_bind]
    split
    · obtain ⟨y, hy⟩ := evalArgs_eq_pure sc rest he.2
      rw [hy, pure_bind]
      exact ⟨_, rfl⟩
    · exact ⟨_, rfl⟩

end

/-- **An expression that reads nothing but the solution is a function of its
mapping**, the same in every scope. -/
theorem exists_eval_eq_pure_get {e : Expression} (he : e.substitutable Mapping.empty) :
    ∃ F : Mapping → ExprValue, ∀ sc : Scope, e.eval ctx sc = pure (F sc.solution.get) := by
  classical
  -- read the value off any scope whose solution is the mapping
  refine ⟨fun μ => if hμ : ∃ sc : Scope, sc.solution.get = μ then
    (eval_eq_pure ctx hμ.choose e he).choose else .error, fun sc => ?_⟩
  have hμ : ∃ sc' : Scope, sc'.solution.get = sc.solution.get := ⟨sc, rfl⟩
  dsimp only
  rw [dif_pos hμ, ← (eval_eq_pure ctx hμ.choose e he).choose_spec]
  exact eval_congr_get ctx hμ.choose_spec.symm he

/-- **A condition that reads nothing but the solution is a function of its
mapping, and with the values of `σ` written in it is that function of the
mapping with `σ` added**, for a `σ` that binds only variables of `vs`. -/
theorem exists_eval_subst_eq_pure_get {vs : List Variable} (hvs : ∀ v, σ v ≠ none → v ∈ vs)
    {e : Expression} (he : e.substitutable σ) :
    ∃ F : Mapping → ExprValue, (∀ sc : Scope, e.eval ctx sc = pure (F sc.solution.get)) ∧
      ∀ sc : Scope, (e.subst σ).eval ctx sc = pure (F (Mapping.union σ sc.solution.get)) := by
  obtain ⟨F, hF⟩ := exists_eval_eq_pure_get ctx (substitutable_empty e he)
  refine ⟨F, hF, fun sc => ?_⟩
  -- the scope whose solution is that of `sc` with `σ` added, over the variables of both
  have hbound : ∀ v, Mapping.union σ sc.solution.get v ≠ none → v ∈ vs ++ sc.solution.vars := by
    intro v hv
    cases hσ : σ v with
    | some _ => exact List.mem_append_left _ (hvs v (by simp [hσ]))
    | none =>
      rw [Mapping.union_apply, hσ, Option.none_or] at hv
      exact List.mem_append_right _ (Solution.mem_vars_of_get_ne_none hv)
  have hplus : (⟨⟨vs ++ sc.solution.vars, (vs ++ sc.solution.vars).map
      (Mapping.union σ sc.solution.get)⟩, sc.patternExists⟩ : Scope).solution.get =
        Mapping.union σ sc.solution.get :=
    Solution.get_map_of_bound hbound
  rw [eval_subst ctx hplus e he, hF, hplus]

end Expression

end SparqlBag
