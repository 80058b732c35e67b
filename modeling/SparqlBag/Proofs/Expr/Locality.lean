import SparqlBag.Proofs.Engine.Outcome
import SparqlBag.Proofs.Expr.Totality
import SparqlBag.Expr.Eval

/-!
# Errors of an expression stay local

An expression evaluated for one solution gives a term, the unbound value or the
error value.  Only two things stop the query: the failing pattern of an `EXISTS`
inside it, whose error is passed on, and `LANGMATCHES` cutting a tag inside a
character, an abnormal stop.  Every other failure is the error value
(`Expression.errors_stay_local`).  The unbound value comes only from an unbound
variable and through `IF` (`Expression.eval_run_unbound_iff`).  The
sub-expressions (`Expression.subterms`) are those reached through operands and
argument lists; the patterns of `EXISTS` are not entered.
-/

namespace SparqlBag

namespace Expression

mutual

/-- The sub-expressions of an expression, itself first; the patterns of `EXISTS`
are not entered. -/
def subterms : Expression → List Expression
  | .iri i => [.iri i]
  | .literal l => [.literal l]
  | .var v => [.var v]
  | .or a b => .or a b :: (a.subterms ++ b.subterms)
  | .and a b => .and a b :: (a.subterms ++ b.subterms)
  | .equal a b => .equal a b :: (a.subterms ++ b.subterms)
  | .sameTerm a b => .sameTerm a b :: (a.subterms ++ b.subterms)
  | .greater a b => .greater a b :: (a.subterms ++ b.subterms)
  | .greaterOrEqual a b => .greaterOrEqual a b :: (a.subterms ++ b.subterms)
  | .less a b => .less a b :: (a.subterms ++ b.subterms)
  | .lessOrEqual a b => .lessOrEqual a b :: (a.subterms ++ b.subterms)
  | .in a l => .in a l :: (a.subterms ++ subtermsList l)
  | .add a b => .add a b :: (a.subterms ++ b.subterms)
  | .subtract a b => .subtract a b :: (a.subterms ++ b.subterms)
  | .multiply a b => .multiply a b :: (a.subterms ++ b.subterms)
  | .divide a b => .divide a b :: (a.subterms ++ b.subterms)
  | .unaryPlus a => .unaryPlus a :: a.subterms
  | .unaryMinus a => .unaryMinus a :: a.subterms
  | .not a => .not a :: a.subterms
  | .exists p => [.exists p]
  | .bound v => [.bound v]
  | .if a b c => .if a b c :: (a.subterms ++ b.subterms ++ c.subterms)
  | .coalesce l => .coalesce l :: subtermsList l
  | .call f l => .call f l :: subtermsList l

/-- The sub-expressions of the expressions of a list. -/
def subtermsList : List Expression → List Expression
  | [] => []
  | e :: rest => e.subterms ++ subtermsList rest

end

/-- Whether an expression may give the unbound value: a variable, and `IF`. -/
def mayBeUnbound : Expression → Bool
  | .var _ | .if _ _ _ => true
  | _ => false

theorem mayBeUnbound_iff {e : Expression} :
    e.mayBeUnbound = true ↔ (∃ v, e = .var v) ∨ ∃ c t f, e = .if c t f := by
  cases e <;> simp [mayBeUnbound]

/-- What may stop the evaluation of the sub-expressions `ts` for good: the
failure of the `EXISTS` of a pattern among them, passed on as it is, or an
abnormal stop where one of them calls `LANGMATCHES`. -/
def LocalError (sc : Scope) (ts : List Expression) (err : QueryError) : Prop :=
  (∃ p, .exists p ∈ ts ∧ Gives (sc.patternExists p) (.error err)) ∨
    (err = .abort ∧ ∃ args, .call .langMatches args ∈ ts)

theorem LocalError.mono {sc : Scope} {ts ts' : List Expression} {err : QueryError} (h : ts ⊆ ts') :
    LocalError sc ts err → LocalError sc ts' err
  | .inl ⟨p, hp, hgives⟩ => .inl ⟨p, h hp, hgives⟩
  | .inr ⟨habort, args, hargs⟩ => .inr ⟨habort, args, h hargs⟩

end Expression

namespace ExprValue

theorem ofOption_ne_unbound (o : Option Term) : ofOption o ≠ .unbound := by
  cases o <;> simp [ofOption]

theorem ofBool_ne_unbound (b : Bool) : ofBool b ≠ .unbound := by
  simp [ofBool]

theorem lift₂_ne_unbound (op : Term → Term → Option Term) (x y : ExprValue) :
    lift₂ op x y ≠ .unbound := by
  unfold lift₂
  split
  · exact ofOption_ne_unbound _
  · simp

theorem lift₁_ne_unbound (op : Term → Option Term) (x : ExprValue) : lift₁ op x ≠ .unbound := by
  unfold lift₁
  split
  · exact ofOption_ne_unbound _
  · simp

theorem ofTruth_ne_unbound (b : Option Bool) : ofTruth b ≠ .unbound := by
  cases b <;> simp [ofTruth, ofBool_ne_unbound]

end ExprValue

/-- A call fails only as `LANGMATCHES` stopping abnormally. -/
theorem callFunction_error {ctx : CallContext} {f : Function} {args : List Term} {n : Nat}
    {err : QueryError} (h : (callFunction ctx f args).run n = .error err) :
    f = .langMatches ∧ err = .abort := by
  by_cases hcut : f = .langMatches ∧ ∃ tag range, args = [tag, range] ∧ CutsTag tag range
  · obtain ⟨rfl, tag, range, rfl, hc⟩ := hcut
    rw [callFunction_run_abort ctx tag range n hc] at h
    exact ⟨rfl, (Except.error.inj h).symm⟩
  · obtain ⟨r, hr⟩ := callFunction_run_ok ctx f args n hcut
    rw [hr] at h
    cases h

/-- Failures local to some sub-expressions are local to any list holding them. -/
theorem Outcomes.within {sc : Scope} {ts ts' : List Expression} {P : α → Prop} {x : EvalM α}
    (h : Outcomes (Expression.LocalError sc ts) P x) (hts : ts ⊆ ts') :
    Outcomes (Expression.LocalError sc ts') (fun _ => True) x :=
  h.mono (fun _ he => he.mono hts) fun _ _ => trivial

/-- An `EXISTS` fails as the evaluation of its pattern does. -/
theorem outcomes_patternExists (sc : Scope) (p : GraphPattern) :
    Outcomes (Expression.LocalError sc [.exists p]) (fun _ => True) (sc.patternExists p) where
  fails n _ h := .inl ⟨p, List.mem_singleton_self _, n, run'_of_run_error h⟩
  returns _ _ _ _ := trivial

namespace Expression

mutual

/-- **What one evaluation may give**: it fails only as `LocalError` says, and it
gives the unbound value only where the expression may (`mayBeUnbound`). -/
theorem eval_outcomes (ctx : CallContext) (sc : Scope) : ∀ e : Expression,
    Outcomes (LocalError sc e.subterms) (fun v => v = .unbound → e.mayBeUnbound = true)
      (e.eval ctx sc)
  | .iri _ | .literal _ => outcomes_pure fun h => by cases h
  | .var _ => outcomes_pure fun _ => rfl
  | .bound _ => outcomes_pure fun h => absurd h (ExprValue.ofBool_ne_unbound _)
  | .or a b | .and a b => by
    rw [eval]
    refine ((eval_outcomes ctx sc a).within fun x hx => by simp [subterms, hx]).bind fun _ _ => ?_
    dsimp only
    split
    · exact outcomes_pure fun h => absurd h (ExprValue.ofBool_ne_unbound _)
    · refine ((eval_outcomes ctx sc b).within fun x hx => by simp [subterms, hx]).bind fun _ _ => ?_
      exact outcomes_pure fun h => absurd h (by split <;> simp [ExprValue.ofBool])
  | .equal a b | .sameTerm a b | .greater a b | .greaterOrEqual a b | .less a b
  | .lessOrEqual a b | .add a b | .subtract a b | .multiply a b | .divide a b => by
    rw [eval]
    exact ((eval_outcomes ctx sc a).within fun x hx => by simp [subterms, hx]).bind fun _ _ =>
      ((eval_outcomes ctx sc b).within fun x hx => by simp [subterms, hx]).bind fun _ _ =>
        outcomes_pure fun h => absurd h (ExprValue.lift₂_ne_unbound _ _ _)
  | .unaryPlus a | .unaryMinus a => by
    rw [eval]
    exact ((eval_outcomes ctx sc a).within fun x hx => by simp [subterms, hx]).bind fun _ _ =>
      outcomes_pure fun h => absurd h (ExprValue.lift₁_ne_unbound _ _)
  | .not a => by
    rw [eval]
    exact ((eval_outcomes ctx sc a).within fun x hx => by simp [subterms, hx]).bind fun _ _ =>
      outcomes_pure fun h => absurd h (ExprValue.ofTruth_ne_unbound _)
  | .exists p => by
    rw [eval]
    exact ((outcomes_patternExists sc p).within fun x hx => by simp_all [subterms]).bind fun _ _ =>
      outcomes_pure fun h => absurd h (ExprValue.ofBool_ne_unbound _)
  | .if c t f => by
    rw [eval]
    refine ((eval_outcomes ctx sc c).within fun x hx => by simp [subterms, hx]).bind fun _ _ => ?_
    split
    · exact (eval_outcomes ctx sc t).mono (fun _ he => he.mono fun x hx => by simp [subterms, hx])
        fun _ _ _ => rfl
    · exact (eval_outcomes ctx sc f).mono (fun _ he => he.mono fun x hx => by simp [subterms, hx])
        fun _ _ _ => rfl
    · exact outcomes_pure fun h => by cases h
  | .in a l => by
    rw [eval]
    refine ((eval_outcomes ctx sc a).within fun x hx => by simp [subterms, hx]).bind fun _ _ => ?_
    split
    · exact (evalIn_outcomes ctx sc _ false l).mono
        (fun _ he => he.mono fun x hx => by simp [subterms, hx]) fun _ h h' => absurd h' h
    · exact outcomes_pure fun h => by cases h
  | .coalesce l => by
    rw [eval]
    exact (evalFirstBound_outcomes ctx sc l).mono
      (fun _ he => he.mono fun x hx => by simp [subterms, hx]) fun _ h h' => absurd h' h
  | .call f l => by
    rw [eval]
    refine ((evalArgs_outcomes ctx sc l).within fun x hx => by simp [subterms, hx]).bind fun _ _ => ?_
    split
    · -- the call itself fails only where `LANGMATCHES` stops abnormally
      rename_i terms
      have hcall : Outcomes (LocalError sc (Expression.call f l).subterms) (fun _ => True)
          (callFunction ctx f terms) := ⟨fun _ _ h => by
            obtain ⟨rfl, rfl⟩ := callFunction_error h
            exact .inr ⟨rfl, l, by simp [subterms]⟩, fun _ _ _ _ => trivial⟩
      exact hcall.bind fun _ _ => outcomes_pure fun h => absurd h (ExprValue.ofOption_ne_unbound _)
    · exact outcomes_pure fun h => by cases h

/-- `IN` gives a truth value or the error value. -/
theorem evalIn_outcomes (ctx : CallContext) (sc : Scope) (t : Term) : ∀ (b : Bool) (l : List Expression),
    Outcomes (LocalError sc (subtermsList l)) (· ≠ .unbound) (evalIn ctx sc t b l)
  | b, [] => by
    rw [evalIn]
    exact outcomes_pure (by split <;> simp [ExprValue.ofBool])
  | b, e :: rest => by
    rw [evalIn]
    refine ((eval_outcomes ctx sc e).within fun x hx => by simp [subtermsList, hx]).bind
      fun _ _ => ?_
    dsimp only
    split
    · exact outcomes_pure (ExprValue.ofBool_ne_unbound _)
    · exact (evalIn_outcomes ctx sc t b rest).mono
        (fun _ he => he.mono fun x hx => by simp [subtermsList, hx]) fun _ h => h
    · exact (evalIn_outcomes ctx sc t true rest).mono
        (fun _ he => he.mono fun x hx => by simp [subtermsList, hx]) fun _ h => h

/-- `COALESCE` gives a term or the error value. -/
theorem evalFirstBound_outcomes (ctx : CallContext) (sc : Scope) : ∀ l : List Expression,
    Outcomes (LocalError sc (subtermsList l)) (· ≠ .unbound) (evalFirstBound ctx sc l)
  | [] => outcomes_pure (by simp)
  | e :: rest => by
    rw [evalFirstBound]
    refine ((eval_outcomes ctx sc e).within fun x hx => by simp [subtermsList, hx]).bind
      fun _ _ => ?_
    split
    · exact outcomes_pure (by simp)
    · exact (evalFirstBound_outcomes ctx sc rest).mono
        (fun _ he => he.mono fun x hx => by simp [subtermsList, hx]) fun _ h => h

theorem evalArgs_outcomes (ctx : CallContext) (sc : Scope) : ∀ l : List Expression,
    Outcomes (LocalError sc (subtermsList l)) (fun _ => True) (evalArgs ctx sc l)
  | [] => outcomes_pure trivial
  | e :: rest => by
    rw [evalArgs]
    refine ((eval_outcomes ctx sc e).within fun x hx => by simp [subtermsList, hx]).bind
      fun _ _ => ?_
    split
    · exact ((evalArgs_outcomes ctx sc rest).within fun x hx => by simp [subtermsList, hx]).bind
        fun _ _ => outcomes_pure trivial
    · exact outcomes_pure trivial

end

/-- The unbound value comes from a variable unbound in the solution, or from the
branch that an `IF` selects. -/
theorem eval_run_unbound_iff (ctx : CallContext) (sc : Scope) (e : Expression) (n n' : Nat) :
    (e.eval ctx sc).run n = .ok (.unbound, n') ↔
      (∃ v, e = .var v ∧ sc.solution.get v = none ∧ n' = n) ∨
      ∃ c t f, e = .if c t f ∧ ∃ vc n₁, (c.eval ctx sc).run n = .ok (vc, n₁) ∧
        (vc.ebv = some true ∧ (t.eval ctx sc).run n₁ = .ok (.unbound, n') ∨
          vc.ebv = some false ∧ (f.eval ctx sc).run n₁ = .ok (.unbound, n')) := by
  constructor
  · intro h
    rcases mayBeUnbound_iff.1 ((eval_outcomes ctx sc e).returns n _ n' h rfl) with
      ⟨v, rfl⟩ | ⟨c, t, f, rfl⟩
    · refine .inl ⟨v, rfl, ?_⟩
      rw [eval, StateT.run_pure] at h
      cases hv : sc.solution.get v <;> rw [hv] at h <;> cases h
      exact ⟨rfl, rfl⟩
    · refine .inr ⟨c, t, f, rfl, ?_⟩
      rw [eval, run_bind] at h
      cases hc : (c.eval ctx sc).run n with
      | error err => rw [hc] at h; cases h
      | ok p =>
        obtain ⟨vc, n₁⟩ := p
        rw [hc] at h
        refine ⟨vc, n₁, rfl, ?_⟩
        dsimp only at h
        split at h
        next hb => exact .inl ⟨hb, h⟩
        next hb => exact .inr ⟨hb, h⟩
        next => cases h
  · rintro (⟨v, rfl, hv, rfl⟩ | ⟨c, t, f, rfl, vc, n₁, hc, ⟨hb, ht⟩ | ⟨hb, hf⟩⟩)
    · rw [eval, StateT.run_pure, hv]
      rfl
    · rw [eval, run_bind, hc]
      simp only [hb]
      exact ht
    · rw [eval, run_bind, hc]
      simp only [hb]
      exact hf

/-- An expression with no `EXISTS` and no call of `LANGMATCHES` among its
sub-expressions never stops the query. -/
theorem not_gives_error {e : Expression} (hex : ∀ p, .exists p ∉ e.subterms)
    (hlang : ∀ args, .call .langMatches args ∉ e.subterms) (ctx : CallContext) (sc : Scope)
    (err : QueryError) : ¬ Gives (e.eval ctx sc) (.error err) := by
  rintro ⟨n, hn⟩
  rw [StateT.run'_eq] at hn
  cases h : (e.eval ctx sc).run n with
  | ok r =>
    rw [h] at hn
    cases hn
  | error err' =>
    rcases (eval_outcomes ctx sc e).fails n err' h with ⟨p, hp, -⟩ | ⟨-, args, hargs⟩
    · exact hex p hp
    · exact hlang args hargs

/-- **Errors of an expression stay local.**  Evaluating `e` for one solution
fails only where an `EXISTS` inside it failed, with that error, or where a
`LANGMATCHES` inside it stopped abnormally; it gives the unbound value exactly
for a variable unbound in the solution and through the branch that an `IF`
selects.  Every other failure is the error value. -/
theorem errors_stay_local (ctx : CallContext) (sc : Scope) (e : Expression) (n : Nat) :
    (∀ err, (e.eval ctx sc).run n = .error err →
      (∃ p, .exists p ∈ e.subterms ∧ Gives (sc.patternExists p) (.error err)) ∨
        (err = .abort ∧ ∃ args, .call .langMatches args ∈ e.subterms)) ∧
    (∀ n', (e.eval ctx sc).run n = .ok (.unbound, n') ↔
      (∃ v, e = .var v ∧ sc.solution.get v = none ∧ n' = n) ∨
      ∃ c t f, e = .if c t f ∧ ∃ vc n₁, (c.eval ctx sc).run n = .ok (vc, n₁) ∧
        (vc.ebv = some true ∧ (t.eval ctx sc).run n₁ = .ok (.unbound, n') ∨
          vc.ebv = some false ∧ (f.eval ctx sc).run n₁ = .ok (.unbound, n'))) :=
  ⟨(eval_outcomes ctx sc e).fails n, eval_run_unbound_iff ctx sc e n⟩

end Expression

end SparqlBag
