import SparqlBag.Proofs.Expr.Aggregation

/-!
# Stopping an aggregate early

An aggregate feeds its values to an accumulator one solution at a time and stops
where the accumulator is decided (`Accumulator.isDone`); the solutions after that
point are never evaluated (`Accumulator.run_append_of_decided`).  For every
accumulator but `SAMPLE`'s, a decided state keeps its result whatever is fed
after it, so the aggregate is the fold of every value
(`Aggregate.stopping_early_is_sound`).  `SAMPLE`'s accumulator is decided after
its first bound value, yet a second one replaces it
(`Aggregate.sample_differs_from_feeding_every_value`): there the stop is what
makes the result the first bound value rather than the last.
-/

namespace SparqlBag

namespace Accumulator

theorem isSample_ofFunction {f : AggregateFunction} {init : Accumulator}
    (hf : ofFunction f = .ok init) (hs : f ≠ .sample) : init.isSample = false := by
  cases f with
  | sample => exact absurd rfl hs
  | custom name =>
    simp only [ofFunction] at hf
    split_ifs at hf <;> cases hf <;> rfl
  | _ => cases hf; rfl

@[simp] theorem isSample_foldl (acc : Accumulator) (vs : List ExprValue) :
    (vs.foldl update acc).isSample = acc.isSample := by
  induction vs generalizing acc with
  | nil => rfl
  | cons v vs ih => rw [List.foldl_cons, ih, isSample_update]

variable {ctx : CallContext} {e : Expression} {distinct : Bool}

/-- A decided fold evaluates nothing more: it gives its result at once. -/
theorem run_of_isDone {acc : Accumulator} (h : acc.isDone = true) (seen : List ExprValue) :
    ∀ scopes, run ctx e distinct acc seen scopes = run ctx e distinct acc seen []
  | [] => rfl
  | _ :: _ => by simp only [run, h, if_true]

/-- One solution of a fold not yet decided: the value of the expression there,
then the rest of the fold from the counter it leaves. -/
theorem run_cons_run {acc : Accumulator} (hacc : acc.isDone = false) {seen : List ExprValue}
    {sc : Scope} {n n₁ : Nat} {v : ExprValue} (hv : (e.eval ctx sc).run n = .ok (v, n₁))
    (rest : List Scope) :
    (run ctx e distinct acc seen (sc :: rest)).run n =
      (if distinct && seen.contains v then run ctx e distinct acc seen rest
        else run ctx e distinct (acc.update v) (if distinct then v :: seen else seen) rest).run n₁ := by
  simp only [run, hacc, Bool.false_eq_true, if_false]
  rw [run_bind, hv]

/-- **The solutions after the decided point are never evaluated.**  When the
values of the solutions `pre` bring the fold to a decided state, the solutions
after them change nothing, not even by failing. -/
theorem run_append_of_decided :
    ∀ (pre post : List Scope) (acc : Accumulator) (seen : List ExprValue) (n n' : Nat)
      (vs : List ExprValue), (pre.mapM (e.eval ctx)).run n = .ok (vs, n') →
      (feed distinct acc seen vs).isDone = true →
      (run ctx e distinct acc seen (pre ++ post)).run n = (run ctx e distinct acc seen pre).run n
  | [], post, acc, seen, n, n', vs, h, hdone => by
    -- no solution before the point: the fold was decided from the start
    have hvs : vs = [] := by
      simp only [List.mapM_nil] at h
      cases h
      rfl
    subst hvs
    rw [List.nil_append, run_of_isDone (show acc.isDone = true from hdone)]
  | sc :: rest, post, acc, seen, n, n', vs, h, hdone => by
    by_cases hacc : acc.isDone = true
    · rw [run_of_isDone hacc, run_of_isDone hacc seen (sc :: rest)]
    · have hacc' : acc.isDone = false := by simpa using hacc
      rw [mapM_cons_run] at h
      cases hv : (e.eval ctx sc).run n with
      | error err => rw [hv] at h; cases h
      | ok p =>
        obtain ⟨v, n₁⟩ := p
        rw [hv] at h
        dsimp only at h
        cases hrest : (rest.mapM (e.eval ctx)).run n₁ with
        | error err => rw [hrest] at h; cases h
        | ok q =>
          obtain ⟨vs', n₂⟩ := q
          rw [hrest] at h
          cases h
          rw [feed, if_neg hacc] at hdone
          rw [List.cons_append, run_cons_run hacc' hv, run_cons_run hacc' hv]
          -- the same value is skipped or taken on both sides
          by_cases hskip : (distinct && seen.contains v) = true
          · rw [if_pos hskip] at hdone ⊢
            rw [if_pos hskip]
            exact run_append_of_decided rest post acc seen n₁ _ vs' hrest hdone
          · rw [if_neg hskip] at hdone ⊢
            rw [if_neg hskip]
            exact run_append_of_decided rest post _ _ n₁ _ vs' hrest hdone

end Accumulator

namespace Aggregate

/-- **Stopping an aggregate early is sound.**  For an aggregate function `f`
with the accumulator `init`:

* unless `f` is `SAMPLE`, a state reached from `init` by any values that is
  decided stays decided, and keeps its result, whatever values follow;
* hence, unless `f` is `SAMPLE`, over a group whose every evaluation succeeds the
  aggregate gives the result of feeding every value of the group (under
  `DISTINCT` the first of each kind);
* for every `f`, the aggregate evaluates the expression only up to the decided
  point: once the values of the solutions `pre` decide it, the solutions `post`
  after them change nothing, not even by failing. -/
theorem stopping_early_is_sound (f : AggregateFunction) (init : Accumulator)
    (hf : Accumulator.ofFunction f = .ok init) :
    (f ≠ .sample → ∀ vs ws : List ExprValue, (vs.foldl Accumulator.update init).isDone = true →
      ((vs ++ ws).foldl Accumulator.update init).isDone = true ∧
        ((vs ++ ws).foldl Accumulator.update init).finish = (vs.foldl Accumulator.update init).finish) ∧
    (f ≠ .sample → ∀ (ctx : CallContext) (vars : List Variable) (scopes : List Scope) (e : Expression)
      (distinct : Bool) (n n' : Nat) (vs : List ExprValue),
      (scopes.mapM (e.eval ctx)).run n = .ok (vs, n') →
      (apply ctx vars scopes (.call f e distinct)).run' n =
        ((if distinct then dedupe vs else vs).foldl Accumulator.update init).finish) ∧
    (∀ (ctx : CallContext) (vars : List Variable) (pre post : List Scope) (e : Expression)
      (distinct : Bool) (n n' : Nat) (vs : List ExprValue),
      (pre.mapM (e.eval ctx)).run n = .ok (vs, n') → (Accumulator.feed distinct init [] vs).isDone = true →
      (apply ctx vars (pre ++ post) (.call f e distinct)).run n =
        (apply ctx vars pre (.call f e distinct)).run n) := by
  refine ⟨fun hs vs ws hdone => ?_, fun hs ctx vars scopes e distinct n n' vs h => ?_,
    fun ctx vars pre post e distinct n n' vs h hdone => ?_⟩
  · -- a state reached by updates is an accumulator of the same kind
    have hs' : (vs.foldl Accumulator.update init).isSample = false :=
      (Accumulator.isSample_foldl init vs).trans (Accumulator.isSample_ofFunction hf hs)
    rw [List.foldl_append]
    exact Accumulator.foldl_of_isDone hs' hdone ws
  · exact apply_call_run' h f distinct hf (Accumulator.isSample_ofFunction hf hs)
  · simp only [apply, hf, bind]
    exact Accumulator.run_append_of_decided pre post init [] n n' vs h hdone

/-- `agg:all` over the value false and then a solution whose `EXISTS` cannot be
decided: the false value decides it, and the failing solution is never evaluated. -/
theorem stopping_early_before_failing_solution :
    let pre := [(⟨⟨[], []⟩, fun _ => pure false⟩ : Scope)]
    let post := [Scope.withoutDataset ⟨[], []⟩]
    let e := Expression.exists (.bgp [])
    (pre.mapM (e.eval {})).run 0 = .ok ([.ofBool false], 0) ∧
      (Accumulator.feed false (.all true) [] [.ofBool false]).isDone = true ∧
      (apply {} [] (pre ++ post) (.call (.custom (aggregateNs ++ "all")) e false)).run 0 =
        (apply {} [] pre (.call (.custom (aggregateNs ++ "all")) e false)).run 0 :=
  ⟨rfl, rfl, (stopping_early_is_sound (.custom (aggregateNs ++ "all")) (.all true) rfl).2.2 {} [] _ _ _
    false 0 0 _ rfl rfl⟩

/-- `SAMPLE` after the IRI `a`, then `b`: the accumulator is decided after `a`,
yet `b` replaces it, so the aggregate, which stops at `a`, differs from feeding
every value. -/
theorem sample_differs_from_feeding_every_value :
    let a := Term.iri "http://ex/a"
    let b := Term.iri "http://ex/b"
    let decided := (Accumulator.sample none).update (.bound a)
    let scopes := [Scope.withoutDataset ⟨[⟨"x"⟩], [some a]⟩, Scope.withoutDataset ⟨[⟨"x"⟩], [some b]⟩]
    decided.isDone = true ∧ (decided.update (.bound b)).finish ≠ decided.finish ∧
      (apply {} [] scopes (.call .sample (.var ⟨"x"⟩) false)).run' 0 = .ok (.bound a) ∧
      ([ExprValue.bound a, .bound b].foldl Accumulator.update (.sample none)).finish = .ok (.bound b) :=
  ⟨rfl, by decide, rfl, rfl⟩

end Aggregate

end SparqlBag
