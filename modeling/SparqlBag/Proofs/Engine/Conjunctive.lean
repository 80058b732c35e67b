import SparqlBag.Proofs.Engine.Reachability
import SparqlBag.Proofs.Engine.Outcome

/-!
# Patterns of joins and unions

The patterns built from basic graph patterns and path patterns by joins and
unions have a set semantics of their own: a basic graph pattern joins the
solutions of its triple patterns, a path pattern has the solutions of the path
evaluator, a join joins and a union unites.

Evaluating such a pattern never fails once the deadline is not zero, leaves the
counter of fresh values alone, and gives a well-formed multiset whose solutions
are this set joined with the seed when the seed is one solution, as the seed of
an `EXISTS` is (`EvalEnv.evalWith_of_andUnion`).
-/

namespace SparqlBag

/-- Patterns built from basic graph patterns and path patterns by joins and unions. -/
inductive GraphPattern.AndUnion : GraphPattern → Prop
  | bgp (ts : List TriplePattern) : AndUnion (.bgp ts)
  | path (s : TermPattern) (q : PropertyPath) (o : TermPattern) : AndUnion (.path s q o)
  | join {l r : GraphPattern} : AndUnion l → AndUnion r → AndUnion (.join l r)
  | union {l r : GraphPattern} : AndUnion l → AndUnion r → AndUnion (.union l r)

namespace Graphs

variable {g : Graphs}

/-- The path evaluator gives a well-formed multiset, whatever the path. -/
theorem wf_evalPath (mode : BlankNodeMode) (x : TermPattern) (path : PropertyPath)
    (y : TermPattern) : (g.evalPath mode x path y).WF := by
  unfold evalPath
  generalize x.resolve mode = x'
  generalize y.resolve mode = y'
  rcases x' with a | v <;> rcases y' with b | w <;> dsimp only
  · split <;> trivial
  · exact Multiset.wf_ofRows (List.nodup_singleton w) _
  · exact Multiset.wf_ofRows (List.nodup_singleton v) _
  · split_ifs with hvw
    · exact Multiset.wf_ofRows (List.nodup_singleton v) _
    · exact Multiset.wf_ofRows (by simpa using hvw) _

end Graphs

namespace EvalEnv

variable {env : EvalEnv}

/-- The solutions of a pattern of joins and unions, before the seed is joined in. -/
def andUnionSolutions (env : EvalEnv) : GraphPattern → Set Mapping
  | .bgp ts => env.bgpSolutions ts
  | .path s q o => (env.graphs.evalPath env.options.blankNodeMode s q o).solutions
  | .join l r => Mapping.joinSet (env.andUnionSolutions l) (env.andUnionSolutions r)
  | .union l r => env.andUnionSolutions l ∪ env.andUnionSolutions r
  | _ => ∅

/-- The seed, if there is one, is one well-formed solution, as the seed of an `EXISTS` is. -/
def SeedIsSingle (env : EvalEnv) : Prop :=
  ∀ m, env.seed = some m → m.WF ∧ ∃ σ, m.solutions = {σ}

/-- The solutions of the seed, the empty mapping when there is none. -/
theorem SeedIsSingle.solutions (h : env.SeedIsSingle) :
    (env.seed.getD .identity).WF ∧ ∃ σ, (env.seed.getD .identity).solutions = {σ} := by
  cases hs : env.seed with
  | none => exact ⟨trivial, Mapping.empty, by simp⟩
  | some m => simpa using h m hs

theorem solutions_withSeed (h : env.SeedIsSingle) {m : Multiset} (hm : m.WF) :
    (env.withSeed m).WF ∧
      (env.withSeed m).solutions = Mapping.joinSet (env.seed.getD .identity).solutions m.solutions := by
  unfold withSeed
  cases hs : env.seed with
  | none => exact ⟨hm, by simp⟩
  | some s =>
    have hws := (h s hs).1
    exact ⟨hws.join hm, Multiset.solutions_join hws hm⟩

theorem checkDeadline_run (htime : env.options.timeout ≠ some 0) (st : Nat) :
    env.checkDeadline.run st = .ok ((), st) := by
  have : (env.options.timeout == some 0) = false := by simpa using htime
  simp only [checkDeadline, this, Bool.false_eq_true, if_false]
  rfl

/-- **Evaluating a pattern of joins and unions joins the seed with its
solutions**, in data without literal subjects, when the deadline is not zero
and the seed is one solution: joining both sides with the seed joins their join
with it once, since a single mapping joined with itself is itself. -/
theorem evalWith_of_andUnion (inner : EvalEnv → GraphPattern → EvalM Multiset)
    (htime : env.options.timeout ≠ some 0) (hlit : env.graphs.NoLiteralSubjects)
    (hseed : env.SeedIsSingle) {p : GraphPattern} (hp : p.AndUnion) (st : Nat) :
    ∃ M, (env.evalWith inner p).run st = .ok (M, st) ∧ M.WF ∧
      M.solutions = Mapping.joinSet (env.seed.getD .identity).solutions (env.andUnionSolutions p) := by
  obtain ⟨-, σ, hσ⟩ := hseed.solutions
  induction hp with
  | bgp ts =>
    obtain ⟨hwf, hsol⟩ := env.solutions_evalBgp hlit (fun m hm => (hseed m hm).1) ts
    refine ⟨env.evalBgp ts, ?_, hwf, hsol⟩
    simp only [evalWith, run_bind, checkDeadline_run htime]
    rfl
  | path s q o =>
    obtain ⟨hwf, hsol⟩ := solutions_withSeed hseed (env.graphs.wf_evalPath
      env.options.blankNodeMode s q o)
    refine ⟨_, ?_, hwf, hsol⟩
    simp only [evalWith, run_bind, checkDeadline_run htime]
    rfl
  | join _ _ ihl ihr =>
    obtain ⟨Ml, hl, hwl, hsl⟩ := ihl
    obtain ⟨Mr, hr, hwr, hsr⟩ := ihr
    refine ⟨Ml.join Mr, ?_, hwl.join hwr, ?_⟩
    · simp only [evalWith, run_bind, checkDeadline_run htime, hl, hr]
      rfl
    · rw [Multiset.solutions_join hwl hwr, hsl, hsr, hσ, Mapping.joinSet_singleton_joinSet]
      rfl
  | union _ _ ihl ihr =>
    obtain ⟨Ml, hl, hwl, hsl⟩ := ihl
    obtain ⟨Mr, hr, hwr, hsr⟩ := ihr
    refine ⟨Ml.union Mr, ?_, hwl.union hwr, ?_⟩
    · simp only [evalWith, run_bind, checkDeadline_run htime, hl, hr]
      rfl
    · rw [Multiset.solutions_union hwl hwr, hsl, hsr, ← Mapping.joinSet_union_right]
      rfl

end EvalEnv

end SparqlBag
