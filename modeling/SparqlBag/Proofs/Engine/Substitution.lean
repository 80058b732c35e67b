import SparqlBag.Proofs.Engine.Conjunctive
import SparqlBag.Proofs.Engine.PathRelation
import SparqlBag.Proofs.Expr.Substitution
import SparqlBag.Proofs.Solution.JoinLaws

/-!
# Putting values into patterns

`EXISTS p` evaluates `p` as it stands, seeded with the one solution that gives
the visible variables `p` mentions their values (`EvalEnv.existsSeed_spec`);
substitution puts those values into `p` instead.  `GraphPattern.Substitutes σ p
p'` says that `p'` is `p` with the values of `σ` put in, through the operators
where the two can agree.  Putting the values of `σ` into a basic graph pattern or
a path that takes an edge turns its solutions `A` into `substSet σ A`, the
members of `A` that agree with `σ` with its variables left out
(`EvalEnv.bgpSolutions_subst`, `Graphs.solutions_evalPath_subst`).
-/

namespace SparqlBag

/-! ## Putting values into patterns -/

namespace PatternTerm

/-- A position with the value `σ` gives its variable put in. -/
def subst (σ : Mapping) : PatternTerm → PatternTerm
  | .constant c => .constant c
  | .variable v =>
    match σ v with
    | some t => .constant t
    | none => .variable v

variable {σ : Mapping} {v : Variable}

@[simp] theorem subst_constant (σ : Mapping) (c : Term) : (constant c).subst σ = constant c := rfl

theorem subst_variable_of_some {t : Term} (h : σ v = some t) :
    (PatternTerm.variable v).subst σ = .constant t := by
  simp [subst, h]

theorem subst_variable_of_none (h : σ v = none) : (PatternTerm.variable v).subst σ = .variable v := by
  simp [subst, h]

end PatternTerm

/-- A term pattern with the value `σ` gives its variable put in. -/
def TermPattern.subst (σ : Mapping) : TermPattern → TermPattern
  | .term t => .term t
  | .var v =>
    match σ v with
    | some t => .term t
    | none => .var v

/-- A predicate with the value `σ` gives its variable put in: none when that
value is no IRI, since only an IRI stands as a predicate. -/
def IriPattern.subst? (σ : Mapping) : IriPattern → Option IriPattern
  | .iri i => some (.iri i)
  | .var v =>
    match σ v with
    | some (.iri i) => some (.iri i)
    | some _ => none
    | none => some (.var v)

/-- A triple pattern with the values of `σ` put in, if its predicate can hold its value. -/
def TriplePattern.subst? (σ : Mapping) (t : TriplePattern) : Option TriplePattern :=
  (t.predicate.subst? σ).map fun p => ⟨t.subject.subst σ, p, t.object.subst σ⟩

namespace GraphPattern

/-- `p'` is `p` with the values of `σ` put in for its variables: through joins,
unions, left joins, filters, `extend` of a variable `σ` leaves unbound, and
`GRAPH` of an IRI or of a variable `σ` leaves unbound, down to basic graph
patterns and to paths that take an edge; conditions take the values as
constants. -/
inductive Substitutes (σ : Mapping) : GraphPattern → GraphPattern → Prop
  | bgp {ts ts' : List TriplePattern} :
    List.Forall₂ (fun t t' => t.subst? σ = some t') ts ts' → Substitutes σ (.bgp ts) (.bgp ts')
  | path (s : TermPattern) {q : PropertyPath} (o : TermPattern) :
    q.takesEdge = true → Substitutes σ (.path s q o) (.path (s.subst σ) q (o.subst σ))
  | join {l r l' r' : GraphPattern} :
    Substitutes σ l l' → Substitutes σ r r' → Substitutes σ (.join l r) (.join l' r')
  | union {l r l' r' : GraphPattern} :
    Substitutes σ l l' → Substitutes σ r r' → Substitutes σ (.union l r) (.union l' r')
  | leftJoin {l r l' r' : GraphPattern} {c : Option Expression} :
    Substitutes σ l l' → Substitutes σ r r' → c.all (·.substitutable σ) = true →
      Substitutes σ (.leftJoin l r c) (.leftJoin l' r' (c.map (·.subst σ)))
  | filter {e : Expression} {q q' : GraphPattern} :
    e.substitutable σ = true → Substitutes σ q q' →
      Substitutes σ (.filter e q) (.filter (e.subst σ) q')
  | extend {q q' : GraphPattern} {v : Variable} {e : Expression} :
    Substitutes σ q q' → σ v = none → e.substitutable σ = true →
      Substitutes σ (.extend q v e) (.extend q' v (e.subst σ))
  | graphIri (n : String) {q q' : GraphPattern} :
    Substitutes σ q q' → Substitutes σ (.graph (.iri n) q) (.graph (.iri n) q')
  | graphVar {v : Variable} {q q' : GraphPattern} :
    σ v = none → Substitutes σ q q' → Substitutes σ (.graph (.var v) q) (.graph (.var v) q')

end GraphPattern

/-- The values a solution gives the visible variables that `p` mentions: what
`EXISTS p` reads of the solution, and what substitution puts into `p`. -/
def Solution.outerValues (sol : Solution) (p : GraphPattern) : Mapping :=
  fun v => if !v.isHidden && p.mentioned.contains v then sol.get v else none

/-! ## What substitution does to solutions -/

namespace Mapping

variable {σ μ α γ : Mapping} {v : Variable}

/-- `β` with the variables that `σ` binds left out. -/
def without (σ β : Mapping) : Mapping := fun v => if (σ v).isSome then none else β v

/-- The members of `A` that agree with `σ`, with the variables `σ` binds left
out: what putting the values of `σ` into a pattern makes of its solutions. -/
def substSet (σ : Mapping) (A : Set Mapping) : Set Mapping :=
  without σ '' {β ∈ A | Compatible σ β}

theorem mem_substSet {A : Set Mapping} {β' : Mapping} :
    β' ∈ substSet σ A ↔ ∃ β ∈ A, Compatible σ β ∧ without σ β = β' := by
  simp [substSet, and_assoc]

theorem without_apply_of_none (h : σ v = none) (β : Mapping) : without σ β v = β v := by
  simp [without, h]

@[simp] theorem without_empty (σ : Mapping) : without σ empty = empty := by
  funext v
  simp [without, empty]

theorem without_union (σ α γ : Mapping) : without σ (union α γ) = union (without σ α) (without σ γ) := by
  funext v
  by_cases h : (σ v).isSome <;> simp [without, h]

/-- Rebinding a variable that `σ` binds is not seen once its variables are left out. -/
theorem without_update_of_isSome (h : (σ v).isSome) (μ : Mapping) (x : Option Term) :
    without σ (Function.update μ v x) = without σ μ := by
  funext w
  by_cases hw : w = v
  · subst hw
    simp [without, h]
  · simp [without, Function.update_of_ne hw]

theorem without_update_of_none (h : σ v = none) (μ : Mapping) (x : Option Term) :
    without σ (Function.update μ v x) = Function.update (without σ μ) v x := by
  funext w
  by_cases hw : w = v
  · subst hw
    simp [without, h]
  · simp [without, Function.update_of_ne hw]

theorem Compatible.of_extends {β : Mapping} (h : Compatible σ β) (he : Extends β μ) :
    Compatible σ μ :=
  fun v a b ha hb => h v a b ha (he v b hb)

theorem Compatible.without (h : Compatible α γ) : Compatible (without σ α) (without σ γ) := by
  intro v a c ha hc
  by_cases hv : (σ v).isSome
  · simp [Mapping.without, hv] at ha
  · simp only [Mapping.without, hv, Bool.false_eq_true, if_false] at ha hc
    exact h v a c ha hc

/-- Two mappings that agree with `σ` agree with each other once they agree off
the variables of `σ`. -/
theorem compatible_of_without (hα : Compatible σ α) (hγ : Compatible σ γ)
    (h : Compatible (without σ α) (without σ γ)) : Compatible α γ := by
  intro v a c ha hc
  cases hv : σ v with
  | none => exact h v a c (by rwa [without_apply_of_none hv]) (by rwa [without_apply_of_none hv])
  | some u => exact (hα v u a hv ha).symm.trans (hγ v u c hv hc)

theorem compatible_union_right (h : Compatible α γ) :
    Compatible σ (union α γ) ↔ Compatible σ α ∧ Compatible σ γ := by
  rw [compatible_comm, compatible_union_left h]
  exact and_congr compatible_comm compatible_comm

theorem compatible_update_of_none (h : σ v = none) (hμ : Compatible σ μ) (x : Option Term) :
    Compatible σ (Function.update μ v x) := by
  intro w a b ha hb
  by_cases hw : w = v
  · subst hw
    simp [h] at ha
  · exact hμ w a b ha (by rwa [Function.update_of_ne hw] at hb)

theorem compatible_update_iff {u t : Term} (h : σ v = some u) (hμ : Compatible σ μ) :
    Compatible σ (Function.update μ v (some t)) ↔ u = t := by
  constructor
  · intro hc
    exact hc v u t h (by simp)
  · rintro rfl w a b ha hb
    by_cases hw : w = v
    · subst hw
      simp only [Function.update_self, Option.some.injEq] at hb
      rw [h] at ha
      exact (Option.some.inj ha).symm.trans hb
    · exact hμ w a b ha (by rwa [Function.update_of_ne hw] at hb)

/-! ### Through joins -/

theorem substSet_singleton_empty (σ : Mapping) : substSet σ {empty} = {empty} := by
  ext β'
  rw [mem_substSet, Set.mem_singleton_iff]
  constructor
  · rintro ⟨β, rfl, -, rfl⟩
    exact without_empty σ
  · rintro rfl
    exact ⟨empty, rfl, (compatible_empty σ).symm, without_empty σ⟩

/-- **Putting values into both sides of a join puts them into the join.**  The
parts of a solution that agrees with `σ` agree with it, and two parts that agree
with `σ` are compatible once they are compatible off the variables of `σ`. -/
theorem substSet_joinSet (σ : Mapping) (A B : Set Mapping) :
    substSet σ (joinSet A B) = joinSet (substSet σ A) (substSet σ B) := by
  ext β'
  simp only [mem_substSet, mem_joinSet, join?_eq_some_iff]
  constructor
  · rintro ⟨_, ⟨α, hα, γ, hγ, hαγ, rfl⟩, hσ, rfl⟩
    obtain ⟨hσα, hσγ⟩ := (compatible_union_right hαγ).1 hσ
    exact ⟨without σ α, ⟨α, hα, hσα, rfl⟩, without σ γ, ⟨γ, hγ, hσγ, rfl⟩, hαγ.without,
      (without_union σ α γ).symm⟩
  · rintro ⟨_, ⟨α, hα, hσα, rfl⟩, _, ⟨γ, hγ, hσγ, rfl⟩, hc, rfl⟩
    have hαγ := compatible_of_without hσα hσγ hc
    exact ⟨union α γ, ⟨α, hα, γ, hγ, hαγ, rfl⟩, (compatible_union_right hαγ).2 ⟨hσα, hσγ⟩,
      without_union σ α γ⟩

/-! ### At the positions of a pattern -/

/-- **Binding a position with the value of `σ` put in**, into a mapping with the
variables of `σ` left out, is binding the position and keeping what agrees
with `σ`. -/
theorem bindTerm_subst (hμ : Compatible σ μ) (x : PatternTerm) (t : Term) (β' : Mapping) :
    (without σ μ).bindTerm (x.subst σ) t = some β' ↔
      ∃ μ₁, μ.bindTerm x t = some μ₁ ∧ Compatible σ μ₁ ∧ without σ μ₁ = β' := by
  rcases x with c | v
  · by_cases hc : c = t <;> simp [bindTerm, hc, hμ]
  · cases hσ : σ v with
    | some u =>
      -- the variable is a constant now, and `μ` holds `u` there or nothing
      rw [PatternTerm.subst_variable_of_some hσ]
      cases hv : μ v with
      | some a =>
        obtain rfl : u = a := hμ v u a hσ hv
        by_cases hu : u = t <;> simp [bindTerm, hv, hu, hμ]
      | none =>
        have hsome : (σ v).isSome := by simp [hσ]
        by_cases hu : u = t <;>
          simp [bindTerm, hv, hu, without_update_of_isSome hsome, compatible_update_iff hσ hμ]
    | none =>
      rw [PatternTerm.subst_variable_of_none hσ]
      have hw : without σ μ v = μ v := without_apply_of_none hσ μ
      cases hv : μ v with
      | some a => by_cases ha : a = t <;> simp [bindTerm, hw, hv, ha, hμ]
      | none =>
        simp [bindTerm, hw, hv, without_update_of_none hσ, compatible_update_of_none hσ hμ]

/-- Binding positions with the values of `σ` put in, from a mapping with the
variables of `σ` left out: the bindings of the positions that agree with `σ`. -/
theorem bindAll_subst (bs : List (PatternTerm × Term)) (hμ : Compatible σ μ) (β' : Mapping) :
    (without σ μ).bindAll (bs.map fun b => (b.1.subst σ, b.2)) = some β' ↔
      ∃ β, μ.bindAll bs = some β ∧ Compatible σ β ∧ without σ β = β' := by
  induction bs generalizing μ with
  | nil => simp [hμ]
  | cons b bs ih =>
    simp only [List.map_cons, bindAll_cons, Option.bind_eq_some_iff]
    constructor
    · rintro ⟨μ', h₁, h₂⟩
      obtain ⟨μ₁, hb, hσ₁, rfl⟩ := (bindTerm_subst hμ b.1 b.2 μ').1 h₁
      obtain ⟨β, hβ, hσβ, rfl⟩ := (ih hσ₁).1 h₂
      exact ⟨β, ⟨μ₁, hb, hβ⟩, hσβ, rfl⟩
    · rintro ⟨β, ⟨μ₁, hb, hβ⟩, hσβ, rfl⟩
      -- the mapping bound first lies below the last one, so it agrees with `σ` too
      have hσ₁ : Compatible σ μ₁ := hσβ.of_extends (bindAll_sound hβ).1
      exact ⟨without σ μ₁, (bindTerm_subst hμ b.1 b.2 _).2 ⟨μ₁, hb, hσ₁, rfl⟩,
        (ih hσ₁).2 ⟨β, hβ, hσβ, rfl⟩⟩

theorem bindAll_subst_empty (σ : Mapping) (bs : List (PatternTerm × Term)) (β' : Mapping) :
    empty.bindAll (bs.map fun b => (b.1.subst σ, b.2)) = some β' ↔
      ∃ β, empty.bindAll bs = some β ∧ Compatible σ β ∧ without σ β = β' := by
  rw [← bindAll_subst bs (compatible_empty σ).symm, without_empty]

theorem relSolutions_subst (σ : Mapping) (R : Term → Term → Prop) (x y : PatternTerm) :
    relSolutions R (x.subst σ) (y.subst σ) = substSet σ (relSolutions R x y) := by
  ext β'
  rw [mem_substSet]
  constructor
  · rintro ⟨a, b, hab, h⟩
    obtain ⟨β, hβ, hσ, rfl⟩ := (bindAll_subst_empty σ [(x, a), (y, b)] β').1 h
    exact ⟨β, ⟨a, b, hab, hβ⟩, hσ, rfl⟩
  · rintro ⟨β, ⟨a, b, hab, hβ⟩, hσ, rfl⟩
    exact ⟨a, b, hab, (bindAll_subst_empty σ [(x, a), (y, b)] _).2 ⟨β, hβ, hσ, rfl⟩⟩

end Mapping

/-- Values that can be put into term patterns evaluated in `mode`: no hidden
variable takes one, and no blank node is put in where the blank nodes of
patterns stand for hidden variables. -/
structure Mapping.Substitutable (σ : Mapping) (mode : BlankNodeMode) : Prop where
  hidden : ∀ v, v.isHidden = true → σ v = none
  blank : mode = .hiddenVariable → ∀ v t, σ v = some t → t.isBlank = false

/-- The variable a blank node of a pattern stands for is hidden. -/
theorem isHidden_blankVariable (b : String) : (⟨blankVariablePrefix ++ b⟩ : Variable).isHidden = true := by
  unfold Variable.isHidden
  rw [Bool.or_eq_true]
  right
  rw [String.startsWith_string_iff, String.toList_append]
  exact List.prefix_append _ _

namespace TermPattern

variable {σ : Mapping} {mode : BlankNodeMode}

theorem resolve_term_of_substitutable (hσ : σ.Substitutable mode) {v : Variable} {t : Term}
    (h : σ v = some t) : (TermPattern.term t).resolve mode = .constant t := by
  rcases t with i | b | l
  · rfl
  · cases mode with
    | hiddenVariable => exact absurd (hσ.blank rfl v _ h) (by simp [Term.isBlank])
    | exactMatch => rfl
  · rfl

/-- **Putting values in commutes with reading a term pattern as a position.** -/
theorem resolve_subst (hσ : σ.Substitutable mode) (x : TermPattern) :
    (x.subst σ).resolve mode = (x.resolve mode).subst σ := by
  rcases x with t | v
  · rcases t with i | b | l
    · rfl
    · -- a blank node of the pattern stands for a hidden variable, which `σ` leaves unbound
      cases mode with
      | hiddenVariable =>
        exact (PatternTerm.subst_variable_of_none (hσ.hidden _ (isHidden_blankVariable b))).symm
      | exactMatch => rfl
    · rfl
  · cases hv : σ v with
    | none =>
      simp only [TermPattern.subst, hv, resolve]
      exact (PatternTerm.subst_variable_of_none hv).symm
    | some t =>
      simp only [TermPattern.subst, hv, resolve]
      rw [PatternTerm.subst_variable_of_some hv]
      exact resolve_term_of_substitutable hσ hv

end TermPattern

namespace Graphs

variable {g : Graphs} {σ : Mapping}

theorem tripleSolutions_subst (σ : Mapping) (x p y : PatternTerm) :
    g.tripleSolutions (x.subst σ) (p.subst σ) (y.subst σ) =
      Mapping.substSet σ (g.tripleSolutions x p y) := by
  ext β'
  rw [Mapping.mem_substSet]
  constructor
  · rintro ⟨tr, htr, h⟩
    obtain ⟨β, hβ, hσ, rfl⟩ := (Mapping.bindAll_subst_empty σ
      [(x, tr.subject), (p, .iri tr.predicate), (y, tr.object)] β').1 h
    exact ⟨β, ⟨tr, htr, hβ⟩, hσ, rfl⟩
  · rintro ⟨β, ⟨tr, htr, hβ⟩, hσ, rfl⟩
    exact ⟨tr, htr, (Mapping.bindAll_subst_empty σ
      [(x, tr.subject), (p, .iri tr.predicate), (y, tr.object)] _).2 ⟨β, hβ, hσ, rfl⟩⟩

/-- A path that takes an edge relates the terms put in as it related the variables. -/
theorem solutions_evalPath_subst (hlit : g.NoLiteralSubjects) {mode : BlankNodeMode}
    (hσ : σ.Substitutable mode) {q : PropertyPath} (hq : q.takesEdge = true) (s o : TermPattern) :
    (g.evalPath mode (s.subst σ) q (o.subst σ)).solutions =
      Mapping.substSet σ (g.evalPath mode s q o).solutions := by
  rw [solutions_evalPath_connects hlit, solutions_evalPath_connects hlit, connects_eq_pathRel hq,
    connects_eq_pathRel hq, TermPattern.resolve_subst hσ, TermPattern.resolve_subst hσ,
    Mapping.relSolutions_subst]

end Graphs

namespace EvalEnv

variable {env : EvalEnv} {σ : Mapping}

theorem predicatePosition_subst {p p' : IriPattern} (h : p.subst? σ = some p') :
    predicatePosition p' = (predicatePosition p).subst σ := by
  rcases p with i | v
  · cases h
    rfl
  · simp only [IriPattern.subst?] at h
    cases hv : σ v with
    | none =>
      rw [hv] at h
      cases h
      exact (PatternTerm.subst_variable_of_none hv).symm
    | some t =>
      rw [hv] at h
      rcases t with i | b | l
      · cases h
        exact (PatternTerm.subst_variable_of_some hv).symm
      · cases h
      · cases h

theorem tripleSolutionsOf_subst (hσ : σ.Substitutable env.options.blankNodeMode)
    {t t' : TriplePattern} (h : t.subst? σ = some t') :
    env.tripleSolutionsOf t' = Mapping.substSet σ (env.tripleSolutionsOf t) := by
  obtain ⟨p', hp, rfl⟩ := Option.map_eq_some_iff.1 h
  rw [tripleSolutionsOf, tripleSolutionsOf, TermPattern.resolve_subst hσ,
    TermPattern.resolve_subst hσ, predicatePosition_subst hp, Graphs.tripleSolutions_subst]

theorem bgpSolutions_subst (hσ : σ.Substitutable env.options.blankNodeMode)
    {ts ts' : List TriplePattern} (h : List.Forall₂ (fun t t' => t.subst? σ = some t') ts ts') :
    env.bgpSolutions ts' = Mapping.substSet σ (env.bgpSolutions ts) := by
  induction h with
  | nil => rw [bgpSolutions_nil, Mapping.substSet_singleton_empty]
  | cons ht _ ih =>
    rw [bgpSolutions_cons, bgpSolutions_cons, tripleSolutionsOf_subst hσ ht, ih,
      Mapping.substSet_joinSet]

end EvalEnv

/-! ## The seed of `EXISTS` -/

namespace Solution

/-- The row of a seed: the values of the variables that `keep` accepts. -/
theorem get_filter_zip (keep : Variable → Bool) :
    ∀ (vars : List Variable) (row : Row) (v : Variable),
      Solution.get ⟨((vars.zip row).filter fun x => keep x.1).map (·.1),
          ((vars.zip row).filter fun x => keep x.1).map (·.2)⟩ v =
        if keep v then Solution.get ⟨vars, row⟩ v else none
  | [], row, v => by simp
  | w :: ws, [], v => by simp
  | w :: ws, x :: row, v => by
    have ih := get_filter_zip keep ws row v
    rw [List.zip_cons_cons, List.filter_cons, get_cons]
    by_cases hw : keep w
    · rw [if_pos hw, List.map_cons, List.map_cons, get_cons, ih]
      by_cases hwv : w = v
      · subst hwv
        simp [hw]
      · simp [hwv]
    · rw [if_neg hw, ih]
      by_cases hwv : w = v
      · subst hwv
        simp [hw]
      · simp [hwv]

/-- A value of a solution is one of its values. -/
theorem mem_values_of_get {sol : Solution} {v : Variable} {t : Term} (h : sol.get v = some t) :
    some t ∈ sol.values := by
  obtain ⟨i, -, hi⟩ := exists_idxOf?_of_get h
  exact List.mem_of_getElem? (Option.join_eq_some_iff.1 hi)

end Solution

namespace EvalEnv

/-- **The seed of `EXISTS p` is one solution, the values of the visible variables
that `p` mentions**, for a solution that names each variable once. -/
theorem existsSeed_spec {sol : Solution} (hsol : sol.vars.Nodup) (p : GraphPattern) :
    (∀ m, existsSeed sol p = some m → m.WF) ∧
      ((existsSeed sol p).getD .identity).solutions = {sol.outerValues p} := by
  -- the seed's variables, each with its value, in the order of the solution
  obtain ⟨pairs, hpairs⟩ : ∃ pairs, pairs = (sol.vars.zip (sol.values.fit sol.vars.length)).filter
      fun x => !x.1.isHidden && p.mentioned.contains x.1 := ⟨_, rfl⟩
  have hseed : existsSeed sol p =
      if pairs.isEmpty then none else some (Multiset.ofRows (pairs.map (·.1)) [pairs.map (·.2)]) := by
    rw [hpairs]
    rfl
  have hget : Solution.get ⟨pairs.map (·.1), pairs.map (·.2)⟩ = sol.outerValues p := by
    funext v
    rw [hpairs, Solution.get_filter_zip (fun v => !v.isHidden && p.mentioned.contains v),
      Solution.get_fit]
    rfl
  have hnodup : (pairs.map (·.1)).Nodup := by
    have hsub : pairs.Sublist (sol.vars.zip (sol.values.fit sol.vars.length)) :=
      hpairs ▸ List.filter_sublist
    have hfst := hsub.map Prod.fst
    rw [List.map_fst_zip (by simp)] at hfst
    exact hsol.sublist hfst
  rw [hseed]
  split_ifs with hempty
  · refine ⟨fun m hm => (by cases hm), ?_⟩
    rw [Option.getD_none, Multiset.solutions_identity, Set.singleton_eq_singleton_iff, ← hget,
      List.isEmpty_iff.1 hempty]
    funext v
    simp [Mapping.empty]
  · refine ⟨fun m hm => (by cases hm; exact Multiset.wf_ofRows hnodup _), ?_⟩
    ext μ
    rw [Option.getD_some, Multiset.mem_solutions_ofRows, Set.mem_singleton_iff]
    simp only [List.mem_singleton, exists_eq_left]
    rw [hget]
    exact eq_comm

end EvalEnv

namespace Multiset

/-- A multiset is not empty exactly when it has a solution. -/
theorem isEmpty_eq_false_iff {m : Multiset} : m.isEmpty = false ↔ m.solutions.Nonempty := by
  rw [isEmpty, ← length_mappings, beq_eq_false_iff_ne, ne_eq, List.length_eq_zero_iff]
  constructor
  · intro h
    obtain ⟨μ, hμ⟩ := List.exists_mem_of_ne_nil _ h
    exact ⟨μ, hμ⟩
  · rintro ⟨μ, hμ⟩ h
    rw [mem_solutions, h] at hμ
    cases hμ

end Multiset

end SparqlBag
