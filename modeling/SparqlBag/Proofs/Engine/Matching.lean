import SparqlBag.Engine.Pattern
import SparqlBag.Proofs.Solution.Sets

/-!
# Matching triple patterns

Under a mapping a constant position stands for itself and a variable for its
value.  Binding a position to a term checks a constant or a bound variable and
binds an unbound one; binding positions one after another joins the mapping with
their bindings (`Mapping.bindAll_eq_join`).  The solutions of a triple pattern bind
its positions to the triples of the active graph.  Matching it against a multiset
joins with them (`EvalEnv.solutions_matchTriple`), and a basic graph pattern joins
those of its triple patterns in turn (`EvalEnv.solutions_evalBgp`), in data where no
subject is a literal.
-/

namespace SparqlBag

namespace PatternTerm

/-- The variables of a position: none for a constant. -/
def vars : PatternTerm → List Variable
  | .constant _ => []
  | .variable v => [v]

/-- The term a position stands for under a mapping. -/
def valueIn (μ : Mapping) : PatternTerm → Option Term
  | .constant c => some c
  | .variable v => μ v

/-- Where `EvalEnv.place` finds a position among `vars`: nowhere for a
constant, at the first occurrence of a variable. -/
def posIn (vars : List Variable) : PatternTerm → Option Nat
  | .constant _ => none
  | .variable v => some (vars.idxOf v)

@[simp] theorem posIn_constant (vars : List Variable) (c : Term) :
    (constant c).posIn vars = none := rfl

@[simp] theorem posIn_variable (vars : List Variable) (v : Variable) :
    (PatternTerm.variable v).posIn vars = some (vars.idxOf v) := rfl

/-- A position of variables among the first ones stays where it is when more
variables follow. -/
theorem posIn_append {x : PatternTerm} {vars : List Variable} (extra : List Variable)
    (hx : ∀ v ∈ x.vars, v ∈ vars) : x.posIn (vars ++ extra) = x.posIn vars := by
  rcases x with c | v
  · rfl
  · exact congrArg some (idxOf_append_of_mem (hx v (List.mem_singleton_self v)))

@[simp] theorem vars_constant (c : Term) : (constant c).vars = [] := rfl

@[simp] theorem vars_variable (v : Variable) : (PatternTerm.variable v).vars = [v] := rfl

@[simp] theorem valueIn_constant (μ : Mapping) (c : Term) : (constant c).valueIn μ = some c := rfl

@[simp] theorem valueIn_variable (μ : Mapping) (v : Variable) :
    (PatternTerm.variable v).valueIn μ = μ v := rfl

end PatternTerm

namespace Mapping

/-- `τ` holds every value of `μ`. -/
def Extends (τ μ : Mapping) : Prop := ∀ v a, μ v = some a → τ v = some a

variable {μ μ' τ ρ : Mapping}

theorem Extends.refl (μ : Mapping) : Extends μ μ := fun _ _ h => h

theorem Extends.trans (h₁ : Extends ρ τ) (h₂ : Extends τ μ) : Extends ρ μ :=
  fun v a h => h₁ v a (h₂ v a h)

theorem Extends.valueIn (h : Extends τ μ) {x : PatternTerm} {t : Term}
    (hx : x.valueIn μ = some t) : x.valueIn τ = some t := by
  rcases x with c | v
  · exact hx
  · exact h v t hx

/-- A mapping that extends another with the same bound variables is that mapping. -/
theorem Extends.eq_of_isSome (h : Extends τ μ) (hdom : ∀ v, (τ v).isSome → (μ v).isSome) :
    τ = μ := by
  funext v
  cases hμ : μ v with
  | some a => exact h v a hμ
  | none =>
    cases hτ : τ v with
    | none => rfl
    | some a => simpa [hμ] using hdom v (by simp [hτ])

/-- Binds a position to a term: a constant must be the term, a bound variable
must hold it, and an unbound variable receives it. -/
def bindTerm (μ : Mapping) : PatternTerm → Term → Option Mapping
  | .constant c, t => if c = t then some μ else none
  | .variable v, t =>
    match μ v with
    | some u => if u = t then some μ else none
    | none => some (Function.update μ v (some t))

/-- Binds positions to terms from left to right. -/
def bindAll (μ : Mapping) (bs : List (PatternTerm × Term)) : Option Mapping :=
  bs.foldlM (fun μ b => μ.bindTerm b.1 b.2) μ

@[simp] theorem bindAll_nil (μ : Mapping) : μ.bindAll [] = some μ := rfl

theorem bindAll_cons (μ : Mapping) (b : PatternTerm × Term) (bs : List (PatternTerm × Term)) :
    μ.bindAll (b :: bs) = (μ.bindTerm b.1 b.2).bind (·.bindAll bs) := rfl

/-- A successful binding extends the mapping, gives the position the term, and
binds the variables of the position besides those bound before. -/
theorem bindTerm_sound {x : PatternTerm} {t : Term} (h : μ.bindTerm x t = some μ') :
    Extends μ' μ ∧ x.valueIn μ' = some t ∧ ∀ v, (μ' v).isSome ↔ (μ v).isSome ∨ v ∈ x.vars := by
  rcases x with c | w
  · simp only [bindTerm] at h
    split at h
    · cases h
      exact ⟨.refl μ, by simpa, by simp⟩
    · cases h
  · simp only [bindTerm] at h
    split at h
    · rename_i u hu
      split at h
      · cases h
        subst u
        refine ⟨.refl μ, hu, fun v => ⟨.inl, ?_⟩⟩
        rintro (hv | hv)
        · exact hv
        · simp only [PatternTerm.vars_variable, List.mem_singleton] at hv
          simp [hv, hu]
      · cases h
    · rename_i hu
      cases h
      refine ⟨fun v a hv => ?_, by simp, fun v => ?_⟩
      · rw [Function.update_of_ne (by rintro rfl; simp [hu] at hv)]
        exact hv
      · by_cases hv : v = w
        · simp [hv]
        · simp [hv]

/-- Binding succeeds into any mapping below one that gives the position the term. -/
theorem bindTerm_complete {x : PatternTerm} {t : Term} (hτ : Extends τ μ)
    (hx : x.valueIn τ = some t) : ∃ μ', μ.bindTerm x t = some μ' ∧ Extends τ μ' := by
  rcases x with c | w
  · obtain rfl : c = t := by simpa using hx
    exact ⟨μ, by simp [bindTerm], hτ⟩
  · cases hw : μ w with
    | some u =>
      obtain rfl : u = t := Option.some.inj ((hτ w u hw).symm.trans hx)
      exact ⟨μ, by simp [bindTerm, hw], hτ⟩
    | none =>
      refine ⟨Function.update μ w (some t), by simp [bindTerm, hw], fun v a hv => ?_⟩
      by_cases hvw : v = w
      · subst hvw
        simp only [Function.update_self, Option.some.injEq] at hv
        simpa [hv] using hx
      · exact hτ v a (by rwa [Function.update_of_ne hvw] at hv)

/-- **Binding a position into a mapping joins the mapping with the binding made
from the empty mapping.** -/
theorem bindTerm_eq_join (μ : Mapping) (x : PatternTerm) (t : Term) :
    μ.bindTerm x t = (empty.bindTerm x t).bind (join? μ) := by
  rcases x with c | w
  · by_cases hc : c = t
    · simp [bindTerm, hc, join?_comm μ]
    · simp [bindTerm, hc]
  · have hsingle : empty.bindTerm (.variable w) t = some (Function.update empty w (some t)) := rfl
    rw [hsingle, Option.bind_some]
    -- the binding of `w` is compatible with `μ` exactly when `μ` leaves `w` unbound or holds `t`
    cases hw : μ w with
    | some u =>
      by_cases hu : u = t
      · subst hu
        rw [show μ.bindTerm (.variable w) u = some μ by simp [bindTerm, hw]]
        refine (join?_eq_some_iff.2 ⟨fun v a b ha hb => ?_, funext fun v => ?_⟩).symm
        · by_cases hv : v = w
          · subst hv
            simp_all
          · simp [Function.update_of_ne hv, empty] at hb
        · by_cases hv : v = w
          · subst hv
            simp [hw]
          · simp [Function.update_of_ne hv, empty]
      · simp only [bindTerm, hw, if_neg hu]
        cases hj : join? μ (Function.update empty w (some t)) with
        | none => rfl
        | some ρ =>
          have hc := (join?_eq_some_iff.1 hj).1 w u t hw (by simp)
          exact absurd hc hu
    | none =>
      rw [show μ.bindTerm (.variable w) t = some (Function.update μ w (some t)) by
        simp [bindTerm, hw]]
      refine (join?_eq_some_iff.2 ⟨fun v a b ha hb => ?_, funext fun v => ?_⟩).symm
      · by_cases hv : v = w
        · subst hv
          simp [hw] at ha
        · simp [Function.update_of_ne hv, empty] at hb
      · by_cases hv : v = w
        · subst hv
          simp [hw]
        · simp [Function.update_of_ne hv, empty]

theorem bindAll_sound {bs : List (PatternTerm × Term)} (h : μ.bindAll bs = some μ') :
    Extends μ' μ ∧ (∀ b ∈ bs, b.1.valueIn μ' = some b.2) ∧
      ∀ v, (μ' v).isSome ↔ (μ v).isSome ∨ ∃ b ∈ bs, v ∈ b.1.vars := by
  induction bs generalizing μ with
  | nil =>
    cases h
    exact ⟨.refl _, by simp, by simp⟩
  | cons b bs ih =>
    obtain ⟨μ₁, h₁, h₂⟩ := Option.bind_eq_some_iff.1 h
    obtain ⟨he₁, hv₁, hd₁⟩ := bindTerm_sound h₁
    obtain ⟨he₂, hv₂, hd₂⟩ := ih h₂
    refine ⟨he₂.trans he₁, ?_, fun v => ?_⟩
    · intro b' hb'
      rcases List.mem_cons.1 hb' with rfl | hb'
      · exact he₂.valueIn hv₁
      · exact hv₂ b' hb'
    · rw [hd₂, hd₁]
      simp only [List.mem_cons, exists_eq_or_imp]
      tauto

theorem bindAll_complete {bs : List (PatternTerm × Term)} (hτ : Extends τ μ)
    (hbs : ∀ b ∈ bs, b.1.valueIn τ = some b.2) :
    ∃ μ', μ.bindAll bs = some μ' ∧ Extends τ μ' := by
  induction bs generalizing μ with
  | nil => exact ⟨μ, rfl, hτ⟩
  | cons b bs ih =>
    obtain ⟨μ₁, h₁, hτ₁⟩ := bindTerm_complete hτ (hbs b (List.mem_cons_self ..))
    obtain ⟨μ₂, h₂, hτ₂⟩ := ih hτ₁ fun b' hb' => hbs b' (List.mem_cons_of_mem _ hb')
    exact ⟨μ₂, by rw [bindAll_cons, h₁, Option.bind_some, h₂], hτ₂⟩

/-- **Binding positions into a mapping joins the mapping with the bindings made
from the empty mapping.** -/
theorem bindAll_eq_join (μ : Mapping) (bs : List (PatternTerm × Term)) :
    μ.bindAll bs = (empty.bindAll bs).bind (join? μ) := by
  induction bs generalizing μ with
  | nil => simp [join?_comm μ]
  | cons b bs ih =>
    rw [bindAll_cons, bindAll_cons, bindTerm_eq_join]
    cases hb : empty.bindTerm b.1 b.2 with
    | none => rfl
    | some β₁ =>
      -- the rest binds into any mapping as a join with one fixed binding, or not at all
      have key := ih
      cases hbs : empty.bindAll bs with
      | none =>
        simp only [hbs, Option.bind_none] at key
        simp [key]
      | some β₂ =>
        simp only [hbs, Option.bind_some] at key
        simp only [Option.bind_some, key]
        exact join?_assoc μ β₁ β₂

/-- The solutions of two positions for terms related by `R`: the bindings of
the two positions to related terms. -/
def relSolutions (R : Term → Term → Prop) (x y : PatternTerm) : Set Mapping :=
  {β | ∃ a b, R a b ∧ empty.bindAll [(x, a), (y, b)] = some β}

/-- **A solution of two related positions binds exactly their variables, to
values under which they stand for related terms.** -/
theorem mem_relSolutions {R : Term → Term → Prop} {x y : PatternTerm} {β : Mapping} :
    β ∈ relSolutions R x y ↔ (∀ v, (β v).isSome ↔ v ∈ x.vars ∨ v ∈ y.vars) ∧
      ∃ a b, R a b ∧ x.valueIn β = some a ∧ y.valueIn β = some b := by
  constructor
  · rintro ⟨a, b, hR, h⟩
    obtain ⟨-, hv, hd⟩ := bindAll_sound h
    exact ⟨fun v => by simpa [empty] using hd v, a, b, hR, hv (x, a) (by simp), hv (y, b) (by simp)⟩
  · rintro ⟨hd, a, b, hR, ha, hb⟩
    have hτ : Extends β empty := fun _ _ h => by cases h
    obtain ⟨μ, h, hβ⟩ := bindAll_complete hτ
      (show ∀ c ∈ [(x, a), (y, b)], c.1.valueIn β = some c.2 by simp [ha, hb])
    -- the binding is below `β` and binds the same variables, so it is `β`
    have hdom := (bindAll_sound h).2.2
    have hμ : β = μ := hβ.eq_of_isSome fun v hv => by
      rw [hdom v]
      simpa [empty] using (hd v).1 hv
    exact ⟨a, b, hR, h.trans (congrArg some hμ.symm)⟩

/-! ### The solutions of two related positions, by their shape -/

variable {R : Term → Term → Prop} {β : Mapping}

/-- A mapping binds just `v`, to `n`. -/
theorem eq_update_empty_iff {v : Variable} {n : Term} :
    β = Function.update empty v (some n) ↔ β v = some n ∧ ∀ u, (β u).isSome → u = v := by
  constructor
  · rintro rfl
    refine ⟨by simp, fun u hu => ?_⟩
    by_contra h
    simp [Function.update_of_ne h, empty] at hu
  · rintro ⟨hv, hdom⟩
    funext u
    by_cases h : u = v
    · subst h
      simpa using hv
    · rw [Function.update_of_ne h]
      cases hu : β u with
      | none => rfl
      | some a => exact absurd (hdom u (by simp [hu])) h

theorem mem_relSolutions_constant_constant {a b : Term} :
    β ∈ relSolutions R (.constant a) (.constant b) ↔ R a b ∧ β = empty := by
  rw [mem_relSolutions]
  constructor
  · rintro ⟨hd, a', b', hR, ha, hb⟩
    obtain rfl := Option.some.inj ha
    obtain rfl := Option.some.inj hb
    exact ⟨hR, funext fun u => by simpa [empty] using hd u⟩
  · rintro ⟨hR, rfl⟩
    exact ⟨fun u => by simp [empty], a, b, hR, rfl, rfl⟩

theorem mem_relSolutions_constant_variable {a : Term} {v : Variable} :
    β ∈ relSolutions R (.constant a) (.variable v) ↔
      ∃ n, R a n ∧ β = Function.update empty v (some n) := by
  simp only [mem_relSolutions, eq_update_empty_iff, PatternTerm.vars_constant,
    PatternTerm.vars_variable, PatternTerm.valueIn_constant, PatternTerm.valueIn_variable,
    List.not_mem_nil, List.mem_singleton, false_or, Option.some.injEq]
  constructor
  · rintro ⟨hd, a', n, hR, rfl, hv⟩
    exact ⟨n, hR, hv, fun u hu => (hd u).1 hu⟩
  · rintro ⟨n, hR, hv, hdom⟩
    exact ⟨fun u => ⟨hdom u, fun h => by simp [h, hv]⟩, a, n, hR, rfl, hv⟩

theorem mem_relSolutions_variable_constant {v : Variable} {b : Term} :
    β ∈ relSolutions R (.variable v) (.constant b) ↔
      ∃ n, R n b ∧ β = Function.update empty v (some n) := by
  simp only [mem_relSolutions, eq_update_empty_iff, PatternTerm.vars_constant,
    PatternTerm.vars_variable, PatternTerm.valueIn_constant, PatternTerm.valueIn_variable,
    List.not_mem_nil, List.mem_singleton, or_false, Option.some.injEq]
  constructor
  · rintro ⟨hd, n, b', hR, hv, rfl⟩
    exact ⟨n, hR, hv, fun u hu => (hd u).1 hu⟩
  · rintro ⟨n, hR, hv, hdom⟩
    exact ⟨fun u => ⟨hdom u, fun h => by simp [h, hv]⟩, n, b, hR, hv, rfl⟩

theorem mem_relSolutions_variable_self {v : Variable} :
    β ∈ relSolutions R (.variable v) (.variable v) ↔
      ∃ n, R n n ∧ β = Function.update empty v (some n) := by
  simp only [mem_relSolutions, eq_update_empty_iff, PatternTerm.vars_variable,
    PatternTerm.valueIn_variable, List.mem_singleton, or_self]
  constructor
  · rintro ⟨hd, n, m, hR, hn, hm⟩
    obtain rfl := Option.some.inj (hn.symm.trans hm)
    exact ⟨n, hR, hn, fun u hu => (hd u).1 hu⟩
  · rintro ⟨n, hR, hv, hdom⟩
    exact ⟨fun u => ⟨hdom u, fun h => by simp [h, hv]⟩, n, n, hR, hv, hv⟩

theorem mem_relSolutions_variable_variable {v w : Variable} (hvw : v ≠ w) :
    β ∈ relSolutions R (.variable v) (.variable w) ↔
      ∃ n m, R n m ∧ β = Function.update (Function.update empty v (some n)) w (some m) := by
  rw [mem_relSolutions]
  simp only [PatternTerm.vars_variable, PatternTerm.valueIn_variable, List.mem_singleton]
  constructor
  · rintro ⟨hd, n, m, hR, hn, hm⟩
    refine ⟨n, m, hR, funext fun u => ?_⟩
    by_cases huw : u = w
    · subst huw
      simpa using hm
    · by_cases huv : u = v
      · subst huv
        simpa [Function.update_of_ne huw] using hn
      · rw [Function.update_of_ne huw, Function.update_of_ne huv]
        cases hu : β u with
        | none => rfl
        | some a => exact absurd ((hd u).1 (by simp [hu])) (by tauto)
  · rintro ⟨n, m, hR, rfl⟩
    refine ⟨fun u => ?_, n, m, hR, by simp [Function.update_of_ne hvw], by simp⟩
    by_cases huw : u = w
    · simp [huw]
    · by_cases huv : u = v
      · simp [huv, Function.update_of_ne hvw]
      · simp [empty, huw, huv]

end Mapping

theorem foldl_dedupe {α : Type} [BEq α] [LawfulBEq α] (xs : List α) (acc : List α × List α)
    (hacc : ∀ y, y ∈ acc.1 ↔ y ∈ acc.2) (x : α) :
    x ∈ (xs.foldl (fun (acc : List α × List α) x =>
      if acc.2.contains x then acc else (acc.1 ++ [x], x :: acc.2)) acc).1 ↔ x ∈ acc.1 ∨ x ∈ xs := by
  induction xs generalizing acc with
  | nil => simp
  | cons y ys ih =>
    rw [List.foldl_cons]
    by_cases hy : acc.2.contains y
    · rw [if_pos hy, ih acc hacc]
      have : y ∈ acc.1 := (hacc y).2 (by simpa using hy)
      by_cases hxy : x = y
      · subst hxy
        simp [this]
      · simp [hxy]
    · rw [if_neg hy, ih _ fun z => by simp [hacc z, or_comm]]
      simp [or_assoc]

/-- Removing repetitions keeps every element. -/
@[simp] theorem mem_dedupeList {α : Type} [BEq α] [LawfulBEq α] {xs : List α} {x : α} :
    x ∈ dedupeList xs ↔ x ∈ xs := by
  unfold dedupeList
  rw [foldl_dedupe xs ([], []) (by simp) x]
  simp

theorem Quad.matches_iff {q : Quad} {s : Option Term} {p : Option String} {o : Option Term}
    {graph : Option GraphName} :
    q.matches s p o graph = true ↔ (∀ a ∈ s, a = q.subject) ∧ (∀ i ∈ p, i = q.predicate) ∧
      (∀ b ∈ o, b = q.object) ∧ ∀ h ∈ graph, h = q.graph := by
  simp [Quad.matches, Option.all_eq_true, and_assoc]

namespace Graphs

variable {g : Graphs}

/-- **A triple matches a pattern when it is a triple of the active graph that
agrees with every given part, and no literal is asked for as the subject.** -/
theorem mem_triples {s : Option Term} {p : Option String} {o : Option Term} {tr : Triple} :
    tr ∈ g.triples s p o ↔ (∀ a ∈ s, a.isLiteral = false) ∧ tr ∈ g.triples none none none ∧
      (∀ a ∈ s, a = tr.subject) ∧ (∀ i ∈ p, i = tr.predicate) ∧ ∀ b ∈ o, b = tr.object := by
  simp only [triples, Option.any_none, Bool.false_eq_true, if_false]
  by_cases hs : s.any Term.isLiteral
  · -- a literal subject matches nothing
    obtain ⟨a, rfl, ha⟩ := (Option.any_eq_true _ _).1 hs
    simp [ha]
  rw [if_neg hs]
  have hlit : ∀ a ∈ s, a.isLiteral = false := fun a ha => by
    simpa [Option.mem_def.1 ha] using hs
  split_ifs <;>
  · simp only [mem_dedupeList, List.mem_flatMap, List.mem_map, Dataset.matching, List.mem_filter,
      Quad.matches_iff]
    constructor
    · rintro ⟨graph, hg, q, ⟨hq, hs', hp', ho', hgr⟩, rfl⟩
      exact ⟨hlit, ⟨graph, hg, q, ⟨hq, by simp, by simp, by simp, hgr⟩, rfl⟩, hs', hp', ho'⟩
    · rintro ⟨-, ⟨graph, hg, q, ⟨hq, -, -, -, hgr⟩, rfl⟩, hs', hp', ho'⟩
      exact ⟨graph, hg, q, ⟨hq, hs', hp', ho', hgr⟩, rfl⟩

/-- No triple of the active graph has a literal subject, as in RDF data. -/
def NoLiteralSubjects (g : Graphs) : Prop :=
  ∀ tr ∈ g.triples none none none, tr.subject.isLiteral = false

/-- The active graph has a triple from `a` to `b` with predicate `p`. -/
def Edge (g : Graphs) (p : String) (a b : Term) : Prop := ⟨a, p, b⟩ ∈ g.triples none none none

theorem exists_quad_of_mem_triples {s : Option Term} {p : Option String} {o : Option Term}
    {tr : Triple} (h : tr ∈ g.triples s p o) : ∃ q ∈ g.dataset.quads, q.triple = tr := by
  simp only [triples] at h
  split_ifs at h
  · simp at h
  all_goals
    simp only [mem_dedupeList, List.mem_flatMap, List.mem_map, Dataset.matching,
      List.mem_filter] at h
    obtain ⟨-, -, q, ⟨hq, -⟩, rfl⟩ := h
    exact ⟨q, hq, rfl⟩

/-- A dataset without literal subjects has none in any active graph. -/
theorem noLiteralSubjects_of_quads {d : Dataset} (hd : ∀ q ∈ d.quads, q.subject.isLiteral = false)
    (active : ActiveGraph) : NoLiteralSubjects ⟨d, active⟩ := fun tr htr => by
  obtain ⟨q, hq, rfl⟩ := exists_quad_of_mem_triples htr
  exact hd q hq

/-- The solutions of the triple pattern with positions `x`, `p`, `y`: the
bindings of the three positions to the terms of a triple of the active graph. -/
def tripleSolutions (g : Graphs) (x p y : PatternTerm) : Set Mapping :=
  {β | ∃ tr ∈ g.triples none none none,
    Mapping.empty.bindAll [(x, tr.subject), (p, .iri tr.predicate), (y, tr.object)] = some β}

/-- A triple pattern with an IRI as predicate relates its subject and object by
the edges of that predicate. -/
theorem tripleSolutions_iri (x y : PatternTerm) (p : String) :
    g.tripleSolutions x (.constant (.iri p)) y = Mapping.relSolutions (g.Edge p) x y := by
  ext β
  have hmid : ∀ (a b : Term) (q : String), Mapping.empty.bindAll
      [(x, a), (.constant (.iri p), .iri q), (y, b)] =
        if p = q then Mapping.empty.bindAll [(x, a), (y, b)] else none := by
    intro a b q
    by_cases hpq : p = q
    · subst hpq
      simp [Mapping.bindAll_cons, Mapping.bindTerm]
    · simp [Mapping.bindAll_cons, Mapping.bindTerm, hpq]
  constructor
  · rintro ⟨tr, htr, h⟩
    rw [hmid] at h
    split_ifs at h with hpq
    exact ⟨tr.subject, tr.object, by rw [Edge, hpq]; exact htr, h⟩
  · rintro ⟨a, b, hab, h⟩
    exact ⟨⟨a, p, b⟩, hab, by rw [hmid, if_pos rfl]; exact h⟩

end Graphs

namespace Multiset

variable {m : Multiset}

/-- The mappings of a multiset are those of its entries, over its variables. -/
theorem mappings_eq_entries (m : Multiset) :
    m.mappings = m.entries.map fun e => Solution.get ⟨m.vars, e.2⟩ := by
  cases m with
  | identity =>
    simp only [mappings, entries, vars, List.map_cons, List.map_nil, List.cons.injEq, and_true]
    rfl
  | null => rfl
  | bag b => rfl

theorem WF.length_of_mem_entries (h : m.WF) {e : Nat × Row} (he : e ∈ m.entries) :
    e.2.length = m.vars.length := by
  cases m with
  | identity =>
    obtain rfl : e = (0, []) := by simpa [entries] using he
    rfl
  | null => simp [entries] at he
  | bag b => exact h.2 e he

end Multiset

namespace EvalEnv

variable {vars : List Variable} {x : PatternTerm}

/-- `place` adds the variable of a position unless it is there. -/
theorem place_fst (vars : List Variable) (x : PatternTerm) :
    (place vars x).1 = vars ++ x.vars.filter (· ∉ vars) := by
  rcases x with c | v
  · simp [place]
  · simp only [place]
    cases h : vars.idxOf? v with
    | some i =>
      have hv : v ∈ vars := by
        by_contra hv
        simp [List.idxOf?_eq_none_iff.2 hv] at h
      simp [hv]
    | none =>
      have hv : v ∉ vars := List.idxOf?_eq_none_iff.1 h
      simp [hv]

/-- `place` gives a position at the first occurrence of its variable. -/
theorem place_snd (vars : List Variable) (x : PatternTerm) :
    (place vars x).2 = x.posIn (place vars x).1 := by
  rcases x with c | v
  · rfl
  · simp only [place]
    cases h : vars.idxOf? v with
    | some i =>
      exact congrArg some (idxOf_eq_of_idxOf?_eq_some h).symm
    | none =>
      have hv : v ∉ vars := List.idxOf?_eq_none_iff.1 h
      simp [PatternTerm.posIn, List.idxOf_append, hv]

theorem exists_place_fst (vars : List Variable) (x : PatternTerm) :
    ∃ extra, (place vars x).1 = vars ++ extra :=
  ⟨_, place_fst vars x⟩

theorem mem_place_fst {v : Variable} (hv : v ∈ x.vars) : v ∈ (place vars x).1 := by
  rw [place_fst]
  by_cases h : v ∈ vars <;> simp [h, hv]

theorem nodup_place_fst (h : vars.Nodup) : (place vars x).1.Nodup := by
  rw [place_fst]
  rcases x with c | v
  · simpa using h
  · by_cases hv : v ∈ vars
    · simpa [hv] using h
    · have hv' : [v].filter (· ∉ vars) = [v] := by simp [hv]
      rw [PatternTerm.vars_variable, hv', List.nodup_append]
      refine ⟨h, List.nodup_singleton v, fun a ha b hb hab => hv ?_⟩
      rw [← List.mem_singleton.1 hb, ← hab]
      exact ha

/-- **Matching binds a row as binding the positions binds its mapping.** -/
theorem bindMatch_posIn {Y : List Variable} (bs : List (PatternTerm × Term)) {row : Row}
    (hrow : row.length = Y.length) (hvars : ∀ b ∈ bs, ∀ v ∈ b.1.vars, v ∈ Y)
    (hconst : ∀ b ∈ bs, ∀ c, b.1 = .constant c → c = b.2) :
    (bindMatch row (bs.map fun b => (b.1.posIn Y, b.2))).map (fun r => Solution.get ⟨Y, r⟩) =
      Mapping.bindAll (Solution.get ⟨Y, row⟩) bs := by
  induction bs generalizing row with
  | nil => rfl
  | cons b bs ih =>
    obtain ⟨x, t⟩ := b
    have hvars' : ∀ b ∈ bs, ∀ v ∈ b.1.vars, v ∈ Y := fun b hb => hvars b (List.mem_cons_of_mem _ hb)
    have hconst' : ∀ b ∈ bs, ∀ c, b.1 = .constant c → c = b.2 :=
      fun b hb => hconst b (List.mem_cons_of_mem _ hb)
    rw [Mapping.bindAll_cons]
    rcases x with c | v
    · obtain rfl : c = t := hconst _ (List.mem_cons_self ..) c rfl
      simp only [List.map_cons, PatternTerm.posIn_constant, bindMatch, Mapping.bindTerm]
      exact ih hrow hvars' hconst'
    · have hv : v ∈ Y := hvars _ (List.mem_cons_self ..) v (List.mem_singleton_self v)
      simp only [List.map_cons, PatternTerm.posIn_variable, bindMatch, Solution.at?_idxOf hv row,
        Mapping.bindTerm]
      cases hget : Solution.get ⟨Y, row⟩ v with
      | some u =>
        by_cases hu : u = t
        · subst hu
          simp only [beq_self_eq_true, if_true, Option.bind_some]
          exact ih hrow hvars' hconst'
        · simp [hu]
      | none =>
        simp only [Option.bind_some]
        rw [ih (by simpa using hrow) hvars' hconst']
        congr 1
        funext w
        rw [Solution.get_set_idxOf hv hrow, Function.update_apply]
        by_cases hw : w = v
        · simp [hw]
        · simp [hw, Ne.symm hw]

/-- The value matching looks up for a position in a row: a constant itself, a
variable the value at its position. -/
def lookupAt (values : Row) (pos : Option Nat) : PatternTerm → Option Term
  | .constant c => some c
  | .variable _ => pos.bind (Layout.at? values)

/-- The rows that matching the positions `s`, `p`, `o`, found at `ps`, `pp`,
`po`, makes of the row `values`. -/
def matchRows (env : EvalEnv) (s p o : PatternTerm) (ps pp po : Option Nat) (values : Row) :
    List Row :=
  let found := fun (pred : Option String) =>
    (env.graphs.triples (lookupAt values ps s) pred (lookupAt values po o)).filterMap fun tr =>
      bindMatch values [(ps, tr.subject), (pp, .iri tr.predicate), (po, tr.object)]
  match lookupAt values pp p with
  | some (.iri i) => found (some i)
  | some _ => []
  | none => found none

/-- The position of a triple pattern's predicate. -/
def predicatePosition : IriPattern → PatternTerm
  | .iri i => .constant (.iri i)
  | .var v => .variable v

/-- Matching a triple pattern places its variables after those of the input and
matches every row of the input. -/
theorem matchTriple_eq (env : EvalEnv) (M : Multiset) (t : TriplePattern) :
    env.matchTriple M t =
      let s := t.subject.resolve env.options.blankNodeMode
      let p := predicatePosition t.predicate
      let o := t.object.resolve env.options.blankNodeMode
      let Y := (place (place (place M.vars s).1 p).1 o).1
      Multiset.ofRows Y (M.entries.flatMap fun e =>
        env.matchRows s p o (place M.vars s).2 (place (place M.vars s).1 p).2
          (place (place (place M.vars s).1 p).1 o).2 (e.2.fit Y.length)) := rfl

theorem lookupAt_posIn {Y : List Variable} {x : PatternTerm} (hx : ∀ v ∈ x.vars, v ∈ Y)
    (values : Row) : lookupAt values (x.posIn Y) x = x.valueIn (Solution.get ⟨Y, values⟩) := by
  rcases x with c | v
  · rfl
  · exact Solution.at?_idxOf (hx v (List.mem_singleton_self v)) values

/-- A binding that succeeds finds each position unbound or holding its term. -/
theorem valueIn_of_bindAll {ν μ : Mapping} {bs : List (PatternTerm × Term)}
    (h : ν.bindAll bs = some μ) {x : PatternTerm} {t : Term} (hx : (x, t) ∈ bs) :
    x.valueIn ν = none ∨ x.valueIn ν = some t := by
  obtain ⟨hext, hval, -⟩ := Mapping.bindAll_sound h
  cases hv : x.valueIn ν with
  | none => exact .inl rfl
  | some u => exact .inr ((hext.valueIn hv).symm.trans (hval (x, t) hx))

theorem eq_of_mem_valueIn {x : PatternTerm} {ν : Mapping} {t a : Term}
    (h : x.valueIn ν = none ∨ x.valueIn ν = some t) (ha : a ∈ x.valueIn ν) : a = t := by
  rcases h with h | h <;> simp_all

theorem valueIn_cases {x : PatternTerm} {ν : Mapping} {t : Term} (h : ∀ a ∈ x.valueIn ν, a = t) :
    x.valueIn ν = none ∨ x.valueIn ν = some t := by
  cases hx : x.valueIn ν with
  | none => exact .inl rfl
  | some a => exact .inr (by rw [h a (by simp [hx])])

/-- **The rows matching makes of a row are the bindings of its mapping to the
triples of the active graph**, in data without literal subjects. -/
theorem matchRows_spec (env : EvalEnv) (hlit : env.graphs.NoLiteralSubjects) {Y : List Variable}
    {s p o : PatternTerm} (hs : ∀ v ∈ s.vars, v ∈ Y) (hp : ∀ v ∈ p.vars, v ∈ Y)
    (ho : ∀ v ∈ o.vars, v ∈ Y) {values : Row} (hlen : values.length = Y.length) (μ : Mapping) :
    (∃ r ∈ env.matchRows s p o (s.posIn Y) (p.posIn Y) (o.posIn Y) values,
        Solution.get ⟨Y, r⟩ = μ) ↔
      ∃ tr ∈ env.graphs.triples none none none, Mapping.bindAll (Solution.get ⟨Y, values⟩)
        [(s, tr.subject), (p, .iri tr.predicate), (o, tr.object)] = some μ := by
  set ν : Mapping := Solution.get ⟨Y, values⟩
  -- a candidate triple binds the row as its positions bind the mapping
  have hbind : ∀ tr : Triple, s.valueIn ν = none ∨ s.valueIn ν = some tr.subject →
      p.valueIn ν = none ∨ p.valueIn ν = some (.iri tr.predicate) →
      o.valueIn ν = none ∨ o.valueIn ν = some tr.object →
      (bindMatch values [(s.posIn Y, tr.subject), (p.posIn Y, .iri tr.predicate),
        (o.posIn Y, tr.object)]).map (fun r => Solution.get ⟨Y, r⟩) =
      ν.bindAll [(s, tr.subject), (p, .iri tr.predicate), (o, tr.object)] := by
    intro tr hs' hp' ho'
    refine bindMatch_posIn [(s, tr.subject), (p, .iri tr.predicate), (o, tr.object)] hlen ?_ ?_
    · simp only [List.mem_cons, List.mem_nil_iff, or_false]
      rintro b (rfl | rfl | rfl)
      exacts [hs, hp, ho]
    · simp only [List.mem_cons, List.mem_nil_iff, or_false]
      rintro b (rfl | rfl | rfl) c rfl
      · simpa using hs'
      · simpa using hp'
      · simpa using ho'
  -- the candidates for a predicate are the triples whose binding agrees with it
  have hfound : ∀ pred : Option String, (∀ i ∈ pred, p.valueIn ν = some (.iri i)) →
      (pred = none → p.valueIn ν = none) →
      ((∃ r ∈ (env.graphs.triples (s.valueIn ν) pred (o.valueIn ν)).filterMap (fun tr =>
          bindMatch values [(s.posIn Y, tr.subject), (p.posIn Y, .iri tr.predicate),
            (o.posIn Y, tr.object)]), Solution.get ⟨Y, r⟩ = μ) ↔
        ∃ tr ∈ env.graphs.triples none none none,
          ν.bindAll [(s, tr.subject), (p, .iri tr.predicate), (o, tr.object)] = some μ) := by
    intro pred hpred hnone
    constructor
    · rintro ⟨r, hr, rfl⟩
      obtain ⟨tr, htr, hr⟩ := List.mem_filterMap.1 hr
      obtain ⟨-, hall, hs', hp', ho'⟩ := Graphs.mem_triples.1 htr
      have hpv : p.valueIn ν = none ∨ p.valueIn ν = some (.iri tr.predicate) := by
        cases pred with
        | none => exact .inl (hnone rfl)
        | some i => exact .inr (by rw [hpred i rfl, hp' i rfl])
      refine ⟨tr, hall, ?_⟩
      rw [← hbind tr (valueIn_cases hs') hpv (valueIn_cases ho'), hr]
      rfl
    · rintro ⟨tr, hall, h⟩
      have hsv := valueIn_of_bindAll h (show (s, tr.subject) ∈ _ by simp)
      have hpv := valueIn_of_bindAll h (show (p, Term.iri tr.predicate) ∈ _ by simp)
      have hov := valueIn_of_bindAll h (show (o, tr.object) ∈ _ by simp)
      have htr : tr ∈ env.graphs.triples (s.valueIn ν) pred (o.valueIn ν) := by
        refine Graphs.mem_triples.2 ⟨fun a ha => ?_, hall, fun a ha => eq_of_mem_valueIn hsv ha,
          fun i hi => ?_, fun b hb => eq_of_mem_valueIn hov hb⟩
        · rw [eq_of_mem_valueIn hsv ha]
          exact hlit tr hall
        · have := eq_of_mem_valueIn hpv (Option.mem_def.2 (hpred i hi))
          exact Term.iri.inj this
      obtain ⟨r, hr, rfl⟩ := Option.map_eq_some_iff.1 ((hbind tr hsv hpv hov).trans h)
      exact ⟨r, List.mem_filterMap.2 ⟨tr, htr, hr⟩, rfl⟩
  simp only [matchRows, lookupAt_posIn hs, lookupAt_posIn hp, lookupAt_posIn ho]
  split
  next i hi => exact hfound (some i) (fun j hj => by cases hj; exact hi) (fun h => by cases h)
  next u hother hu =>
    -- a predicate bound to a term that is no IRI matches nothing
    simp only [List.not_mem_nil, false_and, exists_false, false_iff, not_exists, not_and]
    intro tr _ h
    rcases valueIn_of_bindAll h (show (p, Term.iri tr.predicate) ∈ _ by simp) with hp' | hp'
    · exact absurd (hu.symm.trans hp') (by simp)
    · exact hother tr.predicate (Option.some.inj (hu.symm.trans hp'))
  next hnone => exact hfound none (fun j hj => by cases hj) (fun _ => hnone)

/-- **Matching a triple pattern against a multiset joins its solutions with
the solutions of the triple pattern**, in data without literal subjects. -/
theorem solutions_matchTriple (env : EvalEnv) (hlit : env.graphs.NoLiteralSubjects)
    {M : Multiset} (hM : M.WF) (t : TriplePattern) :
    (env.matchTriple M t).solutions = Mapping.joinSet M.solutions
      (env.graphs.tripleSolutions (t.subject.resolve env.options.blankNodeMode)
        (predicatePosition t.predicate) (t.object.resolve env.options.blankNodeMode)) := by
  rw [matchTriple_eq]
  set s := t.subject.resolve env.options.blankNodeMode
  set p := predicatePosition t.predicate
  set o := t.object.resolve env.options.blankNodeMode
  -- the variables of the result: those of the input, then those of `s`, `p`, `o`
  obtain ⟨e₁, h₁⟩ := exists_place_fst M.vars s
  obtain ⟨e₂, h₂⟩ := exists_place_fst (place M.vars s).1 p
  obtain ⟨e₃, h₃⟩ := exists_place_fst (place (place M.vars s).1 p).1 o
  set Y := (place (place (place M.vars s).1 p).1 o).1
  have hs : ∀ v ∈ s.vars, v ∈ Y := fun v hv => by
    rw [h₃, h₂]
    exact List.mem_append_left _ (List.mem_append_left _ (mem_place_fst hv))
  have hp : ∀ v ∈ p.vars, v ∈ Y := fun v hv => by
    rw [h₃]
    exact List.mem_append_left _ (mem_place_fst hv)
  have ho : ∀ v ∈ o.vars, v ∈ Y := fun v hv => mem_place_fst hv
  have hps : (place M.vars s).2 = s.posIn Y := by
    rw [place_snd, h₃, h₂, List.append_assoc, PatternTerm.posIn_append _ fun v hv => mem_place_fst hv]
  have hpp : (place (place M.vars s).1 p).2 = p.posIn Y := by
    rw [place_snd, h₃, PatternTerm.posIn_append _ fun v hv => mem_place_fst hv]
  have hpo : (place (place (place M.vars s).1 p).1 o).2 = o.posIn Y := place_snd _ _
  simp only [hps, hpp, hpo]
  ext μ
  rw [Multiset.mem_solutions_ofRows, Mapping.mem_joinSet]
  simp only [List.mem_flatMap, Multiset.mem_solutions, Multiset.mappings_eq_entries, List.mem_map]
  constructor
  · rintro ⟨r, ⟨e, he, hr⟩, rfl⟩
    have hlen := hM.length_of_mem_entries he
    have hget : Solution.get ⟨Y, e.2.fit Y.length⟩ = Solution.get ⟨M.vars, e.2⟩ := by
      rw [Solution.get_fit, h₃, h₂, h₁, List.append_assoc, List.append_assoc,
        Solution.get_append_of_length hlen]
    obtain ⟨tr, htr, hbind⟩ := (matchRows_spec env hlit hs hp ho (Row.length_fit _ _) _).1 ⟨r, hr, rfl⟩
    rw [hget, Mapping.bindAll_eq_join] at hbind
    obtain ⟨β, hβ, hjoin⟩ := Option.bind_eq_some_iff.1 hbind
    exact ⟨_, ⟨e, he, rfl⟩, β, ⟨tr, htr, hβ⟩, hjoin⟩
  · rintro ⟨ν, ⟨e, he, rfl⟩, β, ⟨tr, htr, hβ⟩, hjoin⟩
    have hlen := hM.length_of_mem_entries he
    have hget : Solution.get ⟨Y, e.2.fit Y.length⟩ = Solution.get ⟨M.vars, e.2⟩ := by
      rw [Solution.get_fit, h₃, h₂, h₁, List.append_assoc, List.append_assoc,
        Solution.get_append_of_length hlen]
    have hbind : Mapping.bindAll (Solution.get ⟨Y, e.2.fit Y.length⟩)
        [(s, tr.subject), (p, .iri tr.predicate), (o, tr.object)] = some μ := by
      rw [hget, Mapping.bindAll_eq_join, hβ, Option.bind_some, hjoin]
    obtain ⟨r, hr, hrμ⟩ :=
      (matchRows_spec env hlit hs hp ho (Row.length_fit _ _) _).2 ⟨tr, htr, hbind⟩
    exact ⟨r, ⟨e, he, hr⟩, hrμ⟩

theorem wf_matchTriple (env : EvalEnv) {M : Multiset} (hM : M.WF) (t : TriplePattern) :
    (env.matchTriple M t).WF := by
  rw [matchTriple_eq]
  exact Multiset.wf_ofRows (nodup_place_fst (nodup_place_fst (nodup_place_fst hM.nodup_vars))) _

/-- The solutions of a triple pattern. -/
def tripleSolutionsOf (env : EvalEnv) (t : TriplePattern) : Set Mapping :=
  env.graphs.tripleSolutions (t.subject.resolve env.options.blankNodeMode)
    (predicatePosition t.predicate) (t.object.resolve env.options.blankNodeMode)

/-- The solutions of a basic graph pattern: the join of those of its triple patterns. -/
def bgpSolutions (env : EvalEnv) (ts : List TriplePattern) : Set Mapping :=
  ts.foldl (fun A t => Mapping.joinSet A (env.tripleSolutionsOf t)) {Mapping.empty}

@[simp] theorem bgpSolutions_nil (env : EvalEnv) : env.bgpSolutions [] = {Mapping.empty} := rfl

theorem bgpSolutions_cons (env : EvalEnv) (t : TriplePattern) (ts : List TriplePattern) :
    env.bgpSolutions (t :: ts) = Mapping.joinSet (env.tripleSolutionsOf t) (env.bgpSolutions ts) := by
  rw [bgpSolutions, List.foldl_cons, Mapping.singleton_empty_joinSet, Mapping.foldl_joinSet]
  rfl

theorem foldl_matchTriple (env : EvalEnv) (hlit : env.graphs.NoLiteralSubjects)
    (ts : List TriplePattern) {M : Multiset} (hM : M.WF) :
    (ts.foldl env.matchTriple M).WF ∧
      (ts.foldl env.matchTriple M).solutions = Mapping.joinSet M.solutions (env.bgpSolutions ts) := by
  induction ts generalizing M with
  | nil => exact ⟨hM, by simp⟩
  | cons t ts ih =>
    obtain ⟨hwf, hsol⟩ := ih (env.wf_matchTriple hM t)
    refine ⟨hwf, ?_⟩
    rw [List.foldl_cons, hsol, solutions_matchTriple env hlit hM, bgpSolutions_cons,
      ← Mapping.joinSet_assoc]
    rfl

/-- **A basic graph pattern joins the seed with the solutions of its triple
patterns**, in data without literal subjects. -/
theorem solutions_evalBgp (env : EvalEnv) (hlit : env.graphs.NoLiteralSubjects)
    (hseed : ∀ m, env.seed = some m → m.WF) (ts : List TriplePattern) :
    (env.evalBgp ts).WF ∧
      (env.evalBgp ts).solutions = Mapping.joinSet (env.seed.getD .identity).solutions
        (env.bgpSolutions ts) := by
  have hwf : (env.seed.getD .identity).WF := by
    cases h : env.seed with
    | none => trivial
    | some m => exact hseed m h
  exact foldl_matchTriple env hlit ts hwf

end EvalEnv

end SparqlBag
