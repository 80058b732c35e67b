import SparqlBag.Proofs.Engine.PatternOrder
import SparqlBag.Proofs.Engine.Datasets
import SparqlBag.Proofs.Engine.Substitution
import SparqlBag.Proofs.Solution.Congruence
import SparqlBag.Proofs.Expr.ScopeTwins
import SparqlBag.Proofs.Sort.Perm

/-!
# The optimiser keeps the solutions

The optimised form of a pattern has, up to the order of variables and rows, the
solutions of the pattern, in data without literal subjects and from a seed of at
most one solution (`EvalEnv.optimise_keeps_solutions`).  The two evaluations run
side by side and give twins (`Multiset.Twins`) at every node, or both fail: one
level of the evaluator (`EvalEnv.KeepsSolutions.evalWith`), then every number of
levels of `EXISTS` (`EvalEnv.keepsSolutions_evalAt`).  `ORDER BY` is the
exception: its sort notices an inconsistent key order depending on the order the
rows come in, so one side may stop abnormally where the other does not.
-/

namespace SparqlBag

/-- The failures that one of two evaluations may have alone: an abnormal stop
of a sort, when `ORDER BY` is allowed. -/
def Excused (sorts : Bool) (e : QueryError) : Prop := sorts = true ∧ e = .abort

/-- Two seeds that read the same: both absent, or one solution each, twins. -/
inductive SeedTwins : Option Multiset → Option Multiset → Prop
  | none : SeedTwins none none
  | some {m n : Multiset} : m.Twins n → m.size = 1 → SeedTwins (some m) (some n)

namespace SeedTwins

variable {s s' : Option Multiset}

/-- A seed of at most one solution is its own twin. -/
theorem refl (h : ∀ m, s = Option.some m → m.WF ∧ m.size = 1) : SeedTwins s s := by
  cases s with
  | none => exact .none
  | some m => exact .some (Multiset.Twins.refl (h m rfl).1) (h m rfl).2

/-- What the leaves start from: the seed, or the identity. -/
theorem getD (h : SeedTwins s s') :
    (s.getD .identity).Twins (s'.getD .identity) ∧ (s.getD .identity).size = 1 := by
  cases h with
  | none => exact ⟨Multiset.Twins.refl trivial, rfl⟩
  | some htw hsize => exact ⟨htw, hsize⟩

theorem withSeed (env : EvalEnv) (h : SeedTwins s s') {m m' : Multiset} (hm : m.Twins m') :
    ({ env with seed := s }.withSeed m).Twins ({ env with seed := s' }.withSeed m') := by
  cases h with
  | none => exact hm
  | some hs _ => exact hs.join hm

/-- A sub-query sees the seed projected. -/
theorem project (h : SeedTwins s s') {vars : List Variable} (hvars : vars.Nodup) :
    SeedTwins (s.map (·.project vars)) (s'.map (·.project vars)) := by
  cases h with
  | none => exact .none
  | some hs hsize =>
    refine .some (hs.project hvars) ?_
    rw [← Multiset.length_mappings, Multiset.mappings_project, List.length_map, Multiset.length_mappings,
      hsize]

end SeedTwins

/-- The seeds of `EXISTS` in twin solutions, for two patterns that mention the
same variables, are twins. -/
theorem seedTwins_existsSeed {sol sol' : Solution} (h : sol.Twins sol') {p p' : GraphPattern}
    (hp : ∀ v, v ∈ p.mentioned ↔ v ∈ p'.mentioned) :
    SeedTwins (EvalEnv.existsSeed sol p) (EvalEnv.existsSeed sol' p') := by
  -- Both seeds keep the same variables: visible, and mentioned by the pattern.
  set keep : Variable → Bool := fun v => !v.isHidden && p.mentioned.contains v
  have hkeep : (fun v => !v.isHidden && p'.mentioned.contains v) = keep := by
    funext v
    simp only [keep]
    congr 1
    rw [Bool.eq_iff_iff, List.contains_iff_mem, List.contains_iff_mem, hp v]
  have hseed : ∀ s : Solution, EvalEnv.existsSeed s p = (
      let pairs := (s.vars.zip (s.values.fit s.vars.length)).filter fun x => keep x.1
      if pairs.isEmpty then none else some (Multiset.ofRows (pairs.map (·.1)) [pairs.map (·.2)])) :=
    fun _ => rfl
  have hseed' : ∀ s : Solution, EvalEnv.existsSeed s p' = (
      let pairs := (s.vars.zip (s.values.fit s.vars.length)).filter fun x => keep x.1
      if pairs.isEmpty then none else some (Multiset.ofRows (pairs.map (·.1)) [pairs.map (·.2)])) :=
    fun _ => by rw [← hkeep]; rfl
  -- The variables of a seed are those of the solution that it keeps.
  have hvars : ∀ s : Solution,
      ((s.vars.zip (s.values.fit s.vars.length)).filter fun x => keep x.1).map (·.1) = s.vars.filter keep :=
    fun s => by
      have hfst := List.filter_map (f := Prod.fst) (p := keep) (l := s.vars.zip (s.values.fit s.vars.length))
      rw [List.map_fst_zip (by simp)] at hfst
      exact hfst.symm
  have hget : ∀ s : Solution, Solution.get
      ⟨((s.vars.zip (s.values.fit s.vars.length)).filter fun x => keep x.1).map (·.1),
        ((s.vars.zip (s.values.fit s.vars.length)).filter fun x => keep x.1).map (·.2)⟩ =
      fun v => if keep v then s.get v else none := fun s => by
    funext v
    rw [Solution.get_filter_zip keep, Solution.get_fit]
  rw [hseed, hseed']
  dsimp only
  have hempty : (((sol.vars.zip (sol.values.fit sol.vars.length)).filter fun x => keep x.1).isEmpty) =
      ((sol'.vars.zip (sol'.values.fit sol'.vars.length)).filter fun x => keep x.1).isEmpty := by
    rw [Bool.eq_iff_iff, List.isEmpty_iff, List.isEmpty_iff,
      ← List.map_eq_nil_iff (f := fun x : Variable × Option Term => x.1),
      ← List.map_eq_nil_iff (f := fun x : Variable × Option Term => x.1), hvars, hvars,
      List.filter_eq_nil_iff, List.filter_eq_nil_iff]
    exact forall_congr' fun v => imp_congr_left (h.mem_vars v)
  rw [hempty]
  split
  · exact .none
  · refine .some ⟨Multiset.wf_ofRows (hvars sol ▸ h.nodup_left.filter _) _,
      Multiset.wf_ofRows (hvars sol' ▸ h.nodup_right.filter _) _, ⟨fun v => ?_, ?_⟩⟩ ?_
    · simp only [Bag.addAll, Bag.empty]
      rw [hvars, hvars, List.mem_filter, List.mem_filter, h.mem_vars]
    · rw [← Multiset.ofRows, ← Multiset.ofRows, Multiset.mappings_ofRows, Multiset.mappings_ofRows,
        List.map_singleton, List.map_singleton, hget, hget, h.get_eq]
    · rw [← Multiset.length_mappings, Multiset.mappings_ofRows, List.length_map, List.length_singleton]

/-! ## Related computations -/

section Related

variable {α β : Type} {E : QueryError → Prop} {R : α → β → Prop}

/-- A failure that `E` excuses, on the left, is related to anything. -/
theorem related_throw_left {e : QueryError} (he : E e) (y : EvalM β) :
    Related E R (throw e : EvalM α) y :=
  fun _ _ => .excusedLeft _ he

/-- A failure that `E` excuses, on the right, is related to anything. -/
theorem related_throw_right {e : QueryError} (he : E e) (x : EvalM α) :
    Related E R x (throw e : EvalM β) :=
  fun _ _ => .excusedRight _ he

/-- A computation related to a value: each of its results is related to that
value. -/
theorem Related.pure_left {a : α} {y : EvalM β} (h : Related E R (pure a) y) :
    Related E (fun a' b => a' = a ∧ R a' b) (pure a) y := by
  intro s s'
  have hA : Agree E R (.ok a) (y.run' s') := h s s'
  generalize y.run' s' = z at hA
  cases hA with
  | ok hab => exact .ok ⟨rfl, hab⟩
  | excusedRight _ he => exact .excusedRight _ he

/-- A value related, through two values, to two computations run one after the
other. -/
theorem Related.pure_seq {γ δ : Type} {S : γ → δ → Prop} {a b : α} {c : γ} {x y : EvalM β}
    {f : β → β → EvalM δ} (ha : Related E R (pure a) x) (hb : Related E R (pure b) y)
    (h : ∀ A B, R a A → R b B → Related E S (pure c) (f A B)) :
    Related E S (pure c) (x >>= fun A => y >>= fun B => f A B) := by
  have hseq : Related E S (pure a >>= fun _ => pure b >>= fun _ => pure c)
      (x >>= fun A => y >>= fun B => f A B) :=
    ha.pure_left.bind fun _ A hA => hb.pure_left.bind fun _ B hB => h A B (hA.1 ▸ hA.2) (hB.1 ▸ hB.2)
  simpa only [pure_bind] using hseq

/-- Each element on the left of a correspondence has a partner. -/
theorem PermRel.exists_left {S : α → β → Prop} {xs : List α} {ys : List β} (h : PermRel S xs ys)
    {a : α} (ha : a ∈ xs) : ∃ b, S a b := by
  obtain ⟨zs, hxz, -⟩ := h
  obtain ⟨b, -, hab⟩ := forall₂_exists_right hxz ha
  exact ⟨b, hab⟩

/-- Each element on the right of a correspondence has a partner. -/
theorem PermRel.exists_right {S : α → β → Prop} {xs : List α} {ys : List β} (h : PermRel S xs ys)
    {b : β} (hb : b ∈ ys) : ∃ a, S a b := by
  obtain ⟨zs, hxz, hzy⟩ := h
  obtain ⟨a, -, hab⟩ := forall₂_exists_left hxz (hzy.symm.subset hb)
  exact ⟨a, hab⟩

/-- Results that carry a part of their element, element by element, carry the
parts of all the elements in order. -/
theorem map_fst_eq_of_zip {γ δ : Type} {g : α → γ} :
    ∀ {xs : List α} {cs : List (γ × δ)}, cs.length = xs.length →
      (∀ p ∈ xs.zip cs, p.2.1 = g p.1) → cs.map (·.1) = xs.map g
  | [], [], _, _ => rfl
  | x :: xs, c :: cs, hlen, h => by
    rw [List.map_cons, List.map_cons, h (x, c) List.mem_cons_self,
      map_fst_eq_of_zip (Nat.succ.inj hlen) fun p hp => h p (List.mem_cons_of_mem _ hp)]

/-- Folds whose steps are related from related accumulators. -/
theorem Related.foldlM {γ : Type} {f : α → γ → EvalM α} {g : β → γ → EvalM β}
    (h : ∀ a b c, R a b → Related E R (f a c) (g b c)) :
    ∀ (xs : List γ) {a : α} {b : β}, R a b → Related E R (xs.foldlM f a) (xs.foldlM g b)
  | [], _, _, hab => related_pure hab
  | c :: xs, a, b, hab => by
    rw [List.foldlM_cons, List.foldlM_cons]
    exact (h a b c hab).bind fun _ _ h' => Related.foldlM h xs h'

end Related

namespace Multiset

/-- A bag rebuilt from its own rows, in any order, is its twin. -/
theorem Twins.ofRows_perm {b : Bag} (h : WF (.bag b)) {rows : List Row}
    (hrows : rows.Perm (b.rows.map (·.2))) : Twins (ofRows b.vars rows) (.bag b) := by
  refine ⟨wf_ofRows h.1 rows, h, ⟨fun _ => Iff.rfl, ?_⟩⟩
  show (ofRows b.vars rows).mappings.Perm (Multiset.bag b).mappings
  rw [mappings_ofRows, mappings_bag]
  simpa only [List.map_map, Function.comp_def] using hrows.map fun row => Solution.get ⟨b.vars, row⟩

end Multiset

namespace EvalEnv

variable {E : QueryError → Prop} {α β : Type} {R : α → β → Prop}

/-- The deadline does not read the seed. -/
theorem checkDeadline_withSeed (env : EvalEnv) (s : Option Multiset) :
    { env with seed := s }.checkDeadline = env.checkDeadline :=
  rfl

/-- The deadline is checked alike whatever the seed. -/
theorem related_checkDeadline (env : EvalEnv) (s s' : Option Multiset) :
    Related E (· = ·) { env with seed := s }.checkDeadline { env with seed := s' }.checkDeadline := by
  rw [checkDeadline_withSeed env s, checkDeadline_withSeed env s']
  unfold checkDeadline
  split
  · exact related_self_of_run' (.error .timeout) fun _ => rfl
  · exact related_self_of_run' (.ok ()) fun _ => rfl

/-- Past the deadline, two evaluations that check it first both fail. -/
theorem related_of_timeout {env : EvalEnv} (htime : env.options.timeout = some 0)
    (s s' : Option Multiset) (f : Unit → EvalM α) (g : Unit → EvalM β) :
    Related E R ({ env with seed := s }.checkDeadline >>= f) ({ env with seed := s' }.checkDeadline >>= g) := by
  have hthrow : env.checkDeadline = throw .timeout := by simp [checkDeadline, htime]
  rw [checkDeadline_withSeed env s, checkDeadline_withSeed env s', hthrow]
  exact fun _ _ => .error _ _

/-- Before the deadline, checking it does nothing. -/
theorem checkDeadline_of_timeout_ne {env : EvalEnv} (htime : env.options.timeout ≠ some 0)
    (s : Option Multiset) : { env with seed := s }.checkDeadline = pure () := by
  simp [checkDeadline, htime]

/-! ## Evaluators that keep the solutions -/

section Keeps

variable (r : PatternRanking) (sorts : Bool)

/-- An evaluator that gives twins for the optimised form of an order-free
pattern and the pattern itself, from twin seeds, in data with no literal
subject; with `ORDER BY`, one side may stop abnormally instead. -/
def KeepsSolutions (inner : EvalEnv → GraphPattern → EvalM Multiset) : Prop :=
  ∀ env : EvalEnv, (∀ q ∈ env.dataset.quads, q.subject.isLiteral = false) →
    ∀ p : GraphPattern, p.orderFree sorts → ∀ {s s' : Option Multiset}, SeedTwins s s' →
      Related (Excused sorts) Multiset.Twins (inner { env with seed := s } (p.optimise r))
        (inner { env with seed := s' } p)

variable {r sorts} {inner : EvalEnv → GraphPattern → EvalM Multiset} {env : EvalEnv}

/-- Twin solutions read the same in scopes whose `EXISTS` such an evaluator
decides. -/
theorem scope_twins (hinner : KeepsSolutions r sorts inner)
    (hd : ∀ q ∈ env.dataset.quads, q.subject.isLiteral = false) (s s' : Option Multiset)
    {sol sol' : Solution} (hsol : sol.Twins sol') :
    Scope.Twins (Excused sorts) r sorts ({ env with seed := s }.scope inner sol)
      ({ env with seed := s' }.scope inner sol') where
  get_eq := hsol.get_eq
  exists_related q hq :=
    (hinner env hd q hq (seedTwins_existsSeed hsol (GraphPattern.mem_mentioned_optimise r · q))).bind
      fun _ _ hm => related_pure (by rw [Multiset.isEmpty, Multiset.isEmpty, hm.size_eq])

/-- A condition and its optimised form hold alike of twin solutions. -/
theorem related_isTrue (hinner : KeepsSolutions r sorts inner)
    (hd : ∀ q ∈ env.dataset.quads, q.subject.isLiteral = false) (s s' : Option Multiset)
    {sol sol' : Solution} (hsol : sol.Twins sol') {e : Expression} (he : e.orderFree sorts) :
    Related (Excused sorts) (· = ·) ({ env with seed := s }.isTrue inner sol (e.optimise r))
      ({ env with seed := s' }.isTrue inner sol' e) :=
  (Expression.related_eval env.call (scope_twins hinner hd s s' hsol) e he).bind_eq
    fun _ => related_pure rfl

end Keeps

/-- Basic graph patterns of the same triple patterns, in any order, from twin
seeds. -/
theorem related_evalWith_bgp {E : QueryError → Prop} {inner : EvalEnv → GraphPattern → EvalM Multiset}
    {env : EvalEnv} (hd : ∀ q ∈ env.dataset.quads, q.subject.isLiteral = false)
    {s s' : Option Multiset} (hs : SeedTwins s s') {ts ts' : List TriplePattern} (hts : ts.Perm ts') :
    Related E Multiset.Twins (evalWith inner { env with seed := s } (.bgp ts))
      (evalWith inner { env with seed := s' } (.bgp ts')) := by
  have hlit := Graphs.noLiteralSubjects_of_quads hd env.active
  obtain ⟨hseed, -⟩ := hs.getD
  rw [evalWith, evalWith]
  exact (related_checkDeadline env s s').bind_eq fun _ => related_pure
    ⟨wf_evalBgp { env with seed := s } hlit hseed.wf_left _,
      wf_evalBgp { env with seed := s' } hlit hseed.wf_right _,
      equiv_foldl_matchTriple { env with seed := s } hlit hseed.wf_left hseed.wf_right hseed.equiv hts⟩

/-- **Merging two basic graph patterns**, in any order, against the join of two
evaluations that are twins of theirs, one after the other. -/
theorem related_merge {E : QueryError → Prop} {inner : EvalEnv → GraphPattern → EvalM Multiset}
    {env : EvalEnv} (hd : ∀ q ∈ env.dataset.quads, q.subject.isLiteral = false)
    {s s' : Option Multiset} (hs : SeedTwins s s') {a b ts : List TriplePattern} (hts : ts.Perm (a ++ b))
    {l q : GraphPattern}
    (ha : Related E Multiset.Twins (evalWith inner { env with seed := s } (.bgp a))
      (evalWith inner { env with seed := s' } l))
    (hb : Related E Multiset.Twins (evalWith inner { env with seed := s } (.bgp b))
      (evalWith inner { env with seed := s' } q)) :
    Related E Multiset.Twins (evalWith inner { env with seed := s } (.bgp ts))
      (evalWith inner { env with seed := s' } (.join l q)) := by
  rw [evalWith, evalWith]
  by_cases htime : env.options.timeout = some 0
  · exact related_of_timeout htime s s' _ _
  have hlit := Graphs.noLiteralSubjects_of_quads hd env.active
  obtain ⟨hseed, hsize⟩ := hs.getD
  -- On the left, one pass over all the triple patterns: the join of the passes
  -- over each part, since the seed is one solution.
  have hmerged : Multiset.Twins ({ env with seed := s }.evalBgp ts)
      (({ env with seed := s }.evalBgp a).join ({ env with seed := s }.evalBgp b)) := by
    have hwf := wf_evalBgp { env with seed := s } hlit hseed.wf_left
    refine ⟨hwf _, (hwf a).join (hwf b), ?_⟩
    exact (equiv_evalBgp_perm { env with seed := s } hlit hseed.wf_left hts).trans
      (equiv_join_evalBgp { env with seed := s } hlit hseed.wf_left hsize a b).symm
  rw [evalWith, checkDeadline_of_timeout_ne htime, pure_bind] at ha hb
  rw [checkDeadline_of_timeout_ne htime, checkDeadline_of_timeout_ne htime, pure_bind, pure_bind]
  exact ha.pure_seq hb fun A B hA hB => related_pure (hmerged.trans (hA.join hB))

/-! ## One constructor at a time -/

section Constructors

variable {r : PatternRanking} {sorts : Bool} {inner : EvalEnv → GraphPattern → EvalM Multiset}
  {env : EvalEnv} {s s' : Option Multiset}

/-- Two patterns evaluated one after the other, their solutions combined by an
operator that takes twins to twins. -/
theorem related_combine {E : QueryError → Prop} {f : Multiset → Multiset → Multiset}
    (hf : ∀ {A A' B B' : Multiset}, A.Twins A' → B.Twins B' → (f A B).Twins (f A' B'))
    {x x' y y' : EvalM Multiset} (hx : Related E Multiset.Twins x x') (hy : Related E Multiset.Twins y y') :
    Related E Multiset.Twins
      ({ env with seed := s }.checkDeadline >>= fun _ => x >>= fun A => y >>= fun B => pure (f A B))
      ({ env with seed := s' }.checkDeadline >>= fun _ => x' >>= fun A => y' >>= fun B => pure (f A B)) :=
  (related_checkDeadline env s s').bind_eq fun _ =>
    hx.bind fun _ _ hA => hy.bind fun _ _ hB => related_pure (hf hA hB)

/-- The key expression of an optimised key is the optimised expression. -/
theorem keyExpression_optimise (k : OrderKey) : keyExpression (k.optimise r) = (keyExpression k).optimise r := by
  cases k <;> rfl

/-- The keys of an order-free `ORDER BY` are order-free expressions. -/
theorem orderFree_keyExpression : ∀ {keys : List OrderKey}, OrderKey.orderFreeList sorts keys →
    ∀ k ∈ keys, (keyExpression k).orderFree sorts
  | [], _, _, hk => by cases hk
  | .asc e :: rest, h, k, hk | .desc e :: rest, h, k, hk => by
    simp only [OrderKey.orderFreeList, Bool.and_eq_true] at h
    rcases List.mem_cons.1 hk with rfl | hk
    · exact h.1
    · exact orderFree_keyExpression h.2 k hk

/-- **`ORDER BY` takes twins to twins**, or its sort stops abnormally on one
side: twin solutions have the same keys, and the sorted rows are the rows in
another order. -/
theorem related_orderBy (hinner : KeepsSolutions r sorts inner)
    (hd : ∀ q ∈ env.dataset.quads, q.subject.isLiteral = false) (hsorts : sorts = true)
    {p : GraphPattern} {keys : List OrderKey} (hkeys : OrderKey.orderFreeList sorts keys)
    (ih : Related (Excused sorts) Multiset.Twins (evalWith inner { env with seed := s } (p.optimise r))
      (evalWith inner { env with seed := s' } p)) :
    Related (Excused sorts) Multiset.Twins (evalWith inner { env with seed := s } ((p.orderBy keys).optimise r))
      (evalWith inner { env with seed := s' } (p.orderBy keys)) := by
  rw [GraphPattern.optimise_orderBy, evalWith, evalWith]
  refine (related_checkDeadline env s s').bind_eq fun _ => ih.bind fun m m' hm => ?_
  -- The keys of twin solutions are computed alike; each row keeps its values.
  refine (Related.mapM_perm
    (R := fun e e' (kv kv' : Row × List (Option Term)) => kv.1 = e.2 ∧ kv'.1 = e'.2)
    hm.permRel_entries fun e e' he => ?_).bind fun keyed keyed' hk => ?_
  · have hforall : List.Forall₂ (fun k' k => k' = k.optimise r ∧ (keyExpression k).orderFree sorts)
        (keys.map (OrderKey.optimise r)) keys :=
      List.forall₂_map_left_iff.2 (List.forall₂_same.2 fun k hk => ⟨rfl, orderFree_keyExpression hkeys k hk⟩)
    refine (Related.mapM (S := (· = ·)) hforall fun k' k hk => ?_).bind fun _ _ _ => related_pure ⟨rfl, rfl⟩
    obtain ⟨rfl, hfree⟩ := hk
    rw [keyExpression_optimise]
    exact (Expression.related_eval env.call (scope_twins hinner hd s s' he) _ hfree).bind_eq
      fun _ => related_pure rfl
  obtain ⟨hlen, hlen', hrel⟩ := hk
  have hfst : keyed.map (·.1) = m.entries.map (·.2) :=
    map_fst_eq_of_zip hlen fun _ hp => (hrel.exists_left hp).choose_spec.2.1
  have hfst' : keyed'.map (·.1) = m'.entries.map (·.2) :=
    map_fst_eq_of_zip hlen' fun _ hp => (hrel.exists_right hp).choose_spec.2.2
  split
  · rename_i sorted hsorted
    have hperm := ((StableSort.sort_perm _ _ hsorted).map (·.1)).trans (List.Perm.of_eq hfst)
    -- Only a bag is rebuilt; the identity and the empty multiset pass through.
    cases m <;> cases m' <;> try exact absurd hm.equiv id
    all_goals
      dsimp only
      split
      · rename_i sorted' hsorted'
        have hperm' := ((StableSort.sort_perm _ _ hsorted').map (·.1)).trans (List.Perm.of_eq hfst')
        first
          | exact related_pure hm
          | exact related_pure ((Multiset.Twins.ofRows_perm hm.wf_left hperm).trans
              (hm.trans (Multiset.Twins.ofRows_perm hm.wf_right hperm').symm))
      · exact related_throw_right ⟨hsorts, rfl⟩ _
  · exact related_throw_left ⟨hsorts, rfl⟩ _

/-- **`GRAPH ?v` takes twins to twins**: the same graphs, one after another,
each with twins. -/
theorem related_graph_var {v : Variable} {p : GraphPattern}
    (ih : ∀ g, Related (Excused sorts) Multiset.Twins
      (evalWith inner { env with active := .named g, seed := s } (p.optimise r))
      (evalWith inner { env with active := .named g, seed := s' } p)) :
    Related (Excused sorts) Multiset.Twins (evalWith inner { env with seed := s } ((GraphPattern.graph (.var v) p).optimise r))
      (evalWith inner { env with seed := s' } (.graph (.var v) p)) := by
  rw [GraphPattern.optimise_graph, evalWith_graph_var, evalWith_graph_var]
  refine (related_checkDeadline env s s').bind_eq fun _ => ?_
  have hempty : (Multiset.bag (Bag.empty [v])).WF := ⟨List.nodup_singleton v, fun _ h => by cases h⟩
  exact Related.foldlM (fun _ _ g hacc => (ih g).bind fun _ _ hm => related_pure
      (hacc.union (hm.join (Multiset.Twins.refl (Multiset.wf_ofRows (List.nodup_singleton v) _))))) _
    (Multiset.Twins.refl hempty)

end Constructors

/-! ## The step and the run -/

section Run

variable {r : PatternRanking} {sorts : Bool} {inner : EvalEnv → GraphPattern → EvalM Multiset}

/-- The evaluator, one level above an evaluator that keeps the solutions, by
induction on the pattern. -/
theorem related_evalWith_optimise (hinner : KeepsSolutions r sorts inner) :
    ∀ (p : GraphPattern) (env : EvalEnv), (∀ q ∈ env.dataset.quads, q.subject.isLiteral = false) →
      p.orderFree sorts → ∀ {s s' : Option Multiset}, SeedTwins s s' →
      Related (Excused sorts) Multiset.Twins (evalWith inner { env with seed := s } (p.optimise r))
        (evalWith inner { env with seed := s' } p)
  | .bgp ps, env, hd, _, s, s', hs => by
    rw [GraphPattern.optimise_bgp]
    exact related_evalWith_bgp hd hs (r.reorder_perm ps)
  | .path x q y, env, _, _, s, s', hs => by
    rw [GraphPattern.optimise_path, evalWith, evalWith]
    exact (related_checkDeadline env s s').bind_eq fun _ =>
      related_pure (hs.withSeed env (Multiset.Twins.refl (Graphs.wf_evalPath _ _ _ _)))
  | .values vars rows, env, _, he, s, s', hs => by
    simp only [GraphPattern.orderFree, decide_eq_true_eq] at he
    rw [GraphPattern.optimise_values, evalWith, evalWith]
    exact (related_checkDeadline env s s').bind_eq fun _ =>
      related_pure (hs.withSeed env (Multiset.Twins.refl (Multiset.wf_ofRows he _)))
  | .join l q, env, hd, he, s, s', hs => by
    simp only [GraphPattern.orderFree, Bool.and_eq_true] at he
    have ihl := related_evalWith_optimise hinner l env hd he.1 hs
    have ihq := related_evalWith_optimise hinner q env hd he.2 hs
    rcases GraphPattern.optimise_join_cases r l q with ⟨a, b, hl, hq, hjoin⟩ | ⟨hjoin, -⟩
    · -- Two basic graph patterns, merged into one.
      rw [hl] at ihl
      rw [hq] at ihq
      rw [hjoin]
      exact related_merge hd hs (r.reorder_perm _) ihl ihq
    · rw [hjoin, evalWith, evalWith]
      exact related_combine Multiset.Twins.join ihl ihq
  | .leftJoin l q c, env, hd, he, s, s', hs => by
    simp only [GraphPattern.orderFree, Bool.and_eq_true] at he
    rw [GraphPattern.optimise_leftJoin, evalWith, evalWith]
    refine (related_checkDeadline env s s').bind_eq fun _ =>
      (related_evalWith_optimise hinner l env hd he.1.1 hs).bind fun _ _ hA =>
      (related_evalWith_optimise hinner q env hd he.1.2 hs).bind fun _ _ hB =>
        hA.related_leftJoin hB fun sol sol' hsol => ?_
    cases c with
    | none => exact related_pure rfl
    | some c => exact related_isTrue hinner hd s s' hsol (e := c) he.2
  | .filter c p, env, hd, he, s, s', hs => by
    simp only [GraphPattern.orderFree, Bool.and_eq_true] at he
    rw [GraphPattern.optimise_filter, evalWith, evalWith]
    exact (related_checkDeadline env s s').bind_eq fun _ =>
      (related_evalWith_optimise hinner p env hd he.2 hs).bind fun _ _ hm =>
        hm.related_filterM fun _ _ hsol => related_isTrue hinner hd s s' hsol he.1
  | .union l q, env, hd, he, s, s', hs => by
    simp only [GraphPattern.orderFree, Bool.and_eq_true] at he
    rw [GraphPattern.optimise_union, evalWith, evalWith]
    exact related_combine Multiset.Twins.union (related_evalWith_optimise hinner l env hd he.1 hs)
      (related_evalWith_optimise hinner q env hd he.2 hs)
  | .minus l q, env, hd, he, s, s', hs => by
    simp only [GraphPattern.orderFree, Bool.and_eq_true] at he
    rw [GraphPattern.optimise_minus, evalWith, evalWith]
    exact related_combine Multiset.Twins.minus (related_evalWith_optimise hinner l env hd he.1 hs)
      (related_evalWith_optimise hinner q env hd he.2 hs)
  | .graph (.iri g) p, env, hd, he, s, s', hs => by
    simp only [GraphPattern.orderFree] at he
    rw [GraphPattern.optimise_graph, evalWith_graph_iri, evalWith_graph_iri]
    refine (related_checkDeadline env s s').bind_eq fun _ => ?_
    -- Both sides read the same named graphs.
    split
    · exact related_pure (Multiset.Twins.refl trivial)
    · exact related_evalWith_optimise hinner p { env with active := .named (.iri g) } hd he hs
  | .graph (.var v) p, env, hd, he, s, s', hs => by
    simp only [GraphPattern.orderFree] at he
    exact related_graph_var fun g => related_evalWith_optimise hinner p { env with active := .named g } hd he hs
  | .extend p v c, env, hd, he, s, s', hs => by
    simp only [GraphPattern.orderFree, Bool.and_eq_true] at he
    rw [GraphPattern.optimise_extend, evalWith, evalWith]
    exact (related_checkDeadline env s s').bind_eq fun _ =>
      (related_evalWith_optimise hinner p env hd he.1 hs).bind fun _ _ hm =>
        hm.related_extendM v fun _ _ hsol =>
          (Expression.related_eval env.call (scope_twins hinner hd s s' hsol) c he.2).bind_eq
            fun _ => related_pure rfl
  | .orderBy p keys, env, hd, he, s, s', hs => by
    simp only [GraphPattern.orderFree, Bool.and_eq_true] at he
    exact related_orderBy hinner hd he.1.1 he.2 (related_evalWith_optimise hinner p env hd he.1.2 hs)
  | .project p vars, env, hd, he, s, s', hs => by
    simp only [GraphPattern.orderFree, Bool.and_eq_true, decide_eq_true_eq] at he
    rw [GraphPattern.optimise_project, evalWith, evalWith]
    -- A sub-query reports an abnormal stop as it is: still excused.
    have hw : ∀ e, Excused sorts e → Excused sorts (if e == .abort then .abort else .subQuery e) := by
      rintro _ ⟨hsorts, rfl⟩
      exact ⟨hsorts, rfl⟩
    exact (related_checkDeadline env s s').bind_eq fun _ =>
      ((related_evalWith_optimise hinner p env hd he.2 (hs.project he.1)).tryCatch_rethrow hw).bind
        fun _ _ hm => related_pure (hm.project he.1)
  | .distinct p, env, hd, he, s, s', hs | .reduced p, env, hd, he, s, s', hs => by
    simp only [GraphPattern.orderFree] at he
    simp only [GraphPattern.optimise_distinct, GraphPattern.optimise_reduced]
    rw [evalWith, evalWith]
    exact (related_checkDeadline env s s').bind_eq fun _ =>
      (related_evalWith_optimise hinner p env hd he hs).bind fun _ _ hm => related_pure hm.distinct
  | .slice .., _, _, he, _, _, _ | .group .., _, _, he, _, _, _ | .service .., _, _, he, _, _, _ => by
    simp [GraphPattern.orderFree] at he

/-- **The step**: one level of the evaluator keeps the solutions if the level
below does. -/
theorem KeepsSolutions.evalWith (hinner : KeepsSolutions r sorts inner) :
    KeepsSolutions r sorts (evalWith inner) :=
  fun env hd p hp _ _ hs => related_evalWith_optimise hinner p env hd hp hs

/-- **The run**: every number of levels keeps the solutions; with none left,
both sides fail alike. -/
theorem keepsSolutions_evalAt : ∀ fuel : Nat, KeepsSolutions r sorts (evalAt fuel)
  | 0 => fun _ _ _ _ _ _ _ => related_throw _ _
  | fuel + 1 => (keepsSolutions_evalAt fuel).evalWith

end Run

/-! ## The optimiser -/

/-- **The optimiser keeps the solutions.**  In data with no literal subject and
from a seed of at most one solution: the triple patterns of a basic graph
pattern give the same solutions in any order; two basic graph patterns merged
give twins of their join, or both fail; and the optimised form of an order-free
pattern gives twins of the solutions of the pattern, or both fail, or, with
`ORDER BY` (`sorts`), one of them stops abnormally. -/
theorem optimise_keeps_solutions (r : PatternRanking) (env : EvalEnv)
    (hd : ∀ q ∈ env.dataset.quads, q.subject.isLiteral = false)
    (hseed : ∀ m, env.seed = some m → m.WF ∧ m.size = 1) :
    (∀ ts ts' : List TriplePattern, ts.Perm ts' → (env.evalBgp ts).Equiv (env.evalBgp ts')) ∧
    (∀ a b : List TriplePattern, Related (fun _ => False) Multiset.Twins
      (env.eval (.bgp (a ++ b))) (env.eval (.join (.bgp a) (.bgp b)))) ∧
    (∀ (sorts : Bool) (p : GraphPattern), p.orderFree sorts →
      Related (Excused sorts) Multiset.Twins (env.eval (p.optimise r)) (env.eval p)) := by
  have hs := SeedTwins.refl hseed
  refine ⟨fun ts ts' hts => ?_, fun a b => ?_, fun sorts p hp => ?_⟩
  · exact equiv_evalBgp_perm env (Graphs.noLiteralSubjects_of_quads hd env.active) hs.getD.1.wf_left hts
  · exact related_merge hd hs (.refl _) (related_evalWith_bgp hd hs (.refl a))
      (related_evalWith_bgp hd hs (.refl b))
  · -- The optimised pattern nests `EXISTS` as deeply: both run with as many levels.
    unfold eval
    rw [GraphPattern.existsDepth_optimise]
    exact keepsSolutions_evalAt _ env hd p hp hs

/-- The optimiser keeps the solutions over one triple, from a seed that binds `?x`. -/
theorem optimise_keeps_solutions_one_triple :
    let env : EvalEnv :=
      ⟨⟨[⟨.iri "http://ex/a", "http://ex/p", .iri "http://ex/b", .default⟩], []⟩, {}, {}, none, .default,
        some (.ofRows [⟨"x"⟩] [[some (.iri "http://ex/b")]])⟩
    (∀ q ∈ env.dataset.quads, q.subject.isLiteral = false) ∧
      (∀ m, env.seed = some m → m.WF ∧ m.size = 1) ∧
      (∀ ts ts' : List TriplePattern, ts.Perm ts' → (env.evalBgp ts).Equiv (env.evalBgp ts')) ∧
      (∀ a b : List TriplePattern, Related (fun _ => False) Multiset.Twins
        (env.eval (.bgp (a ++ b))) (env.eval (.join (.bgp a) (.bgp b)))) ∧
      (∀ (sorts : Bool) (p : GraphPattern), p.orderFree sorts →
        Related (Excused sorts) Multiset.Twins (env.eval (p.optimise (.structural .hiddenVariable)))
          (env.eval p)) := by
  intro env
  have hd : ∀ q ∈ env.dataset.quads, q.subject.isLiteral = false := by decide
  have hseed : ∀ m, env.seed = some m → m.WF ∧ m.size = 1 := fun _ h => by
    cases h
    exact ⟨Multiset.wf_ofRows (by decide) _, rfl⟩
  exact ⟨hd, hseed, optimise_keeps_solutions (.structural .hiddenVariable) env hd hseed⟩

end EvalEnv

end SparqlBag
