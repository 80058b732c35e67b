import SparqlBag.Proofs.Solution.Splitting
import SparqlBag.Proofs.Expr.Locality

/-!
# Grouping solutions by chained keys

`GroupBy.apply` splits the solutions by its first key, then every group by each
following key.  It computes `splitAll`: each key is evaluated once at every
solution (`GroupKey.apply_eq`), and the groups are those of the classes these
evaluations give (`GroupBy.apply_groupsSpec`).  An expression may draw fresh
values, so a solution's class is what the run at hand gave, an outcome of the
key's evaluation there.
-/

namespace SparqlBag

variable {ctx : CallContext} {scope : Nat → Scope}

namespace GroupKey

/-- The class the key gives a solution: the term its variable is bound to, or
unbound; or the value of its expression. -/
def classOf (ctx : CallContext) (scope : Nat → Scope) (k : GroupKey) (id : Nat) : EvalM ExprValue :=
  match k with
  | .variable v _ =>
    pure (match (scope id).solution.get v with
      | some t => .bound t
      | none => .unbound)
  | .expression e _ => e.eval ctx (scope id)

theorem classOf_variable (v : Variable) (a : Option Variable) :
    (GroupKey.variable v a).classOf ctx scope = fun id =>
      pure (match (scope id).solution.get v with
        | some t => .bound t
        | none => .unbound) := rfl

theorem classOf_expression (e : Expression) (a : Option Variable) :
    (GroupKey.expression e a).classOf ctx scope = fun id => e.eval ctx (scope id) := rfl

/-- A variable key never fails. -/
theorem not_gives_error_variable (v : Variable) (a : Option Variable) (id : Nat) (e : QueryError) :
    ¬ Gives ((GroupKey.variable v a).classOf ctx scope id) (.error e) := by
  rintro ⟨s, hs⟩
  cases hs

end GroupKey

/-- A group made by a key inside `g`: the assignments of `g`, overridden by
the child's own. -/
def BindingGroup.inheritFrom (g child : BindingGroup) : BindingGroup :=
  child.assignments.foldl (fun acc p => acc.assign p.1 p.2) { g with ids := child.ids }

/-! ## Loops as folds -/

/-- A left fold whose steps each run a computation is the fold of the results
of running them all. -/
theorem foldlM_eq_map_mapM {m : Type → Type} [Monad m] [LawfulMonad m] {α β γ : Type}
    (f : α → m β) (step : γ → α → β → γ) :
    ∀ (xs : List α) (acc : γ), xs.foldlM (fun acc x => step acc x <$> f x) acc =
      (fun ys => (xs.zip ys).foldl (fun acc p => step acc p.1 p.2) acc) <$> xs.mapM f
  | [], acc => by simp
  | x :: xs, acc => by simp [List.mapM_cons, foldlM_eq_map_mapM f step xs]

private theorem foldl_append_singleton_map {α β : Type} (f : α → β) :
    ∀ (l : List α) (acc : List β), l.foldl (fun b a => b ++ [f a]) acc = acc ++ l.map f
  | [], acc => by simp
  | a :: l, acc => by simp [foldl_append_singleton_map f l]

namespace GroupKey

/-- **One key evaluates every solution in turn**, then buckets the solutions by
the classes obtained. -/
theorem apply_eq (k : GroupKey) (ids : List Nat) :
    k.apply ctx scope ids = (fun vs => k.groupsOf (ids.zip vs)) <$> ids.mapM (k.classOf ctx scope) := by
  rcases k with ⟨v, a⟩ | ⟨e, a⟩
  · simp only [GroupKey.apply, classOf_variable, List.mapM_pure, map_pure]
    rw [← List.map_prod_left_eq_zip]
    congr 1
    -- The variable's buckets are those of its classes, with no error bucket.
    generalize hr : List.foldl _ (([], []) : List (Term × List Nat) × List Nat) ids = r
    have hbuckets : (ids.map fun id => (id, match (scope id).solution.get v with
        | some t => ExprValue.bound t
        | none => .unbound)).foldl bucketStep ([], [], []) = (r.1, [], r.2) := by
      rw [← hr, List.foldl_map]
      refine @List.foldl_hom _ _ _ (fun r => (r.1, [], r.2)) _ _ _ ([], []) fun acc id => ?_
      cases (scope id).solution.get v <;> rfl
    simp only [GroupKey.groupsOf, hbuckets]
    simp
  · simp only [GroupKey.apply]
    -- The loop's body puts each value into its bucket.
    refine (congrArg (· >>= _) (?_ : forIn ids (([], [], []) : List (Term × List Nat) × List Nat × List Nat) _ =
      forIn ids ([], [], []) fun id acc =>
        (fun v => ForInStep.yield (bucketStep acc (id, v))) <$> e.eval ctx (scope id))).trans ?_
    · congr 1
      funext id acc
      rw [map_eq_pure_bind]
      congr 1
      funext v
      cases v <;> rfl
    · rw [List.forIn_yield_eq_foldlM, foldlM_eq_map_mapM]
      simp only [classOf_expression, map_eq_pure_bind, bind_assoc, pure_bind]
      rfl

/-- Splitting a list of groups, as a fold over them. -/
theorem subdivide_eq (k : GroupKey) (gs : List BindingGroup) :
    k.subdivide ctx scope gs =
      gs.foldlM (fun acc g => (fun r => acc ++ r.map g.inheritFrom) <$> k.apply ctx scope g.ids) [] := by
  simp only [GroupKey.subdivide, List.forIn_pure_yield_eq_foldl, foldl_append_singleton_map,
    map_pure, bind_pure_comp, List.forIn_yield_eq_foldlM, bind_pure]
  rfl

end GroupKey

theorem GroupBy.apply_cons (first : GroupKey) (rest : List GroupKey) (ids : List Nat) :
    (⟨first :: rest⟩ : GroupBy).apply ctx scope ids =
      first.apply ctx scope ids >>= fun gs => rest.foldlM (fun gs k => k.subdivide ctx scope gs) gs := by
  simp only [GroupBy.apply, bind_pure_comp, List.forIn_yield_eq_foldlM, id_map', bind_pure]

/-! ## Classes of a level -/

theorem classesIn_congr {c c' : Nat → ExprValue} {L : List Nat} (h : ∀ x ∈ L, c x = c' x) :
    classesIn c L = classesIn c' L := by
  have hterms : firstTerms c L = firstTerms c' L := by
    induction L using List.reverseRecOn with
    | nil => rfl
    | append_singleton L x ih =>
      rw [firstTerms_append_singleton, firstTerms_append_singleton,
        ih fun y hy => h y (List.mem_append_left _ hy), h x (by simp)]
  have hany : ∀ cl, L.any (c · == cl) = L.any (c' · == cl) := by
    intro cl
    rw [Bool.eq_iff_iff, List.any_eq_true, List.any_eq_true]
    exact exists_congr fun x => and_congr_right fun hx => by rw [h x hx]
  simp only [classesIn, hterms, hany]

/-- The groups a key makes inside `g` depend on the classes of its solutions only. -/
theorem GroupKey.children_congr (k : GroupKey) {c c' : Nat → ExprValue} {g : BindingGroup}
    (h : ∀ x ∈ g.ids, c x = c' x) : k.children c g = k.children c' g := by
  unfold GroupKey.children
  rw [classesIn_congr h]
  refine List.map_congr_left fun cl _ => ?_
  rw [List.filter_congr fun x hx => by rw [h x hx]]

theorem BindingGroup.inheritFrom_group (g : BindingGroup) (k : GroupKey) (ids : List Nat)
    (value : Option Term) : g.inheritFrom (k.group ids value) = k.inherit g ids value := by
  unfold inheritFrom GroupKey.group GroupKey.inherit
  cases k.assignVariable <;> rfl

/-- The groups of the first key are made inside the group of all solutions. -/
theorem GroupKey.children_root (k : GroupKey) (c : Nat → ExprValue) (ids : List Nat) :
    k.children c ⟨ids, []⟩ =
      (classesIn c ids).map fun cl => k.group (ids.filter (c · == cl)) cl.term? := by
  unfold GroupKey.children GroupKey.inherit GroupKey.group
  cases k.assignVariable <;> rfl

/-! ## Runs -/

/-- A `mapM` none of whose steps fails succeeds. -/
theorem mapM_run_ok {α γ : Type} {f : α → EvalM γ} {xs : List α}
    (h : ∀ a ∈ xs, ∀ e, ¬ Gives (f a) (.error e)) (s : Nat) :
    ∃ cs s', (xs.mapM f).run s = .ok (cs, s') := by
  cases hrun : (xs.mapM f).run s with
  | error e =>
    obtain ⟨a, ha, hgives⟩ := exists_error_of_mapM (run'_of_run_error hrun)
    exact absurd hgives (h a ha e)
  | ok p => exact ⟨p.1, p.2, rfl⟩

/-- Values obtained one by one for distinct solutions are the values of one
function. -/
theorem exists_fun_of_forall₂ {P : Nat → ExprValue → Prop} :
    ∀ {ids : List Nat} {vs : List ExprValue}, List.Forall₂ P ids vs → ids.Nodup →
      ∃ c : Nat → ExprValue, ids.zip vs = ids.map (fun id => (id, c id)) ∧ ∀ id ∈ ids, P id (c id)
  | [], [], .nil, _ => ⟨fun _ => .unbound, rfl, by simp⟩
  | x :: ids, v :: vs, .cons hxv hrest, hnd => by
    obtain ⟨hx, hnd⟩ := List.nodup_cons.1 hnd
    obtain ⟨c, hzip, hc⟩ := exists_fun_of_forall₂ hrest hnd
    -- The value of `x` is set apart; the others are those of `c`.
    refine ⟨fun id => if id = x then v else c id, ?_, ?_⟩
    · have hrestMap : (ids.map fun id => (id, if id = x then v else c id)) =
          ids.map fun id => (id, c id) :=
        List.map_congr_left fun id hid => by rw [if_neg (ne_of_mem_of_not_mem hid hx)]
      simp [hzip, hrestMap]
    · intro id hid
      by_cases h : id = x
      · subst h
        simpa using hxv
      · simp only [if_neg h]
        exact hc id ((List.mem_cons.1 hid).resolve_left h)

namespace GroupKey

/-- **One key, run on distinct solutions none of which it fails on**, gives
them classes and makes the groups of these classes. -/
theorem apply_run (k : GroupKey) {ids : List Nat} (hids : ids.Nodup)
    (hok : ∀ id ∈ ids, ∀ e, ¬ Gives (k.classOf ctx scope id) (.error e)) (s : Nat) :
    ∃ c : Nat → ExprValue, (∀ id ∈ ids, Gives (k.classOf ctx scope id) (.ok (c id))) ∧
      ∃ s', (k.apply ctx scope ids).run s =
        .ok ((classesIn c ids).map fun cl => k.group (ids.filter (c · == cl)) cl.term?, s') := by
  obtain ⟨vs, s', hrun⟩ := mapM_run_ok hok s
  obtain ⟨c, hzip, hc⟩ := exists_fun_of_forall₂ (forall₂_of_mapM_ok (run'_of_run_ok hrun)) hids
  refine ⟨c, hc, s', ?_⟩
  rw [apply_eq, StateT.run_map, hrun]
  show Except.ok (k.groupsOf (ids.zip vs), s') = _
  rw [hzip, groupsOf_eq]

/-- **One level of splitting, run**: every group of `gs` is split by the key,
with classes given to all their solutions. -/
theorem subdivide_run (k : GroupKey) {gs : List BindingGroup} (hnd : (gs.flatMap (·.ids)).Nodup)
    (hok : ∀ id ∈ gs.flatMap (·.ids), ∀ e, ¬ Gives (k.classOf ctx scope id) (.error e)) (s : Nat) :
    ∃ c : Nat → ExprValue, (∀ id ∈ gs.flatMap (·.ids), Gives (k.classOf ctx scope id) (.ok (c id))) ∧
      ∃ s', (k.subdivide ctx scope gs).run s = .ok (gs.flatMap (k.children c), s') := by
  rw [subdivide_eq]
  -- The fold over the groups, from any groups already made.
  suffices h : ∀ (acc : List BindingGroup) (s : Nat), ∃ c : Nat → ExprValue,
      (∀ id ∈ gs.flatMap (·.ids), Gives (k.classOf ctx scope id) (.ok (c id))) ∧ ∃ s',
        (gs.foldlM (fun acc g => (fun r => acc ++ r.map g.inheritFrom) <$> k.apply ctx scope g.ids)
          acc).run s = .ok (acc ++ gs.flatMap (k.children c), s') by
    simpa using h [] s
  induction gs with
  | nil =>
    refine fun acc s => ⟨fun _ => .unbound, by simp, s, ?_⟩
    simp only [List.foldlM_nil, List.flatMap_nil, List.append_nil]
    rfl
  | cons g gs ih =>
    intro acc s
    rw [List.flatMap_cons] at hnd hok
    obtain ⟨hndg, hndgs, hdisj⟩ := List.nodup_append.1 hnd
    obtain ⟨cg, hcg, s₁, hrun₁⟩ := k.apply_run hndg (fun id hid => hok id (List.mem_append_left _ hid)) s
    obtain ⟨cr, hcr, s₂, hrun₂⟩ := ih hndgs (fun id hid => hok id (List.mem_append_right _ hid))
      (acc ++ k.children cg g) s₁
    -- The classes of `g`'s solutions come from its own run, the others' from the rest.
    let c : Nat → ExprValue := fun id => if id ∈ g.ids then cg id else cr id
    have hcg' : ∀ id ∈ g.ids, c id = cg id := fun id hid => if_pos hid
    have hcr' : ∀ id ∈ gs.flatMap (·.ids), c id = cr id := fun id hid =>
      if_neg fun hg => hdisj id hg id hid rfl
    refine ⟨c, fun id hid => ?_, s₂, ?_⟩
    · rcases List.mem_append.1 hid with hid | hid
      · rw [hcg' id hid]
        exact hcg id hid
      · rw [hcr' id hid]
        exact hcr id hid
    · have hrest : gs.flatMap (k.children c) = gs.flatMap (k.children cr) :=
        List.flatMap_congr fun g' hg' => k.children_congr fun id hid =>
          hcr' id (List.mem_flatMap.2 ⟨g', hg', hid⟩)
      have hfirst : List.map g.inheritFrom ((classesIn cg g.ids).map fun cl =>
          k.group (g.ids.filter (cg · == cl)) cl.term?) = k.children cg g := by
        rw [List.map_map]
        exact List.map_congr_left fun cl _ => BindingGroup.inheritFrom_group g k _ _
      rw [List.foldlM_cons, run_bind, StateT.run_map, hrun₁]
      simp only [Except.map_ok]
      rw [hfirst, List.flatMap_cons, hrest, k.children_congr hcg', ← List.append_assoc]
      exact hrun₂

end GroupKey

/-- The groups made inside each group of `gs` partition the solutions of `gs`. -/
theorem perm_flatMap_children (k : GroupKey) (c : Nat → ExprValue) {gs : List BindingGroup}
    (hnd : (gs.flatMap (·.ids)).Nodup) :
    ((gs.flatMap (k.children c)).flatMap (·.ids)).Perm (gs.flatMap (·.ids)) := by
  rw [List.flatMap_assoc]
  refine List.Perm.flatMap_left _ fun g hg => ?_
  have hsplit : ((splitAll [(k, c)] [g]).flatMap (·.ids)).Perm g.ids :=
    perm_flatMap_splitAll ((List.nodup_flatMap.1 hnd).1 g hg)
  simpa [splitAll] using hsplit

/-- The keys after the first, run one level after another. -/
theorem foldlM_subdivide_run {ids : List Nat} (hids : ids.Nodup) :
    ∀ (keys : List GroupKey) (gs : List BindingGroup), (gs.flatMap (·.ids)).Perm ids →
      (∀ k ∈ keys, ∀ id ∈ ids, ∀ e, ¬ Gives (k.classOf ctx scope id) (.error e)) → ∀ s : Nat,
      ∃ cs : List (Nat → ExprValue),
        List.Forall₂ (fun (k : GroupKey) c => ∀ id ∈ ids, Gives (k.classOf ctx scope id) (.ok (c id))) keys cs ∧
        ∃ s', (keys.foldlM (fun gs (k : GroupKey) => k.subdivide ctx scope gs) gs).run s =
          .ok (splitAll (keys.zip cs) gs, s')
  | [], gs, _, _, s => ⟨[], .nil, s, rfl⟩
  | k :: keys, gs, hgs, hok, s => by
    have hnd : (gs.flatMap (·.ids)).Nodup := hgs.nodup_iff.2 hids
    obtain ⟨c, hc, s₁, hrun₁⟩ := k.subdivide_run hnd
      (fun id hid e => hok k List.mem_cons_self id (hgs.subset hid) e) s
    obtain ⟨cs, hcs, s₂, hrun₂⟩ := foldlM_subdivide_run hids keys _
      ((perm_flatMap_children k c hnd).trans hgs) (fun k' hk' => hok k' (List.mem_cons_of_mem _ hk')) s₁
    refine ⟨c :: cs, .cons (fun id hid => hc id (hgs.symm.subset hid)) hcs, s₂, ?_⟩
    rw [List.foldlM_cons, run_bind, hrun₁]
    exact hrun₂

/-- **Grouping by keys none of which fails at any solution** succeeds, and its
groups are those `GroupsSpec` describes for the classes that its run gave:
each key's class at each solution is an outcome of evaluating the key there. -/
theorem GroupBy.apply_groupsSpec (g : GroupBy) {ids : List Nat} (hids : ids.Nodup)
    (hok : ∀ k ∈ g.keys, ∀ id ∈ ids, ∀ e, ¬ Gives (k.classOf ctx scope id) (.error e)) (s : Nat) :
    ∃ groups s', (g.apply ctx scope ids).run s = .ok (groups, s') ∧
      ∃ cs : List (Nat → ExprValue),
        List.Forall₂ (fun (k : GroupKey) c => ∀ id ∈ ids, Gives (k.classOf ctx scope id) (.ok (c id))) g.keys cs ∧
        GroupsSpec (g.keys.zip cs) ids groups := by
  obtain ⟨keys⟩ := g
  cases keys with
  | nil => exact ⟨[⟨ids, []⟩], s, rfl, [], .nil, groupsSpec_splitAll [] hids⟩
  | cons first rest =>
    obtain ⟨c, hc, s₁, hrun₁⟩ := first.apply_run hids (hok first List.mem_cons_self) s
    -- The first key's groups are those made inside the group of all solutions.
    have hroot : ((first.children c ⟨ids, []⟩).flatMap (·.ids)).Perm ids := by
      have hall : (([⟨ids, []⟩] : List BindingGroup).flatMap (·.ids)).Nodup := by simpa using hids
      simpa using perm_flatMap_children first c hall
    rw [first.children_root] at hroot
    obtain ⟨cs, hcs, s₂, hrun₂⟩ := foldlM_subdivide_run hids rest _ (by simpa using hroot)
      (fun k hk => hok k (List.mem_cons_of_mem _ hk)) s₁
    refine ⟨splitAll ((first, c) :: rest.zip cs) [⟨ids, []⟩], s₂, ?_, c :: cs, .cons hc hcs,
      groupsSpec_splitAll _ hids⟩
    rw [GroupBy.apply_cons, run_bind, hrun₁]
    simpa [splitAll, first.children_root] using hrun₂

/-- Three solutions grouped by `?x`, assigned to `?k`, then by `STR(?y)`, assigned
to `?s`: `?x` is `<a>`, `<b>`, `<a>`, and `?y` is unbound in the third solution, where
`STR` gives the error value.  The groups are the first solution, the third (the
error class after the class of `<p>`), and the second. -/
theorem GroupBy.apply_groupsSpec_two_keys :
    let keys : List GroupKey :=
      [.variable ⟨"x"⟩ (some ⟨"k"⟩), .expression (.call .str [.var ⟨"y"⟩]) (some ⟨"s"⟩)]
    let scope : Nat → Scope := fun id => .withoutDataset
      (([⟨[⟨"x"⟩, ⟨"y"⟩], [some (.iri "http://ex/a"), some (.iri "http://ex/p")]⟩,
         ⟨[⟨"x"⟩, ⟨"y"⟩], [some (.iri "http://ex/b"), some (.iri "http://ex/p")]⟩,
         ⟨[⟨"x"⟩, ⟨"y"⟩], [some (.iri "http://ex/a"), none]⟩] : List Solution).getD id default)
    [0, 1, 2].Nodup ∧
      (∀ k ∈ keys, ∀ id ∈ [0, 1, 2], ∀ e, ¬ Gives (k.classOf {} scope id) (.error e)) ∧
      (∃ groups s', ((⟨keys⟩ : GroupBy).apply {} scope [0, 1, 2]).run 0 = .ok (groups, s') ∧
        ∃ cs : List (Nat → ExprValue),
          List.Forall₂ (fun (k : GroupKey) c => ∀ id ∈ [0, 1, 2], Gives (k.classOf {} scope id) (.ok (c id)))
            keys cs ∧
          GroupsSpec (keys.zip cs) [0, 1, 2] groups) ∧
      (((⟨keys⟩ : GroupBy).apply {} scope [0, 1, 2]).run' 0).map (·.map (·.ids)) = .ok [[0], [2], [1]] := by
  intro keys scope
  -- Neither key can stop the query: a variable never does, and `STR(?y)` holds no
  -- `EXISTS` and no `LANGMATCHES`.
  have hok : ∀ k ∈ keys, ∀ id ∈ [0, 1, 2], ∀ e, ¬ Gives (k.classOf {} scope id) (.error e) := by
    intro k hk id _ e
    rcases List.mem_pair.1 hk with rfl | rfl
    · exact GroupKey.not_gives_error_variable _ _ _ _
    · exact Expression.not_gives_error (by simp [Expression.subterms, Expression.subtermsList])
        (by simp [Expression.subterms, Expression.subtermsList]) _ _ _
  exact ⟨by decide, hok, GroupBy.apply_groupsSpec ⟨keys⟩ (by decide) hok 0, rfl⟩

end SparqlBag
