import SparqlBag.Proofs.Engine.GraphResults
import SparqlBag.Proofs.Solution.JoinLaws

/-!
# The order of the triple patterns of a basic graph pattern

A basic graph pattern is an index nested loop: each triple pattern is matched
against the solutions so far by looking up the triples with the values they bind.
Read as mappings, this joins the solutions so far with those of the triple pattern
(`EvalEnv.mappings_matchTriple`), since looking up with bound values is filtering
the triples of the active graph (`Graphs.triples_eq_filter`).  Joins of lists of
mappings commute and associate up to order, so the order of the triple patterns
does not matter (`EvalEnv.equiv_evalBgp_perm`), and two basic graph patterns
joined from one seed are one (`EvalEnv.equiv_join_evalBgp`).  All of it holds in
data where no subject is a literal.
-/

namespace SparqlBag

/-! ## Removing repetitions commutes with filtering -/

section FirstOccurrences

variable {α : Type} [DecidableEq α]

/-- **Filtering and then keeping first occurrences keeps the first occurrences
that pass the filter.** -/
theorem eraseDups_filter (F : α → Bool) (xs : List α) :
    (xs.filter F).eraseDups = xs.eraseDups.filter F := by
  match xs with
  | [] => rfl
  | x :: xs =>
    have ih := eraseDups_filter F (xs.filter fun b => !b == x)
    rw [List.eraseDups_cons]
    cases hx : F x with
    | true =>
      rw [List.filter_cons_of_pos hx, List.eraseDups_cons, List.filter_cons_of_pos hx,
        List.filter_comm, ih]
    | false =>
      -- `x` fails the filter, so no survivor is `x` and dropping `x` changes nothing
      have hnot : (xs.filter F).filter (fun b => !b == x) = xs.filter F :=
        List.filter_eq_self.2 fun b hb => by
          have : b ≠ x := fun h => by simp [h, hx] at hb
          simpa using this
      rw [List.filter_cons_of_neg (by simp [hx]), List.filter_cons_of_neg (by simp [hx]), ← ih,
        List.filter_comm, hnot]
termination_by xs.length
decreasing_by simpa [Nat.lt_add_one_iff] using List.length_filter_le (fun b => !b == x) xs

theorem dedupeList_filter (F : α → Bool) (xs : List α) :
    dedupeList (xs.filter F) = (dedupeList xs).filter F := by
  rw [dedupeList_eq_eraseDups, dedupeList_eq_eraseDups, eraseDups_filter]

end FirstOccurrences

/-! ## Looking up triples -/

namespace Graphs

variable {g : Graphs}

/-- Whether a triple agrees with every given part of a pattern. -/
def Agrees (s : Option Term) (p : Option String) (o : Option Term) (tr : Triple) : Bool :=
  s.all (· == tr.subject) && p.all (· == tr.predicate) && o.all (· == tr.object)

/-- **Looking up the triples of the active graph with some parts given is
filtering all of them**, in the same order, in data without literal subjects. -/
theorem triples_eq_filter (hlit : g.NoLiteralSubjects) (s : Option Term) (p : Option String)
    (o : Option Term) : g.triples s p o = (g.triples none none none).filter (Agrees s p o) := by
  by_cases hs : s.any Term.isLiteral
  · -- a literal subject is looked up as nothing, and no triple has one
    obtain ⟨a, rfl, ha⟩ := (Option.any_eq_true _ _).1 hs
    have hnone : (g.triples none none none).filter (Agrees (some a) p o) = [] :=
      List.filter_eq_nil_iff.2 fun tr htr hagree => by
        simp only [Agrees, Option.all_some, beq_iff_eq, Bool.and_eq_true] at hagree
        exact absurd (hlit tr htr) (by simp [← hagree.1.1, ha])
    rw [hnone]
    simp [triples, ha]
  have hfound : ∀ graphs : List (Option GraphName),
      graphs.flatMap (fun graph => (g.dataset.matching s p o graph).map Quad.triple) =
        (graphs.flatMap fun graph => (g.dataset.matching none none none graph).map Quad.triple).filter
          (Agrees s p o) := by
    intro graphs
    rw [List.filter_flatMap]
    refine List.flatMap_congr fun graph _ => ?_
    simp only [Dataset.matching, List.filter_map, List.filter_filter]
    -- a quad matches the given parts exactly when it matches the graph and agrees with them
    congr 1
  simp only [triples, hs, Option.any_none, Bool.false_eq_true, if_false]
  split_ifs
  · rw [hfound, dedupeList_filter]
  · exact hfound _

end Graphs

/-! ## Matching one triple pattern -/

namespace EvalEnv

variable {env : EvalEnv}

/-- The positions of a triple pattern bound to the parts of a triple. -/
def bindings (s p o : PatternTerm) (tr : Triple) : List (PatternTerm × Term) :=
  [(s, tr.subject), (p, .iri tr.predicate), (o, tr.object)]

/-- The solutions of a triple pattern with multiplicity: the bindings of its
positions to the triples of the active graph, one per triple that fits. -/
def tripleMappings (env : EvalEnv) (t : TriplePattern) : List Mapping :=
  (env.graphs.triples none none none).filterMap fun tr =>
    Mapping.empty.bindAll (bindings (t.subject.resolve env.options.blankNodeMode)
      (predicatePosition t.predicate) (t.object.resolve env.options.blankNodeMode) tr)

/-- A binding of the positions fails as soon as a bound position disagrees with
the part of the triple it is bound to. -/
theorem bindAll_eq_none_of_not_agrees {ν : Mapping} {s p o : PatternTerm} {pred : Option String}
    (hpred : ∀ i ∈ pred, p.valueIn ν = some (.iri i)) {tr : Triple}
    (h : Graphs.Agrees (s.valueIn ν) pred (o.valueIn ν) tr = false) :
    ν.bindAll (bindings s p o tr) = none := by
  cases hb : ν.bindAll (bindings s p o tr) with
  | none => rfl
  | some μ =>
    have hsv := valueIn_of_bindAll hb (show (s, tr.subject) ∈ bindings s p o tr by simp [bindings])
    have hpv := valueIn_of_bindAll hb
      (show (p, Term.iri tr.predicate) ∈ bindings s p o tr by simp [bindings])
    have hov := valueIn_of_bindAll hb (show (o, tr.object) ∈ bindings s p o tr by simp [bindings])
    have hpi : pred.all (· == tr.predicate) = true := by
      cases pred with
      | none => rfl
      | some i =>
        rcases hpv with hpv | hpv <;> rw [hpred i rfl] at hpv
        · cases hpv
        · simpa using hpv
    have hsa : (s.valueIn ν).all (· == tr.subject) = true := by
      rcases hsv with hsv | hsv <;> simp [hsv]
    have hoa : (o.valueIn ν).all (· == tr.object) = true := by
      rcases hov with hov | hov <;> simp [hov]
    simp [Graphs.Agrees, hsa, hpi, hoa] at h

/-- **The rows matching makes of a row are the bindings of its mapping to the
triples of the active graph**, one per triple that fits, in the order of the
triples, in data without literal subjects. -/
theorem map_get_matchRows (env : EvalEnv) (hlit : env.graphs.NoLiteralSubjects) {Y : List Variable}
    {s p o : PatternTerm} (hs : ∀ v ∈ s.vars, v ∈ Y) (hp : ∀ v ∈ p.vars, v ∈ Y)
    (ho : ∀ v ∈ o.vars, v ∈ Y) {values : Row} (hlen : values.length = Y.length) :
    (env.matchRows s p o (s.posIn Y) (p.posIn Y) (o.posIn Y) values).map
        (fun r => Solution.get ⟨Y, r⟩) =
      (env.graphs.triples none none none).filterMap fun tr =>
        Mapping.bindAll (Solution.get ⟨Y, values⟩) (bindings s p o tr) := by
  set ν : Mapping := Solution.get ⟨Y, values⟩
  -- the triples looked up for a predicate are those that agree with the bound positions
  have hfound : ∀ pred : Option String, (∀ i ∈ pred, p.valueIn ν = some (.iri i)) →
      (pred = none → p.valueIn ν = none) →
      ((env.graphs.triples (s.valueIn ν) pred (o.valueIn ν)).filterMap fun tr =>
          bindMatch values [(s.posIn Y, tr.subject), (p.posIn Y, .iri tr.predicate),
            (o.posIn Y, tr.object)]).map (fun r => Solution.get ⟨Y, r⟩) =
        (env.graphs.triples none none none).filterMap fun tr => ν.bindAll (bindings s p o tr) := by
    intro pred hpred hnone
    rw [Graphs.triples_eq_filter hlit, List.map_filterMap, List.filterMap_filter]
    refine List.filterMap_congr fun tr _ => ?_
    split
    · next hagree =>
      -- an agreeing triple binds the row as its positions bind the mapping
      simp only [Graphs.Agrees, Bool.and_eq_true, Option.all_eq_true, beq_iff_eq] at hagree
      obtain ⟨⟨hsa, hpa⟩, hoa⟩ := hagree
      refine bindMatch_posIn (bindings s p o tr) hlen ?_ ?_
      · simp only [bindings, List.mem_cons, List.mem_nil_iff, or_false]
        rintro b (rfl | rfl | rfl)
        exacts [hs, hp, ho]
      · simp only [bindings, List.mem_cons, List.mem_nil_iff, or_false]
        rintro b (rfl | rfl | rfl) c rfl
        · exact hsa c rfl
        · cases pred with
          | none => exact absurd (hnone rfl) (by simp)
          | some i =>
            have := hpred i rfl
            simp only [PatternTerm.valueIn_constant, Option.some.injEq] at this
            rw [this, hpa i rfl]
        · exact hoa c rfl
    · next hagree =>
      exact (bindAll_eq_none_of_not_agrees hpred (by simpa using hagree)).symm
  simp only [matchRows, lookupAt_posIn hs, lookupAt_posIn hp, lookupAt_posIn ho]
  split
  next i hi => exact hfound (some i) (fun j hj => by cases hj; exact hi) (fun h => by cases h)
  next u hother hu =>
    -- a predicate bound to a term that is no IRI matches nothing
    refine (List.filterMap_eq_nil_iff.2 fun tr _ => ?_).symm
    cases hb : ν.bindAll (bindings s p o tr) with
    | none => rfl
    | some μ =>
      rcases valueIn_of_bindAll hb
          (show (p, Term.iri tr.predicate) ∈ bindings s p o tr by simp [bindings]) with hp' | hp'
      · exact absurd (hu.symm.trans hp') (by simp)
      · exact absurd (Option.some.inj (hu.symm.trans hp')) (hother tr.predicate)
  next hnone => exact hfound none (fun j hj => by cases hj) (fun _ => hnone)

/-- The variables of the three positions of a triple pattern. -/
def positionVars (mode : BlankNodeMode) (t : TriplePattern) : List Variable :=
  (t.subject.resolve mode).vars ++ (predicatePosition t.predicate).vars ++ (t.object.resolve mode).vars

/-- Where matching places the variables of three positions after `vars`: each
position is found at the first occurrence of its variable. -/
theorem place_three (vars : List Variable) (s p o : PatternTerm) :
    let Y := (place (place (place vars s).1 p).1 o).1
    (∃ extra, Y = vars ++ extra) ∧ (∀ v, v ∈ Y ↔ v ∈ vars ∨ v ∈ s.vars ++ p.vars ++ o.vars) ∧
      (place vars s).2 = s.posIn Y ∧ (place (place vars s).1 p).2 = p.posIn Y ∧
      (place (place (place vars s).1 p).1 o).2 = o.posIn Y := by
  intro Y
  obtain ⟨e₁, h₁⟩ := exists_place_fst vars s
  obtain ⟨e₂, h₂⟩ := exists_place_fst (place vars s).1 p
  obtain ⟨e₃, h₃⟩ := exists_place_fst (place (place vars s).1 p).1 o
  have hY : Y = vars ++ (e₁ ++ e₂ ++ e₃) := by
    show (place (place (place vars s).1 p).1 o).1 = _
    rw [h₃, h₂, h₁]
    simp
  refine ⟨⟨_, hY⟩, fun v => ?_, ?_, ?_, place_snd _ _⟩
  · simp only [Y, place_fst, List.mem_append, List.mem_filter, decide_not]
    by_cases h₁ : v ∈ vars <;> by_cases h₂ : v ∈ s.vars <;> by_cases h₃ : v ∈ p.vars <;>
      by_cases h₄ : v ∈ o.vars <;> simp [h₁, h₂, h₃, h₄]
  · rw [place_snd, show Y = (place vars s).1 ++ (e₂ ++ e₃) by
      show (place (place (place vars s).1 p).1 o).1 = _
      rw [h₃, h₂, List.append_assoc]]
    exact (PatternTerm.posIn_append _ fun v hv => mem_place_fst hv).symm
  · rw [place_snd, show Y = (place (place vars s).1 p).1 ++ e₃ from h₃]
    exact (PatternTerm.posIn_append _ fun v hv => mem_place_fst hv).symm

/-- The variables of a matched triple pattern: those of the input, then those of
its positions. -/
theorem mem_vars_matchTriple (env : EvalEnv) (M : Multiset) (t : TriplePattern) (v : Variable) :
    v ∈ (env.matchTriple M t).vars ↔ v ∈ M.vars ∨ v ∈ positionVars env.options.blankNodeMode t := by
  rw [matchTriple_eq, Multiset.vars_ofRows]
  exact (place_three _ _ _ _).2.1 v

/-- **Matching a triple pattern against a multiset joins its solutions with the
solutions of the triple pattern**, with their multiplicities and in nested-loop
order, in data without literal subjects. -/
theorem mappings_matchTriple (env : EvalEnv) (hlit : env.graphs.NoLiteralSubjects) {M : Multiset}
    (hM : M.WF) (t : TriplePattern) :
    (env.matchTriple M t).mappings = Mapping.joinAll M.mappings (env.tripleMappings t) := by
  rw [matchTriple_eq]
  set s := t.subject.resolve env.options.blankNodeMode
  set p := predicatePosition t.predicate
  set o := t.object.resolve env.options.blankNodeMode
  obtain ⟨⟨extra, hY⟩, hmem, hps, hpp, hpo⟩ := place_three M.vars s p o
  set Y := (place (place (place M.vars s).1 p).1 o).1
  have hpos : ∀ x : PatternTerm, x = s ∨ x = p ∨ x = o → ∀ v ∈ x.vars, v ∈ Y := by
    rintro x hx v hv
    refine (hmem v).2 (.inr ?_)
    rcases hx with rfl | rfl | rfl <;> simp [hv]
  simp only [hps, hpp, hpo]
  rw [Multiset.mappings_ofRows, List.map_flatMap, Multiset.mappings_eq_entries, Mapping.joinAll,
    List.flatMap_map]
  refine List.flatMap_congr fun e he => ?_
  -- each row of the input meets the triples that fit its mapping
  have hget : Solution.get ⟨Y, e.2.fit Y.length⟩ = Solution.get ⟨M.vars, e.2⟩ := by
    rw [Solution.get_fit, hY, Solution.get_append_of_length (hM.length_of_mem_entries he)]
  rw [map_get_matchRows env hlit (hpos s (.inl rfl)) (hpos p (.inr (.inl rfl)))
    (hpos o (.inr (.inr rfl))) (Row.length_fit _ _), hget, tripleMappings, List.filterMap_filterMap]
  exact List.filterMap_congr fun tr _ => Mapping.bindAll_eq_join _ _

end EvalEnv

/-! ## Joining in any order -/

namespace Mapping

variable {α : Type} (F : α → List Mapping)

/-- Joining with the lists of `F` one after another. -/
noncomputable def joinEach (A : List Mapping) (xs : List α) : List Mapping :=
  xs.foldl (fun B x => joinAll B (F x)) A

theorem joinEach_perm_left {A A' : List Mapping} (h : A.Perm A') (xs : List α) :
    (joinEach F A xs).Perm (joinEach F A' xs) := by
  induction xs generalizing A A' with
  | nil => exact h
  | cons x xs ih => exact ih (joinAll_perm_left h)

/-- **Joining with lists one after another, in any order, gives the same
multiset**, since the join is associative and commutative up to order. -/
theorem joinEach_perm {xs ys : List α} (h : xs.Perm ys) {A A' : List Mapping} (hA : A.Perm A') :
    (joinEach F A xs).Perm (joinEach F A' ys) := by
  induction h generalizing A A' with
  | nil => exact hA
  | cons x _ ih => exact ih (joinAll_perm_left hA)
  | swap x y xs =>
    -- two joins in a row may be swapped
    refine joinEach_perm_left F ?_ xs
    calc joinAll (joinAll A (F y)) (F x)
      _ = joinAll A (joinAll (F y) (F x)) := joinAll_assoc _ _ _
      List.Perm _ (joinAll A' (joinAll (F x) (F y))) := joinAll_perm hA (joinAll_comm _ _)
      _ = joinAll (joinAll A' (F x)) (F y) := (joinAll_assoc _ _ _).symm
  | trans _ _ ih₁ ih₂ => exact (ih₁ hA).trans (ih₂ (List.Perm.refl _))

/-- Joining one after another is joining with the join of them all. -/
theorem joinEach_perm_joinAll (A : List Mapping) (xs : List α) :
    (joinEach F A xs).Perm (joinAll A (joinEach F [empty] xs)) := by
  induction xs generalizing A with
  | nil => exact List.Perm.of_eq (joinAll_empty_right A).symm
  | cons x xs ih =>
    calc joinEach F A (x :: xs)
      List.Perm _ (joinAll (joinAll A (F x)) (joinEach F [empty] xs)) := ih _
      _ = joinAll A (joinAll (F x) (joinEach F [empty] xs)) := joinAll_assoc _ _ _
      List.Perm _ (joinAll A (joinEach F [empty] (x :: xs))) := by
        refine joinAll_perm_right (List.Perm.symm ?_)
        simpa [joinEach] using ih (F x)

/-- Joining two lists with the same single mapping first is joining them and
then with it once. -/
theorem joinAll_singleton_both (σ : Mapping) (X Y : List Mapping) :
    (joinAll (joinAll [σ] X) (joinAll [σ] Y)).Perm (joinAll [σ] (joinAll X Y)) :=
  calc joinAll (joinAll [σ] X) (joinAll [σ] Y)
    _ = joinAll [σ] (joinAll X (joinAll [σ] Y)) := joinAll_assoc _ _ _
    List.Perm _ (joinAll [σ] (joinAll X (joinAll Y [σ]))) :=
        joinAll_perm_right (joinAll_perm_right (joinAll_comm _ _))
    _ = joinAll [σ] (joinAll (joinAll X Y) [σ]) := by rw [joinAll_assoc]
    List.Perm _ (joinAll [σ] (joinAll [σ] (joinAll X Y))) := joinAll_perm_right (joinAll_comm _ _)
    _ = joinAll [σ] (joinAll X Y) := by rw [← joinAll_assoc, joinAll_self_singleton]

end Mapping

/-! ## Basic graph patterns -/

namespace EvalEnv

/-- Matching one or more triple patterns gives a bag. -/
theorem exists_bag_foldl_matchTriple (env : EvalEnv) :
    ∀ {ts : List TriplePattern} (M : Multiset), ts ≠ [] → ∃ b, ts.foldl env.matchTriple M = .bag b
  | [], _, h => absurd rfl h
  | [t], M, _ => by
    rw [List.foldl_cons, List.foldl_nil, matchTriple_eq]
    exact ⟨_, rfl⟩
  | t :: t' :: ts, M, _ => by
    rw [List.foldl_cons]
    exact exists_bag_foldl_matchTriple env _ (List.cons_ne_nil t' ts)

theorem mem_vars_foldl_matchTriple (env : EvalEnv) (ts : List TriplePattern) (M : Multiset)
    (v : Variable) : v ∈ (ts.foldl env.matchTriple M).vars ↔
      v ∈ M.vars ∨ ∃ t ∈ ts, v ∈ positionVars env.options.blankNodeMode t := by
  induction ts generalizing M with
  | nil => simp
  | cons t ts ih =>
    rw [List.foldl_cons, ih, mem_vars_matchTriple]
    simp [or_assoc]

/-- Matching triple patterns one after another joins the solutions of each in
turn, in data without literal subjects. -/
theorem mappings_foldl_matchTriple (env : EvalEnv) (hlit : env.graphs.NoLiteralSubjects) :
    ∀ (ts : List TriplePattern) {M : Multiset}, M.WF →
      (ts.foldl env.matchTriple M).WF ∧
        (ts.foldl env.matchTriple M).mappings = Mapping.joinEach env.tripleMappings M.mappings ts
  | [], _, hM => ⟨hM, rfl⟩
  | t :: ts, M, hM => by
    rw [List.foldl_cons, Mapping.joinEach, List.foldl_cons, ← mappings_matchTriple env hlit hM t]
    exact mappings_foldl_matchTriple env hlit ts (env.wf_matchTriple hM t)

/-- **The order of the triple patterns does not matter**: matching permuted
triple patterns from equivalent multisets gives equivalent multisets, in data
without literal subjects. -/
theorem equiv_foldl_matchTriple (env : EvalEnv) (hlit : env.graphs.NoLiteralSubjects)
    {M M' : Multiset} (hM : M.WF) (hM' : M'.WF) (h : M.Equiv M') {ts ts' : List TriplePattern}
    (hts : ts.Perm ts') : (ts.foldl env.matchTriple M).Equiv (ts'.foldl env.matchTriple M') := by
  by_cases hne : ts = []
  · subst hne
    obtain rfl := List.nil_perm.1 hts
    exact h
  -- one triple pattern or more: two bags
  obtain ⟨b, hb⟩ := exists_bag_foldl_matchTriple env M hne
  obtain ⟨b', hb'⟩ := exists_bag_foldl_matchTriple env M' fun h' => hne (List.perm_nil.1 (h' ▸ hts))
  have hv : ∀ v, v ∈ (ts.foldl env.matchTriple M).vars ↔ v ∈ (ts'.foldl env.matchTriple M').vars := by
    intro v
    rw [mem_vars_foldl_matchTriple, mem_vars_foldl_matchTriple, h.mem_vars v]
    simp only [hts.mem_iff]
  have hp : (ts.foldl env.matchTriple M).mappings.Perm (ts'.foldl env.matchTriple M').mappings := by
    rw [(mappings_foldl_matchTriple env hlit ts hM).2, (mappings_foldl_matchTriple env hlit ts' hM').2]
    exact Mapping.joinEach_perm _ hts h.mappings_perm
  rw [hb, hb'] at hv hp ⊢
  exact ⟨hv, hp⟩

/-- The solutions of a basic graph pattern, as a multiset, do not depend on the
order of its triple patterns. -/
theorem equiv_evalBgp_perm (env : EvalEnv) (hlit : env.graphs.NoLiteralSubjects)
    (hseed : (env.seed.getD .identity).WF) {ts ts' : List TriplePattern} (hts : ts.Perm ts') :
    (env.evalBgp ts).Equiv (env.evalBgp ts') :=
  equiv_foldl_matchTriple env hlit hseed hseed (.refl _) hts

theorem wf_evalBgp (env : EvalEnv) (hlit : env.graphs.NoLiteralSubjects)
    (hseed : (env.seed.getD .identity).WF) (ts : List TriplePattern) : (env.evalBgp ts).WF :=
  (mappings_foldl_matchTriple env hlit ts hseed).1

end EvalEnv

namespace Multiset

variable {m n : Multiset}

/-- The join of two multisets that are not empty, one of them a bag, is a bag. -/
theorem exists_bag_join (hm : m ≠ .null) (hn : n ≠ .null) (h : (∃ b, m = .bag b) ∨ ∃ b, n = .bag b) :
    ∃ b, m.join n = .bag b := by
  cases m with
  | null => exact absurd rfl hm
  | identity =>
    rcases h with ⟨b, hb⟩ | ⟨b, rfl⟩
    · cases hb
    · exact ⟨b, join_identity_left _⟩
  | bag l =>
    cases n with
    | null => exact absurd rfl hn
    | identity => exact ⟨l, join_identity_right _⟩
    | bag r => exact ⟨_, join_bag_bag l r⟩

theorem mem_vars_join (hm : m ≠ .null) (hn : n.WF) (hn' : n ≠ .null) (v : Variable) :
    v ∈ (m.join n).vars ↔ v ∈ m.vars ∨ v ∈ n.vars := by
  cases m with
  | null => exact absurd rfl hm
  | identity => simp [vars]
  | bag l =>
    cases n with
    | null => exact absurd rfl hn'
    | identity => simp [vars]
    | bag r => exact mem_vars_join_bag hn v

end Multiset

namespace EvalEnv

/-- **Two basic graph patterns joined are one**: when the seed is one solution,
joining the solutions of two basic graph patterns gives those of the basic graph
pattern of all their triple patterns, in data without literal subjects.  The
seed enters both sides of the join, and a solution joined with itself is itself. -/
theorem equiv_join_evalBgp (env : EvalEnv) (hlit : env.graphs.NoLiteralSubjects)
    (hseed : (env.seed.getD .identity).WF) (hsize : (env.seed.getD .identity).size = 1)
    (a b : List TriplePattern) :
    ((env.evalBgp a).join (env.evalBgp b)).Equiv (env.evalBgp (a ++ b)) := by
  set S := env.seed.getD .identity
  set T := env.tripleMappings
  obtain ⟨σ, hσ⟩ : ∃ σ, S.mappings = [σ] :=
    List.length_eq_one_iff.1 (by rw [Multiset.length_mappings, hsize])
  have hS : S ≠ .null := by
    rintro h
    rw [h] at hsize
    cases hsize
  have hwf := fun ts => wf_evalBgp env hlit hseed ts
  have heval : ∀ ts, env.evalBgp ts = ts.foldl env.matchTriple S := fun _ => rfl
  have hmap : ∀ ts, (env.evalBgp ts).mappings = Mapping.joinEach T [σ] ts := fun ts => by
    rw [heval, (mappings_foldl_matchTriple env hlit ts hseed).2, hσ]
  have hp : ((env.evalBgp a).join (env.evalBgp b)).mappings.Perm (env.evalBgp (a ++ b)).mappings :=
    calc ((env.evalBgp a).join (env.evalBgp b)).mappings
      List.Perm _ (Mapping.joinAll (Mapping.joinEach T [σ] a) (Mapping.joinEach T [σ] b)) := by
          rw [← hmap, ← hmap]
          exact Multiset.mappings_join (hwf a) (hwf b)
      List.Perm _ (Mapping.joinAll (Mapping.joinAll [σ] (Mapping.joinEach T [Mapping.empty] a))
          (Mapping.joinAll [σ] (Mapping.joinEach T [Mapping.empty] b))) :=
          Mapping.joinAll_perm (Mapping.joinEach_perm_joinAll T _ a)
            (Mapping.joinEach_perm_joinAll T _ b)
      List.Perm _ (Mapping.joinAll [σ] (Mapping.joinAll (Mapping.joinEach T [Mapping.empty] a)
          (Mapping.joinEach T [Mapping.empty] b))) := Mapping.joinAll_singleton_both _ _ _
      _ = Mapping.joinAll (Mapping.joinAll [σ] (Mapping.joinEach T [Mapping.empty] a))
          (Mapping.joinEach T [Mapping.empty] b) := (Mapping.joinAll_assoc _ _ _).symm
      List.Perm _ (Mapping.joinAll (Mapping.joinEach T [σ] a) (Mapping.joinEach T [Mapping.empty] b)) :=
          Mapping.joinAll_perm_left (Mapping.joinEach_perm_joinAll T _ a).symm
      List.Perm _ (Mapping.joinEach T (Mapping.joinEach T [σ] a) b) :=
          (Mapping.joinEach_perm_joinAll T _ b).symm
      _ = (env.evalBgp (a ++ b)).mappings := by
          rw [hmap]
          simp only [Mapping.joinEach, List.foldl_append]
  -- both sides are the seed when there is no triple pattern, and bags otherwise
  by_cases hab : a ++ b = []
  · obtain ⟨rfl, rfl⟩ := List.append_eq_nil_iff.1 hab
    show (S.join S).Equiv S
    have hp' : (S.join S).mappings.Perm S.mappings := hp
    cases hSk : S with
    | null => exact absurd hSk hS
    | identity => exact Multiset.Equiv.refl _
    | bag s =>
      rw [hSk] at hp'
      have hv : ∀ v, v ∈ ((Multiset.bag s).join (.bag s)).vars ↔ v ∈ (Multiset.bag s).vars := fun v => by
        rw [Multiset.mem_vars_join_bag (hSk ▸ hseed), or_self, Multiset.vars_bag]
      rw [Multiset.join_bag_bag] at hv hp' ⊢
      exact ⟨hv, hp'⟩
  · have hne : ∀ ts, env.evalBgp ts ≠ .null := fun ts => by
      by_cases hts : ts = []
      · subst hts
        exact hS
      · obtain ⟨c, hc⟩ := exists_bag_foldl_matchTriple env S hts
        rw [heval, hc]
        exact Multiset.noConfusion
    have hbag : (∃ c, env.evalBgp a = .bag c) ∨ ∃ c, env.evalBgp b = .bag c := by
      by_cases ha : a = []
      · subst ha
        exact .inr (exists_bag_foldl_matchTriple env S (by simpa using hab))
      · exact .inl (exists_bag_foldl_matchTriple env S ha)
    obtain ⟨c, hc⟩ := Multiset.exists_bag_join (hne a) (hne b) hbag
    obtain ⟨c', hc'⟩ := exists_bag_foldl_matchTriple env S hab
    have hv : ∀ v, v ∈ ((env.evalBgp a).join (env.evalBgp b)).vars ↔ v ∈ (env.evalBgp (a ++ b)).vars := by
      intro v
      rw [Multiset.mem_vars_join (hne a) (hwf b) (hne b), heval, heval, heval,
        mem_vars_foldl_matchTriple, mem_vars_foldl_matchTriple, mem_vars_foldl_matchTriple]
      simp only [List.mem_append]
      constructor
      · rintro ((h | ⟨t, ht, hv⟩) | (h | ⟨t, ht, hv⟩))
        exacts [.inl h, .inr ⟨t, .inl ht, hv⟩, .inl h, .inr ⟨t, .inr ht, hv⟩]
      · rintro (h | ⟨t, ht | ht, hv⟩)
        exacts [.inl (.inl h), .inl (.inr ⟨t, ht, hv⟩), .inr (.inr ⟨t, ht, hv⟩)]
    have hc'' : env.evalBgp (a ++ b) = .bag c' := (heval _).trans hc'
    rw [hc, hc''] at hv hp ⊢
    exact ⟨hv, hp⟩

end EvalEnv

end SparqlBag
