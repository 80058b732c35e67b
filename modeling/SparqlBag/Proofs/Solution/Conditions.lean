import SparqlBag.Proofs.Solution.Congruence

/-!
# Conditions that are values

A filter, an `extend` and a left join ask a question of each solution.  When the
answer is a value of the solution's mapping, with no effect, each operator is a
function of solution sets: the filter keeps the mappings it accepts
(`Multiset.filterM_pure_get`), `extend` binds its variable in each
(`Multiset.extendM_pure_get`), and the left join gives the joins it accepts and
the left mappings none of whose joins it accepts (`Multiset.leftJoin_pure_get`).
-/

namespace SparqlBag

namespace Mapping

/-- The left join of two sets of mappings under a condition: the joins the
condition accepts, and the left mappings none of whose joins it accepts. -/
def leftJoinSet (keep : Mapping → Bool) (A B : Set Mapping) : Set Mapping :=
  {μ | μ ∈ joinSet A B ∧ keep μ = true} ∪
    {α | α ∈ A ∧ ∀ β ∈ B, ∀ μ, join? α β = some μ → keep μ = false}

open Classical in
/-- The block of one left mapping: its accepted joins, or itself when it has none. -/
theorem mem_leftBlock {keep : Mapping → Bool} {N : List Mapping} {ν μ : Mapping} :
    μ ∈ leftBlock keep N ν ↔ (∃ γ ∈ N, join? ν γ = some μ ∧ keep μ = true) ∨
      (μ = ν ∧ ∀ γ ∈ N, ∀ μ₀, join? ν γ = some μ₀ → keep μ₀ = false) := by
  have hnone : ((N.filterMap (join? ν)).filter keep).isEmpty ↔
      ∀ γ ∈ N, ∀ μ₀, join? ν γ = some μ₀ → keep μ₀ = false := by
    simp only [List.isEmpty_iff, List.filter_eq_nil_iff, List.mem_filterMap, Bool.not_eq_true]
    exact ⟨fun h γ hγ μ₀ hj => h μ₀ ⟨γ, hγ, hj⟩, fun h μ₀ ⟨γ, hγ, hj⟩ => h γ hγ μ₀ hj⟩
  unfold leftBlock
  dsimp only
  split_ifs with hk
  · -- no join is accepted: the block is the left mapping
    have hall := hnone.1 hk
    rw [List.mem_singleton]
    constructor
    · rintro rfl
      exact .inr ⟨rfl, hall⟩
    · rintro (⟨γ, hγ, hj, hkeep⟩ | ⟨rfl, -⟩)
      · rw [hall γ hγ μ hj] at hkeep
        cases hkeep
      · rfl
  · simp only [List.mem_filter, List.mem_filterMap]
    constructor
    · rintro ⟨⟨γ, hγ, hj⟩, hkeep⟩
      exact .inl ⟨γ, hγ, hj, hkeep⟩
    · rintro (⟨γ, hγ, hj, hkeep⟩ | ⟨-, hall⟩)
      · exact ⟨⟨γ, hγ, hj⟩, hkeep⟩
      · exact absurd (hnone.2 hall) hk

end Mapping

/-- Rows paired with their verdicts and kept where the verdict is true are the
rows the test accepts. -/
theorem map_fst_filter_zip_map {α : Type} (k : α → Bool) :
    ∀ xs : List α, ((xs.zip (xs.map k)).filter (·.2)).map (·.1) = xs.filter k
  | [] => rfl
  | x :: xs => by
    have ih := map_fst_filter_zip_map k xs
    cases hk : k x <;> simp [hk, ih]

namespace Multiset

variable {m : Multiset}

theorem WF.keepByVerdicts (hm : m.WF) (verdicts : List Bool) : (m.keepByVerdicts verdicts).WF := by
  cases m with
  | bag b =>
    refine ⟨hm.1, fun e he => ?_⟩
    obtain ⟨p, hp, rfl⟩ := List.mem_map.1 he
    exact hm.2 _ (List.of_mem_zip (List.mem_of_mem_filter hp)).1
  | identity =>
    show (if verdicts == [true] then Multiset.identity else .null).WF
    split <;> trivial
  | null => trivial

/-- The filter lists, in order, the mappings of the rows its verdicts accept. -/
theorem mappings_keepByVerdicts_map (m : Multiset) (k : Solution → Bool) :
    (m.keepByVerdicts (m.entries.map fun e => k ⟨m.vars, e.2⟩)).mappings =
      (m.entries.filter fun e => k ⟨m.vars, e.2⟩).map fun e => Solution.get ⟨m.vars, e.2⟩ := by
  cases m with
  | bag b =>
    simp only [keepByVerdicts, entries, vars, mappings_bag]
    rw [map_fst_filter_zip_map]
  | identity =>
    -- one empty row, kept or not
    have hget : Solution.get ⟨[], []⟩ = Mapping.empty := funext fun _ => rfl
    cases hk : k ⟨[], []⟩ <;> simp [keepByVerdicts, entries, vars, mappings, hk, hget]
  | null => rfl

/-- **A filter whose condition is a value of the mapping keeps the mappings it
accepts.** -/
theorem filterM_pure_get (hm : m.WF) (keep : Mapping → Bool) :
    ∃ N : Multiset, m.filterM (fun s => (pure (keep s.get) : EvalM Bool)) = pure N ∧ N.WF ∧
      N.solutions = {μ | μ ∈ m.solutions ∧ keep μ = true} := by
  rw [filterM_eq_bind, List.mapM_pure, pure_bind]
  refine ⟨_, rfl, hm.keepByVerdicts _, ?_⟩
  ext μ
  rw [mem_solutions, mappings_keepByVerdicts_map m fun s => keep s.get, Set.mem_ofPred_eq,
    mem_solutions, mappings_eq_map_entries]
  simp only [List.mem_map, List.mem_filter]
  constructor
  · rintro ⟨e, ⟨he, hk⟩, rfl⟩
    exact ⟨⟨e, he, rfl⟩, hk⟩
  · rintro ⟨⟨e, he, rfl⟩, hk⟩
    exact ⟨e, ⟨he, hk⟩, rfl⟩

/-- **An `extend` whose value is a value of the mapping binds its variable in
each mapping.** -/
theorem extendM_pure_get (hm : m.WF) (v : Variable) (value : Mapping → Option Term) :
    ∃ N : Multiset, m.extendM v (fun s => (pure (value s.get) : EvalM (Option Term))) = pure N ∧
      N.WF ∧ N.solutions = (fun μ => Function.update μ v (value μ)) '' m.solutions := by
  rw [extendM_eq_bind, List.mapM_pure, pure_bind]
  refine ⟨_, rfl, hm.extendByValues v _, ?_⟩
  ext μ
  have hzip : m.entries.zip (m.entries.map fun e => value (Solution.get ⟨m.vars, e.2⟩)) =
      m.entries.map fun e => (e, value (Solution.get ⟨m.vars, e.2⟩)) := by
    rw [← List.zip_map', List.map_id']
  simp only [mem_solutions, mappings_extendByValues hm, hzip, List.map_map, Function.comp_def,
    mappings_eq_map_entries m, Set.mem_image, List.mem_map]
  constructor
  · rintro ⟨e, he, rfl⟩
    exact ⟨_, ⟨e, he, rfl⟩, rfl⟩
  · rintro ⟨_, ⟨e, he, rfl⟩, rfl⟩
    exact ⟨e, he, rfl⟩

/-- An element of blocks that list the images of a list, each in some order, is
in the image of one of its elements. -/
theorem mem_flatten_of_forall₂_perm {α β : Type} {f : α → List β} {xs : List α}
    {blocks : List (List β)} (h : List.Forall₂ (fun x block => block.Perm (f x)) xs blocks) {b : β} :
    b ∈ blocks.flatten ↔ ∃ x ∈ xs, b ∈ f x := by
  induction h with
  | nil => simp
  | cons hperm _ ih => simp [List.flatten_cons, hperm.mem_iff, ih]

/-- A computation that returns in two ways returns one thing. -/
theorem eq_of_pure_eq_pure {α : Type} {a b : α} (h : (pure a : EvalM α) = pure b) : a = b := by
  have hrun := congrArg (fun x : EvalM α => x.run 0) h
  simp only [StateT.run_pure] at hrun
  exact (Prod.mk.inj (Except.ok.inj hrun)).1

/-- **A left join whose condition is a value of the mapping joins the solution
sets**: the joins it accepts, and the left mappings none of whose joins it
accepts. -/
theorem leftJoin_pure_get {L R : Multiset} (hL : L.WF) (hR : R.WF) (keep : Mapping → Bool) :
    ∃ N : Multiset, L.leftJoin R (fun s => (pure (keep s.get) : EvalM Bool)) = pure N ∧ N.WF ∧
      N.solutions = Mapping.leftJoinSet keep L.solutions R.solutions := by
  obtain ⟨N, blocks, hN, hmap, hblocks⟩ := @leftJoin_mapping_blocks EvalM _ _ _ _ hL hR keep
  refine ⟨N, hN, ?_, ?_⟩
  · -- the same left join, its verdicts asked first
    have hverdicts := leftJoin_eq_bind (m := L) (n := R) fun s => pure (keep s.get)
    rw [hN] at hverdicts
    simp only [List.mapM_pure, pure_bind] at hverdicts
    rw [eq_of_pure_eq_pure hverdicts]
    exact hL.leftJoinByVerdicts hR _
  · ext μ
    rw [mem_solutions, hmap, mem_flatten_of_forall₂_perm hblocks, Mapping.leftJoinSet,
      Set.mem_union, Set.mem_ofPred_eq, Set.mem_ofPred_eq, Mapping.mem_joinSet]
    simp only [Mapping.mem_leftBlock, mem_solutions]
    constructor
    · rintro ⟨ν, hν, ⟨γ, hγ, hj, hkeep⟩ | ⟨rfl, hall⟩⟩
      · exact .inl ⟨⟨ν, hν, γ, hγ, hj⟩, hkeep⟩
      · exact .inr ⟨hν, hall⟩
    · rintro (⟨⟨ν, hν, γ, hγ, hj⟩, hkeep⟩ | ⟨hμ, hall⟩)
      · exact ⟨ν, hν, .inl ⟨γ, hγ, hj, hkeep⟩⟩
      · exact ⟨μ, hμ, .inr ⟨rfl, hall⟩⟩

end Multiset

end SparqlBag
