import Mathlib.Data.Set.Lattice
import SparqlBag.Proofs.Engine.Substitution
import SparqlBag.Proofs.Engine.Datasets
import SparqlBag.Proofs.Solution.Conditions

/-!
# `EXISTS` as substitution

`EXISTS p` evaluates `p` seeded with one solution `σ`; substitution evaluates `p`
with the values of `σ` put in, without a seed.  The two evaluations keep a
relation operator by operator (`Multiset.Substituted`): each solution of the
seeded one is a solution of the other with `σ` added, and `σ` binds none of the
variables of the other.  Joins, unions, filters, left joins, `extend` of a
variable `σ` leaves unbound and `GRAPH` keep it (`EvalEnv.evalWith_substituted`),
so `EXISTS` holds exactly when the substituted pattern has a solution
(`EvalEnv.exists_agrees_with_substitution`).  Under `MINUS`, and under `GRAPH` of
a variable with a value, the seed takes part in the operator and the two part
(`EvalEnv.exists_differs_from_substitution`).
-/

namespace SparqlBag

namespace Mapping

variable {σ α β μ : Mapping} {A B : Set Mapping} {v : Variable}

/-- `σ` binds none of the variables `μ` binds. -/
def Apart (σ μ : Mapping) : Prop := ∀ v, (σ v).isSome → μ v = none

theorem apart_without (σ β : Mapping) : Apart σ (without σ β) := fun v hv => by
  simp [without, hv]

theorem Apart.union (hα : Apart σ α) (hβ : Apart σ β) : Apart σ (union α β) := fun v hv => by
  rw [union_apply, hα v hv, hβ v hv]
  rfl

theorem Apart.update (h : Apart σ μ) (hv : σ v = none) (x : Option Term) :
    Apart σ (Function.update μ v x) := fun w hw => by
  have hwv : w ≠ v := fun hwv => by
    rw [hwv, hv] at hw
    cases hw
  rw [Function.update_of_ne hwv]
  exact h w hw

/-- Where a mapping apart from `σ` binds a variable, `σ` does not. -/
theorem Apart.eq_none (h : Apart σ μ) {b : Term} (hb : μ v = some b) : σ v = none := by
  cases hs : σ v with
  | none => rfl
  | some _ =>
    rw [h v (by simp [hs])] at hb
    cases hb

/-- Adding `σ` to a mapping that agrees with it changes nothing it binds. -/
theorem union_without (σ β : Mapping) : union σ (without σ β) = union σ β := by
  funext w
  cases hw : σ w <;> simp [without, hw]

theorem update_union (hv : σ v = none) (α : Mapping) (x : Option Term) :
    Function.update (union σ α) v x = union σ (Function.update α v x) := by
  funext w
  by_cases hw : w = v
  · subst hw
    simp [hv]
  · simp [Function.update_of_ne hw]

/-! ### Joins with `σ` added -/

/-- Two pairs of mappings that are compatible together, the union of the first
`f` of the union of the second, join alike up to `f`. -/
theorem join?_eq_map (f : Mapping → Mapping) {μ ν : Mapping} (hc : Compatible μ ν ↔ Compatible α β)
    (hu : union μ ν = f (union α β)) : join? μ ν = (join? α β).map f := by
  unfold join?
  by_cases h : Compatible α β
  · rw [if_pos (hc.2 h), if_pos h, hu]
    rfl
  · rw [if_neg (mt hc.1 h), if_neg h]
    rfl

/-- With `σ` added to one side, a mapping apart from `σ` joins as before, the
join with `σ` added. -/
theorem join?_union_left (hβ : Apart σ β) (α : Mapping) :
    join? (union σ α) β = (join? α β).map (union σ) := by
  -- where `β` binds a variable `σ` does not
  refine join?_eq_map _ ⟨fun h w a b ha hb => ?_, fun h w a b ha hb => ?_⟩ (union_assoc σ α β)
  · exact h w a b (by rw [union_apply, hβ.eq_none hb, Option.none_or]; exact ha) hb
  · rw [union_apply, hβ.eq_none hb, Option.none_or] at ha
    exact h w a b ha hb

/-- With `σ` added to both sides, a mapping apart from `σ` joins as before, the
join with `σ` added. -/
theorem join?_union_union (hα : Apart σ α) (β : Mapping) :
    join? (union σ α) (union σ β) = (join? α β).map (union σ) := by
  have hu : union (union σ α) (union σ β) = union σ (union α β) := by
    funext w
    cases hσ : σ w <;> simp [hσ]
  -- on the variables of `σ` both sides hold the value of `σ`; elsewhere they are `α` and `β`
  refine join?_eq_map _ ⟨fun h w a b ha hb => ?_, fun h w a b ha hb => ?_⟩ hu
  · have hσ := hα.eq_none ha
    exact h w a b (by rw [union_apply, hσ, Option.none_or]; exact ha)
      (by rw [union_apply, hσ, Option.none_or]; exact hb)
  · cases hσ : σ w with
    | none =>
      rw [union_apply, hσ, Option.none_or] at ha hb
      exact h w a b ha hb
    | some t =>
      rw [union_apply, hσ, Option.some_or] at ha hb
      exact (Option.some.inj ha).symm.trans (Option.some.inj hb)

theorem apart_of_mem_joinSet (hA : ∀ α ∈ A, Apart σ α) (hB : ∀ β ∈ B, Apart σ β)
    (hμ : μ ∈ joinSet A B) : Apart σ μ := by
  obtain ⟨α, hα, β, hβ, h⟩ := hμ
  rw [← (join?_eq_some_iff.1 h).2]
  exact (hA α hα).union (hB β hβ)

/-- Sets whose members, changed by `f` and `g`, join as before up to adding `σ`, join to
their join with `σ` added. -/
theorem joinSet_image_eq_image {f g : Mapping → Mapping}
    (h : ∀ α ∈ A, ∀ β ∈ B, join? (f α) (g β) = (join? α β).map (union σ)) :
    joinSet (f '' A) (g '' B) = union σ '' joinSet A B := by
  ext μ
  simp only [mem_joinSet, Set.mem_image]
  constructor
  · rintro ⟨_, ⟨α, hα, rfl⟩, _, ⟨β, hβ, rfl⟩, hj⟩
    rw [h α hα β hβ] at hj
    obtain ⟨ν, hν, rfl⟩ := Option.map_eq_some_iff.1 hj
    exact ⟨ν, ⟨α, hα, β, hβ, hν⟩, rfl⟩
  · rintro ⟨ν, ⟨α, hα, β, hβ, hν⟩, rfl⟩
    refine ⟨_, ⟨α, hα, rfl⟩, _, ⟨β, hβ, rfl⟩, ?_⟩
    rw [h α hα β hβ, hν]
    rfl

/-- **Sets with `σ` added join to their join with `σ` added**, the left one apart
from `σ`. -/
theorem joinSet_image_union (hA : ∀ α ∈ A, Apart σ α) :
    joinSet (union σ '' A) (union σ '' B) = union σ '' joinSet A B :=
  joinSet_image_eq_image fun α hα β _ => join?_union_union (hA α hα) β

/-- Sets with `σ` added join a set apart from `σ` to their join with `σ` added. -/
theorem joinSet_image_union_left (hB : ∀ β ∈ B, Apart σ β) :
    joinSet (union σ '' A) B = union σ '' joinSet A B :=
  calc joinSet (union σ '' A) B = joinSet (union σ '' A) (id '' B) := by rw [Set.image_id]
    _ = union σ '' joinSet A B := joinSet_image_eq_image fun α _ β hβ => join?_union_left (hB β hβ) α

/-- **A left join of sets with `σ` added**, the left one apart from `σ`, is their
left join under the condition read with `σ` added, with `σ` added. -/
theorem leftJoinSet_image_union (hA : ∀ α ∈ A, Apart σ α) (keep : Mapping → Bool) :
    leftJoinSet keep (union σ '' A) (union σ '' B) =
      union σ '' leftJoinSet (fun μ => keep (union σ μ)) A B := by
  -- a left mapping accepts no join with `σ` added exactly when it accepted none before
  have hnone : ∀ α ∈ A, (∀ β ∈ union σ '' B, ∀ μ, join? (union σ α) β = some μ → keep μ = false) ↔
      ∀ β ∈ B, ∀ μ, join? α β = some μ → keep (union σ μ) = false := by
    intro α hα
    constructor
    · intro h β hβ μ hμ
      exact h _ ⟨β, hβ, rfl⟩ _ (by rw [join?_union_union (hA α hα) β, hμ]; rfl)
    · rintro h _ ⟨β, hβ, rfl⟩ μ hμ
      rw [join?_union_union (hA α hα) β] at hμ
      obtain ⟨ν, hν, rfl⟩ := Option.map_eq_some_iff.1 hμ
      exact h β hβ ν hν
  ext μ
  rw [leftJoinSet, leftJoinSet, Set.image_union, joinSet_image_union hA]
  simp only [Set.mem_union, Set.mem_image, Set.mem_ofPred_eq]
  constructor
  · rintro (⟨⟨ν, hν, rfl⟩, hk⟩ | ⟨⟨α, hα, rfl⟩, hall⟩)
    · exact .inl ⟨ν, ⟨hν, hk⟩, rfl⟩
    · exact .inr ⟨α, ⟨hα, (hnone α hα).1 hall⟩, rfl⟩
  · rintro (⟨ν, ⟨hν, hk⟩, rfl⟩ | ⟨α, ⟨hα, hall⟩, rfl⟩)
    · exact .inl ⟨⟨ν, hν, rfl⟩, hk⟩
    · exact .inr ⟨⟨α, hα, rfl⟩, (hnone α hα).2 hall⟩

theorem sep_image_union (keep : Mapping → Bool) :
    {μ | μ ∈ union σ '' A ∧ keep μ = true} = union σ '' {α | α ∈ A ∧ keep (union σ α) = true} := by
  ext μ
  constructor
  · rintro ⟨⟨α, hα, rfl⟩, hk⟩
    exact ⟨α, ⟨hα, hk⟩, rfl⟩
  · rintro ⟨α, ⟨hα, hk⟩, rfl⟩
    exact ⟨⟨α, hα, rfl⟩, hk⟩

theorem image_update_image_union (hv : σ v = none) (value : Mapping → Option Term) :
    (fun μ => Function.update μ v (value μ)) '' (union σ '' A) =
      union σ '' ((fun α => Function.update α v (value (union σ α))) '' A) := by
  rw [Set.image_image, Set.image_image]
  exact Set.image_congr fun α _ => update_union hv α _

/-- Joining with `σ` adds `σ` to the members that agree with it, its variables
left out. -/
theorem joinSet_singleton_eq_image (σ : Mapping) (A : Set Mapping) :
    joinSet {σ} A = union σ '' substSet σ A := by
  ext μ
  simp only [mem_joinSet, Set.mem_singleton_iff, exists_eq_left, Set.mem_image, mem_substSet]
  constructor
  · rintro ⟨β, hβ, h⟩
    obtain ⟨hc, rfl⟩ := join?_eq_some_iff.1 h
    exact ⟨without σ β, ⟨β, hβ, hc, rfl⟩, union_without σ β⟩
  · rintro ⟨_, ⟨β, hβ, hc, rfl⟩, rfl⟩
    exact ⟨β, hβ, join?_eq_some_iff.2 ⟨hc, (union_without σ β).symm⟩⟩

end Mapping

/-! ## Seeded and substituted multisets -/

namespace Multiset

/-- `M'` is `M` with the values of `σ` taken out: each solution of `M` is a
solution of `M'` with `σ` added, and `σ` binds none of the variables that the
solutions of `M'` bind. -/
structure Substituted (σ : Mapping) (M M' : Multiset) : Prop where
  wf_left : M.WF
  wf_right : M'.WF
  solutions_eq : M.solutions = Mapping.union σ '' M'.solutions
  apart : ∀ μ ∈ M'.solutions, Mapping.Apart σ μ

namespace Substituted

variable {σ : Mapping} {M M' N N' : Multiset}

/-- Solutions joined with `σ`, against the same solutions with its values put in. -/
theorem of_substSet {A : Set Mapping} (hM : M.WF) (hM' : M'.WF)
    (h : M.solutions = Mapping.joinSet {σ} A) (h' : M'.solutions = Mapping.substSet σ A) :
    Substituted σ M M' where
  wf_left := hM
  wf_right := hM'
  solutions_eq := by rw [h, h', Mapping.joinSet_singleton_eq_image]
  apart μ hμ := by
    rw [h'] at hμ
    obtain ⟨β, -, -, rfl⟩ := Mapping.mem_substSet.1 hμ
    exact Mapping.apart_without σ β

theorem null : Substituted σ .null .null :=
  ⟨trivial, trivial, by simp, by simp⟩

theorem nonempty_iff (h : Substituted σ M M') : M.solutions.Nonempty ↔ M'.solutions.Nonempty := by
  rw [h.solutions_eq, Set.image_nonempty]

theorem join (hl : Substituted σ M M') (hr : Substituted σ N N') :
    Substituted σ (M.join N) (M'.join N') where
  wf_left := hl.wf_left.join hr.wf_left
  wf_right := hl.wf_right.join hr.wf_right
  solutions_eq := by
    rw [solutions_join hl.wf_left hr.wf_left, solutions_join hl.wf_right hr.wf_right,
      hl.solutions_eq, hr.solutions_eq, Mapping.joinSet_image_union hl.apart]
  apart μ hμ := by
    rw [solutions_join hl.wf_right hr.wf_right] at hμ
    exact Mapping.apart_of_mem_joinSet hl.apart hr.apart hμ

/-- Joining both with the same solutions, apart from `σ`. -/
theorem join_apart (h : Substituted σ M M') (hN : N.WF)
    (hapart : ∀ μ ∈ N.solutions, Mapping.Apart σ μ) : Substituted σ (M.join N) (M'.join N) where
  wf_left := h.wf_left.join hN
  wf_right := h.wf_right.join hN
  solutions_eq := by
    rw [solutions_join h.wf_left hN, solutions_join h.wf_right hN, h.solutions_eq,
      Mapping.joinSet_image_union_left hapart]
  apart μ hμ := by
    rw [solutions_join h.wf_right hN] at hμ
    exact Mapping.apart_of_mem_joinSet h.apart hapart hμ

theorem union (hl : Substituted σ M M') (hr : Substituted σ N N') :
    Substituted σ (M.union N) (M'.union N') where
  wf_left := hl.wf_left.union hr.wf_left
  wf_right := hl.wf_right.union hr.wf_right
  solutions_eq := by
    rw [solutions_union hl.wf_left hr.wf_left, solutions_union hl.wf_right hr.wf_right,
      hl.solutions_eq, hr.solutions_eq, Set.image_union]
  apart μ hμ := by
    rw [solutions_union hl.wf_right hr.wf_right] at hμ
    exact hμ.elim (hl.apart μ) (hr.apart μ)

/-- **A filter keeps the relation**, its condition read on the second side with
`σ` added. -/
theorem filterM (h : Substituted σ M M') (keep : Mapping → Bool) :
    ∃ K K', M.filterM (fun s => (pure (keep s.get) : EvalM Bool)) = pure K ∧
      M'.filterM (fun s => (pure (keep (Mapping.union σ s.get)) : EvalM Bool)) = pure K' ∧ Substituted σ K K' := by
  obtain ⟨K, hK, hwf, hsol⟩ := filterM_pure_get h.wf_left keep
  obtain ⟨K', hK', hwf', hsol'⟩ := filterM_pure_get h.wf_right fun μ => keep (Mapping.union σ μ)
  refine ⟨K, K', hK, hK', hwf, hwf', ?_, fun μ hμ => ?_⟩
  · rw [hsol, hsol', h.solutions_eq, Mapping.sep_image_union]
  · rw [hsol'] at hμ
    exact h.apart μ hμ.1

/-- **`extend` of a variable `σ` leaves unbound keeps the relation**, its value
read on the second side with `σ` added. -/
theorem extendM (h : Substituted σ M M') {v : Variable} (hv : σ v = none)
    (value : Mapping → Option Term) :
    ∃ K K', M.extendM v (fun s => (pure (value s.get) : EvalM (Option Term))) = pure K ∧
      M'.extendM v (fun s => (pure (value (Mapping.union σ s.get)) : EvalM (Option Term))) =
        pure K' ∧
        Substituted σ K K' := by
  obtain ⟨K, hK, hwf, hsol⟩ := extendM_pure_get h.wf_left v value
  obtain ⟨K', hK', hwf', hsol'⟩ := extendM_pure_get h.wf_right v fun μ => value (Mapping.union σ μ)
  refine ⟨K, K', hK, hK', hwf, hwf', ?_, fun μ hμ => ?_⟩
  · rw [hsol, hsol', h.solutions_eq, Mapping.image_update_image_union hv]
  · rw [hsol'] at hμ
    obtain ⟨α, hα, rfl⟩ := hμ
    exact (h.apart α hα).update hv _

/-- **A left join keeps the relation**, its condition read on the second side
with `σ` added. -/
theorem leftJoin (hl : Substituted σ M M') (hr : Substituted σ N N') (keep : Mapping → Bool) :
    ∃ K K', M.leftJoin N (fun s => (pure (keep s.get) : EvalM Bool)) = pure K ∧
      M'.leftJoin N' (fun s => (pure (keep (Mapping.union σ s.get)) : EvalM Bool)) = pure K' ∧
        Substituted σ K K' := by
  obtain ⟨K, hK, hwf, hsol⟩ := leftJoin_pure_get hl.wf_left hr.wf_left keep
  obtain ⟨K', hK', hwf', hsol'⟩ :=
    leftJoin_pure_get hl.wf_right hr.wf_right fun μ => keep (Mapping.union σ μ)
  refine ⟨K, K', hK, hK', hwf, hwf', ?_, fun μ hμ => ?_⟩
  · rw [hsol, hsol', hl.solutions_eq, hr.solutions_eq,
      Mapping.leftJoinSet_image_union hl.apart]
  · rw [hsol'] at hμ
    rcases hμ with ⟨hj, -⟩ | ⟨hα, -⟩
    · exact Mapping.apart_of_mem_joinSet hl.apart hr.apart hj
    · exact hl.apart μ hα

end Substituted

end Multiset

/-! ## Seeded and substituted runs -/

/-- Two computations that both return and leave the counter as it was, with
multisets the second of which is the first with the values of `σ` taken out. -/
def ReturnsSubstituted (σ : Mapping) (x x' : EvalM Multiset) : Prop :=
  ∀ st, ∃ M M', x.run st = .ok (M, st) ∧ x'.run st = .ok (M', st) ∧ M.Substituted σ M'

namespace ReturnsSubstituted

variable {σ : Mapping} {x x' : EvalM Multiset}

theorem pure {M M' : Multiset} (h : M.Substituted σ M') : ReturnsSubstituted σ (pure M) (pure M') :=
  fun _ => ⟨M, M', rfl, rfl, h⟩

theorem of_eq_pure {K K' : Multiset} (hx : x = Pure.pure K) (hx' : x' = Pure.pure K')
    (h : K.Substituted σ K') :
    ReturnsSubstituted σ x x' := by
  subst hx hx'
  exact .pure h

theorem bind (h : ReturnsSubstituted σ x x') {f f' : Multiset → EvalM Multiset}
    (hf : ∀ M M', M.Substituted σ M' → ReturnsSubstituted σ (f M) (f' M')) :
    ReturnsSubstituted σ (x >>= f) (x' >>= f') := fun st => by
  obtain ⟨M, M', hM, hM', hMM⟩ := h st
  obtain ⟨N, N', hN, hN', hNN⟩ := hf M M' hMM st
  refine ⟨N, N', ?_, ?_, hNN⟩
  · rw [run_bind, hM]
    exact hN
  · rw [run_bind, hM']
    exact hN'

/-- After the deadline check of an environment whose deadline is not zero. -/
theorem afterDeadline {env env' : EvalEnv} (htime : env.options.timeout ≠ some 0)
    (hoptions : env'.options = env.options) (h : ReturnsSubstituted σ x x') :
    ReturnsSubstituted σ (env.checkDeadline >>= fun _ => x) (env'.checkDeadline >>= fun _ => x') :=
  fun st => by
  obtain ⟨M, M', hM, hM', hMM⟩ := h st
  have htime' : env'.options.timeout ≠ some 0 := hoptions ▸ htime
  refine ⟨M, M', ?_, ?_, hMM⟩
  · rw [run_bind, EvalEnv.checkDeadline_run htime]
    exact hM
  · rw [run_bind, EvalEnv.checkDeadline_run htime']
    exact hM'

/-- A fold whose steps keep the relation keeps it. -/
theorem foldlM {α : Type} {f f' : Multiset → α → EvalM Multiset}
    (hstep : ∀ acc acc' a, acc.Substituted σ acc' → ReturnsSubstituted σ (f acc a) (f' acc' a)) :
    ∀ (as : List α) {acc acc' : Multiset}, acc.Substituted σ acc' →
      ReturnsSubstituted σ (as.foldlM f acc) (as.foldlM f' acc')
  | [], _, _, h => ReturnsSubstituted.pure h
  | a :: as, _, _, h => by
    simp only [List.foldlM_cons]
    exact (hstep _ _ a h).bind fun _ _ hM => foldlM hstep as hM

/-- A filter after both computations, its condition a value of the mapping, read on
the second side with `σ` added. -/
theorem filterM (h : ReturnsSubstituted σ x x') (keep : Mapping → Bool) :
    ReturnsSubstituted σ (x >>= fun M => M.filterM fun s => (Pure.pure (keep s.get) : EvalM Bool))
      (x' >>= fun M' =>
        M'.filterM fun s => (Pure.pure (keep (Mapping.union σ s.get)) : EvalM Bool)) :=
  h.bind fun _ _ hM => by
    obtain ⟨K, K', hK, hK', hKK⟩ := hM.filterM keep
    exact .of_eq_pure hK hK' hKK

/-- `extend` of a variable `σ` leaves unbound after both computations, its value a
value of the mapping, read on the second side with `σ` added. -/
theorem extendM (h : ReturnsSubstituted σ x x') {v : Variable} (hv : σ v = none)
    (value : Mapping → Option Term) :
    ReturnsSubstituted σ
      (x >>= fun M => M.extendM v fun s => (Pure.pure (value s.get) : EvalM (Option Term)))
      (x' >>= fun M' =>
        M'.extendM v fun s => (Pure.pure (value (Mapping.union σ s.get)) : EvalM (Option Term))) :=
  h.bind fun _ _ hM => by
    obtain ⟨K, K', hK, hK', hKK⟩ := hM.extendM hv value
    exact .of_eq_pure hK hK' hKK

/-- A left join of the results of two pairs of computations, its condition a value
of the mapping, read on the second side with `σ` added. -/
theorem leftJoin {y y' : EvalM Multiset} (hl : ReturnsSubstituted σ x x')
    (hr : ReturnsSubstituted σ y y') (keep : Mapping → Bool) :
    ReturnsSubstituted σ
      (x >>= fun L => y >>= fun R => L.leftJoin R fun s => (Pure.pure (keep s.get) : EvalM Bool))
      (x' >>= fun L' => y' >>= fun R' =>
        L'.leftJoin R' fun s => (Pure.pure (keep (Mapping.union σ s.get)) : EvalM Bool)) :=
  hl.bind fun _ _ hL => hr.bind fun _ _ hR => by
    obtain ⟨K, K', hK, hK', hKK⟩ := hL.leftJoin hR keep
    exact .of_eq_pure hK hK' hKK

end ReturnsSubstituted

namespace GraphPattern

/-- The active graphs in which the basic graph patterns and paths of a pattern
match, from `active` at the top: `GRAPH` moves to its graph, or to each graph
for a variable. -/
def leafGraphs (active : ActiveGraph) : GraphPattern → Set ActiveGraph
  | .bgp _ | .path _ _ _ => {active}
  | .join l r | .leftJoin l r _ | .union l r | .minus l r =>
    l.leafGraphs active ∪ r.leafGraphs active
  | .filter _ q | .extend q _ _ | .orderBy q _ | .project q _ | .distinct q | .reduced q
  | .slice q _ _ | .group q _ _ => q.leafGraphs active
  | .graph (.iri n) q => q.leafGraphs (.named (.iri n))
  | .graph (.var _) q => ⋃ g, q.leafGraphs (.named g)
  | .values _ _ | .service _ _ _ => ∅

end GraphPattern

namespace EvalEnv

/-- An environment that evaluates the pattern of an `EXISTS` seeded with the one
solution `σ`: the deadline is not zero, the values of `σ` can be put into term
patterns, and the seed is well formed with `σ` its one solution. -/
structure SeededWith (env : EvalEnv) (σ : Mapping) : Prop where
  timeout : env.options.timeout ≠ some 0
  substitutable : σ.Substitutable env.options.blankNodeMode
  seed_wf : ∀ m, env.seed = some m → m.WF
  seed_solutions : (env.seed.getD .identity).solutions = {σ}

variable {env : EvalEnv} {σ : Mapping}

theorem SeededWith.withActive (h : env.SeededWith σ) (a : ActiveGraph) :
    ({ env with active := a } : EvalEnv).SeededWith σ :=
  ⟨h.timeout, h.substitutable, h.seed_wf, h.seed_solutions⟩

theorem SeededWith.seedIsSingle (h : env.SeededWith σ) : env.SeedIsSingle := fun m hm =>
  ⟨h.seed_wf m hm, σ, by simpa only [hm, Option.getD_some] using h.seed_solutions⟩

variable (inner : EvalEnv → GraphPattern → EvalM Multiset)

/-- A condition that is a value of the mapping, asked of each solution. -/
theorem isTrue_eq_pure {e : Expression} {F : Mapping → ExprValue}
    (hF : ∀ sc : Scope, e.eval env.call sc = pure (F sc.solution.get)) :
    (fun s => env.isTrue inner s e) = fun s => pure ((F s.get).ebv == some true) := by
  funext s
  simp only [isTrue, hF, pure_bind]
  rfl

/-- The value of `extend`, a value of the mapping, computed for each solution. -/
theorem extendValue_eq_pure {e : Expression} {F : Mapping → ExprValue}
    (hF : ∀ sc : Scope, e.eval env.call sc = pure (F sc.solution.get)) :
    (fun s => (do return (← e.eval env.call (env.scope inner s)).term? : EvalM (Option Term))) =
      fun s => pure ((F s.get).term?) := by
  funext s
  simp only [hF, pure_bind]
  rfl

/-- The empty multiset `GRAPH ?v` starts from. -/
theorem substituted_empty_bag (v : Variable) :
    (Multiset.bag (Bag.empty [v])).Substituted σ (.bag (Bag.empty [v])) := by
  have hwf : (Multiset.bag (Bag.empty [v])).WF := ⟨List.nodup_singleton v, by simp [Bag.empty]⟩
  have hnone : (Multiset.bag (Bag.empty [v])).solutions = ∅ := by
    ext μ
    simp [Bag.empty]
  exact ⟨hwf, hwf, by rw [hnone, Set.image_empty], by simp [hnone]⟩

/-- The graph `GRAPH ?v` binds, apart from a `σ` that leaves `?v` unbound. -/
theorem apart_ofRows_graph {v : Variable} (hv : σ v = none) (g : Term) :
    ∀ μ ∈ (Multiset.ofRows [v] [[some g]]).solutions, Mapping.Apart σ μ := by
  intro μ hμ w hw
  obtain ⟨r, hr, rfl⟩ := Multiset.mem_solutions_ofRows.1 hμ
  rw [List.mem_singleton] at hr
  subst hr
  have hwv : v ≠ w := fun hvw => by
    rw [← hvw, hv] at hw
    cases hw
  rw [Solution.get_cons, if_neg hwv]
  rfl

variable (inner' : EvalEnv → GraphPattern → EvalM Multiset) {vs : List Variable}

/-- A condition into which `σ` can be put is a value of the mapping, seeded with `σ`
or with its values put in. -/
theorem isTrue_subst_eq_pure (hvs : ∀ v, σ v ≠ none → v ∈ vs) {e : Expression}
    (he : e.substitutable σ = true) :
    ∃ keep : Mapping → Bool, (fun s => env.isTrue inner s e) = (fun s => pure (keep s.get)) ∧
      (fun s => ({ env with seed := none } : EvalEnv).isTrue inner' s (e.subst σ)) =
        fun s => pure (keep (Mapping.union σ s.get)) := by
  obtain ⟨F, hF, hF'⟩ := Expression.exists_eval_subst_eq_pure_get env.call hvs he
  exact ⟨fun μ => (F μ).ebv == some true, isTrue_eq_pure inner hF,
    @isTrue_eq_pure { env with seed := none } inner' _ (fun μ => F (Mapping.union σ μ)) hF'⟩

/-- The value of an `extend` into which `σ` can be put is a value of the mapping,
seeded with `σ` or with its values put in. -/
theorem extendValue_subst_eq_pure (hvs : ∀ v, σ v ≠ none → v ∈ vs) {e : Expression}
    (he : e.substitutable σ = true) :
    ∃ value : Mapping → Option Term,
      (fun s => (do return (← e.eval env.call (env.scope inner s)).term? : EvalM (Option Term))) =
        (fun s => pure (value s.get)) ∧
      (fun s => (do return (← (e.subst σ).eval env.call
          (({ env with seed := none } : EvalEnv).scope inner' s)).term? : EvalM (Option Term))) =
        fun s => pure (value (Mapping.union σ s.get)) := by
  obtain ⟨F, hF, hF'⟩ := Expression.exists_eval_subst_eq_pure_get env.call hvs he
  exact ⟨fun μ => (F μ).term?, extendValue_eq_pure inner hF,
    @extendValue_eq_pure { env with seed := none } inner' _ (fun μ => F (Mapping.union σ μ)) hF'⟩

/-- **Seeding with `σ` against putting in its values, operator by operator**: for
a pattern `p'` that is `p` with the values of `σ` put in, evaluating `p` seeded
with `σ` and `p'` without a seed both return and leave the counter alone, and the
second result is the first with `σ` taken out; for graphs without literal
subjects where `p` matches, and a `σ` that binds only variables of `vs`. -/
theorem evalWith_substituted (hvs : ∀ v, σ v ≠ none → v ∈ vs) {p p' : GraphPattern}
    (hsub : p.Substitutes σ p') :
    ∀ env : EvalEnv, env.SeededWith σ →
      (∀ a ∈ p.leafGraphs env.active, (⟨env.dataset, a⟩ : Graphs).NoLiteralSubjects) →
      ReturnsSubstituted σ (env.evalWith inner p)
        (({ env with seed := none } : EvalEnv).evalWith inner' p') := by
  induction hsub with
  | @bgp ts ts' hts =>
    intro env hS hlit
    have hgraphs : env.graphs.NoLiteralSubjects := hlit env.active (Set.mem_singleton _)
    obtain ⟨hwf, hsol⟩ := env.solutions_evalBgp hgraphs hS.seed_wf ts
    obtain ⟨hwf', hsol'⟩ :=
      ({ env with seed := none } : EvalEnv).solutions_evalBgp hgraphs (fun _ h => by cases h) ts'
    have hsubst : ({ env with seed := none } : EvalEnv).bgpSolutions ts' =
        Mapping.substSet σ (env.bgpSolutions ts) :=
      bgpSolutions_subst hS.substitutable hts
    rw [Option.getD_none, Multiset.solutions_identity, Mapping.singleton_empty_joinSet, hsubst] at hsol'
    rw [hS.seed_solutions] at hsol
    simp only [evalWith]
    exact .afterDeadline hS.timeout rfl (.pure (.of_substSet hwf hwf' hsol hsol'))
  | @path s q o hq =>
    intro env hS hlit
    have hgraphs : env.graphs.NoLiteralSubjects := hlit env.active (Set.mem_singleton _)
    have hwfp := env.graphs.wf_evalPath env.options.blankNodeMode s q o
    obtain ⟨hwf, hsol⟩ := solutions_withSeed hS.seedIsSingle hwfp
    rw [hS.seed_solutions] at hsol
    simp only [evalWith]
    exact .afterDeadline hS.timeout rfl (.pure (.of_substSet hwf (env.graphs.wf_evalPath _ _ _ _) hsol
      (Graphs.solutions_evalPath_subst hgraphs hS.substitutable hq s o)))
  | join _ _ ihl ihr =>
    intro env hS hlit
    simp only [evalWith]
    exact .afterDeadline hS.timeout rfl <|
      (ihl env hS fun a ha => hlit a (Set.mem_union_left _ ha)).bind fun _ _ hl =>
        (ihr env hS fun a ha => hlit a (Set.mem_union_right _ ha)).bind fun _ _ hr =>
          .pure (hl.join hr)
  | union _ _ ihl ihr =>
    intro env hS hlit
    simp only [evalWith]
    exact .afterDeadline hS.timeout rfl <|
      (ihl env hS fun a ha => hlit a (Set.mem_union_left _ ha)).bind fun _ _ hl =>
        (ihr env hS fun a ha => hlit a (Set.mem_union_right _ ha)).bind fun _ _ hr =>
          .pure (hl.union hr)
  | @leftJoin l r l' r' c _ _ hc ihl ihr =>
    intro env hS hlit
    have hl := ihl env hS fun a ha => hlit a (Set.mem_union_left _ ha)
    have hr := ihr env hS fun a ha => hlit a (Set.mem_union_right _ ha)
    -- without a condition every join is kept; a condition is a value of the mapping
    cases c with
    | none =>
      simp only [evalWith, Option.map_none]
      exact .afterDeadline hS.timeout rfl (hl.leftJoin hr fun _ => true)
    | some e =>
      obtain ⟨keep, hk, hk'⟩ := isTrue_subst_eq_pure inner inner' hvs hc
      simp only [evalWith, Option.map_some]
      rw [hk, hk']
      exact .afterDeadline hS.timeout rfl (hl.leftJoin hr keep)
  | filter he _ ih =>
    intro env hS hlit
    obtain ⟨keep, hk, hk'⟩ := isTrue_subst_eq_pure inner inner' hvs he
    simp only [evalWith]
    rw [hk, hk']
    exact .afterDeadline hS.timeout rfl ((ih env hS hlit).filterM keep)
  | extend _ hv he ih =>
    intro env hS hlit
    obtain ⟨value, hx, hx'⟩ := extendValue_subst_eq_pure inner inner' hvs he
    simp only [evalWith]
    rw [hx, hx']
    exact .afterDeadline hS.timeout rfl ((ih env hS hlit).extendM hv value)
  | graphIri n _ ih =>
    intro env hS hlit
    rw [evalWith_graph_iri, evalWith_graph_iri]
    refine .afterDeadline hS.timeout rfl ?_
    -- both sides see the same `FROM NAMED`
    by_cases hnamed : env.namedGraphs.any (!·.contains (.iri n)) = true
    · rw [if_pos hnamed, if_pos hnamed]
      exact .pure .null
    · rw [if_neg hnamed, if_neg hnamed]
      exact ih { env with active := .named (.iri n) } (hS.withActive _) hlit
  | @graphVar v q q' hv _ ih =>
    intro env hS hlit
    rw [evalWith_graph_var, evalWith_graph_var]
    refine .afterDeadline hS.timeout rfl ?_
    unfold overGraphs
    -- each graph adds the solutions inside it, with the graph bound
    refine ReturnsSubstituted.foldlM (fun acc acc' g hacc => ?_) _ (substituted_empty_bag v)
    exact (ih { env with active := .named g } (hS.withActive _) fun a ha =>
      hlit a (Set.mem_iUnion.2 ⟨g, ha⟩)).bind fun _ _ hM =>
      .pure (hacc.union (hM.join_apart (Multiset.wf_ofRows (List.nodup_singleton v) _)
        (apart_ofRows_graph hv g)))

/-! ## `EXISTS` -/

/-- The values `EXISTS p` reads bind only variables of the solution. -/
theorem mem_vars_of_outerValues {sol : Solution} {p : GraphPattern} {v : Variable}
    (h : sol.outerValues p v ≠ none) : v ∈ sol.vars := by
  unfold Solution.outerValues at h
  split_ifs at h
  · exact Solution.mem_vars_of_get_ne_none h
  · exact absurd rfl h

/-- The values of a solution without blank nodes, or in a mode where blank
nodes match exactly, can be put into the pattern. -/
theorem substitutable_outerValues {sol : Solution} (p : GraphPattern)
    (hblank : env.options.blankNodeMode = .hiddenVariable →
      ∀ x ∈ sol.values, ∀ t ∈ x, t.isBlank = false) :
    (sol.outerValues p).Substitutable env.options.blankNodeMode where
  hidden v hv := by simp [Solution.outerValues, hv]
  blank hmode v t h := by
    simp only [Solution.outerValues] at h
    split at h
    · exact hblank hmode _ (Solution.mem_values_of_get h) t rfl
    · cases h

/-- Asking whether the result of a computation is empty, when it succeeds with a
multiset and leaves the counter alone. -/
theorem run_not_isEmpty {x : EvalM Multiset} {M : Multiset} {st : Nat} (h : x.run st = .ok (M, st)) :
    (do return !(← x).isEmpty : EvalM Bool).run st = .ok (!M.isEmpty, st) := by
  rw [run_bind, h]
  rfl

/-- **`EXISTS` is decided by substitution**: in graphs without literal subjects,
when the deadline is not zero, for a solution that names each variable once,
`EXISTS p` holds exactly when `p` with the values of the visible variables it
mentions put in has a solution, evaluated without a seed.  The pattern is built
by joins, unions, left joins, filters, `extend` of an unbound variable and
`GRAPH` of an IRI or of an unbound variable from basic graph patterns and paths
that take an edge; its conditions read nothing but the solution, its predicates
take IRIs, and the solution holds no blank node unless blank nodes match
exactly. -/
theorem exists_agrees_with_substitution (fuel : Nat) (htime : env.options.timeout ≠ some 0)
    {sol : Solution} (hsol : sol.vars.Nodup) {p p' : GraphPattern}
    (hlit : ∀ a ∈ p.leafGraphs env.active, (⟨env.dataset, a⟩ : Graphs).NoLiteralSubjects)
    (hsub : p.Substitutes (sol.outerValues p) p')
    (hblank : env.options.blankNodeMode = .hiddenVariable →
      ∀ x ∈ sol.values, ∀ t ∈ x, t.isBlank = false) (st : Nat) :
    ((env.scope (evalAt (fuel + 1)) sol).patternExists p).run st =
      (do return !(← ({ env with seed := none } : EvalEnv).eval p').isEmpty : EvalM Bool).run st := by
  obtain ⟨hwf, hseed⟩ := existsSeed_spec hsol p
  have hS : ({ env with seed := existsSeed sol p } : EvalEnv).SeededWith (sol.outerValues p) :=
    ⟨htime, substitutable_outerValues p hblank, hwf, hseed⟩
  obtain ⟨M, M', hM, hM', hMM⟩ := evalWith_substituted (evalAt fuel) (evalAt p'.existsDepth)
    (fun _ => mem_vars_of_outerValues) hsub _ hS hlit st
  have hlhs : ((env.scope (evalAt (fuel + 1)) sol).patternExists p).run st = .ok (!M.isEmpty, st) :=
    run_not_isEmpty hM
  have hrhs : (do return !(← ({ env with seed := none } : EvalEnv).eval p').isEmpty : EvalM Bool).run st =
      .ok (!M'.isEmpty, st) :=
    run_not_isEmpty hM'
  -- the seeded solutions are the substituted ones with the values added
  have hsame : M.isEmpty = M'.isEmpty := by
    rw [Bool.eq_iff_iff, ← Bool.not_eq_false, ← Bool.not_eq_false M'.isEmpty,
      Multiset.isEmpty_eq_false_iff, Multiset.isEmpty_eq_false_iff]
    exact not_congr hMM.nonempty_iff
  rw [hlhs, hrhs, hsame]

/-- `EXISTS { ?x <p> ?y2 OPTIONAL { ?x <q> ?z } FILTER (?y2 = ?y) BIND (?x AS ?w) }`
over `<a> <p> <b>` and `<a> <q> <c>`, in the solution `?x = <a>, ?y = <b>`, and the
pattern with `<a>` put in for `?x` and `<b>` for `?y`. -/
theorem exists_agrees_with_substitution_under_filter :
    let env : EvalEnv := ⟨⟨[⟨.iri "http://ex/a", "http://ex/p", .iri "http://ex/b", .default⟩,
      ⟨.iri "http://ex/a", "http://ex/q", .iri "http://ex/c", .default⟩], []⟩, {}, {}, none, .default, none⟩
    let sol : Solution := ⟨[⟨"x"⟩, ⟨"y"⟩], [some (.iri "http://ex/a"), some (.iri "http://ex/b")]⟩
    let p : GraphPattern := .extend (.filter (.equal (.var ⟨"y2"⟩) (.var ⟨"y"⟩))
      (.leftJoin (.bgp [⟨.var ⟨"x"⟩, .iri "http://ex/p", .var ⟨"y2"⟩⟩])
        (.path (.var ⟨"x"⟩) (.iri "http://ex/q") (.var ⟨"z"⟩)) none)) ⟨"w"⟩ (.var ⟨"x"⟩)
    let p' : GraphPattern := .extend (.filter (.equal (.var ⟨"y2"⟩) (.iri "http://ex/b"))
      (.leftJoin (.bgp [⟨.term (.iri "http://ex/a"), .iri "http://ex/p", .var ⟨"y2"⟩⟩])
        (.path (.term (.iri "http://ex/a")) (.iri "http://ex/q") (.var ⟨"z"⟩)) none))
      ⟨"w"⟩ (.iri "http://ex/a")
    env.options.timeout ≠ some 0 ∧ sol.vars.Nodup ∧
      (∀ a ∈ p.leafGraphs env.active, (⟨env.dataset, a⟩ : Graphs).NoLiteralSubjects) ∧
      p.Substitutes (sol.outerValues p) p' ∧
      (env.options.blankNodeMode = .hiddenVariable → ∀ x ∈ sol.values, ∀ t ∈ x, t.isBlank = false) ∧
      ((env.scope (evalAt 1) sol).patternExists p).run 0 =
        (do return !(← ({ env with seed := none } : EvalEnv).eval p').isEmpty : EvalM Bool).run 0 := by
  intro env sol p p'
  have htime : env.options.timeout ≠ some 0 := by decide
  have hsol : sol.vars.Nodup := by decide
  have hlit : ∀ a ∈ p.leafGraphs env.active, (⟨env.dataset, a⟩ : Graphs).NoLiteralSubjects :=
    fun a _ => Graphs.noLiteralSubjects_of_quads (by decide) a
  have hsub : p.Substitutes (sol.outerValues p) p' :=
    .extend (.filter rfl (.leftJoin (.bgp (.cons rfl .nil)) (.path _ _ rfl) rfl)) rfl rfl
  have hblank : env.options.blankNodeMode = .hiddenVariable →
      ∀ x ∈ sol.values, ∀ t ∈ x, t.isBlank = false := fun _ => by decide
  exact ⟨htime, hsol, hlit, hsub, hblank,
    exists_agrees_with_substitution 0 htime hsol hlit hsub hblank 0⟩

/-- **Under `MINUS`, and under `GRAPH` of a variable with a value, the seed parts
`EXISTS` from substitution.**  Over the triples `<a> <p> <b>` and `<a> <q> <c>`, in
the solution `?x = <a>, ?y = <b>`, the pattern `{ ?x <p> ?y2 MINUS { ?x <q> ?z } }`
does not exist: seeded with `?x = <a>`, both sides of the `MINUS` bind `?x`, and
the left solution is removed.  With `<a>` put in for `?x` in both sides, they
share no variable, `MINUS` removes nothing, and the pattern has one solution.
Over no data, in the solution `?g = <a>`, `GRAPH ?g { }` does not exist: there is
no named graph to range over.  `GRAPH <a> { }` has a solution: without
`FROM NAMED` every graph name is available, the empty one included. -/
theorem exists_differs_from_substitution :
    let env : EvalEnv := ⟨⟨[⟨.iri "http://ex/a", "http://ex/p", .iri "http://ex/b", .default⟩,
      ⟨.iri "http://ex/a", "http://ex/q", .iri "http://ex/c", .default⟩], []⟩, {}, {}, none, .default, none⟩
    let sol : Solution := ⟨[⟨"x"⟩, ⟨"y"⟩], [some (.iri "http://ex/a"), some (.iri "http://ex/b")]⟩
    let left : TriplePattern := ⟨.var ⟨"x"⟩, .iri "http://ex/p", .var ⟨"y2"⟩⟩
    let right : TriplePattern := ⟨.var ⟨"x"⟩, .iri "http://ex/q", .var ⟨"z"⟩⟩
    let p : GraphPattern := .minus (.bgp [left]) (.bgp [right])
    let empty : EvalEnv := ⟨⟨[], []⟩, {}, {}, none, .default, none⟩
    let named : Solution := ⟨[⟨"g"⟩], [some (.iri "http://ex/a")]⟩
    let q : GraphPattern := .graph (.var ⟨"g"⟩) (.bgp [])
    left.subst? (sol.outerValues p) = some ⟨.term (.iri "http://ex/a"), .iri "http://ex/p", .var ⟨"y2"⟩⟩ ∧
      right.subst? (sol.outerValues p) = some ⟨.term (.iri "http://ex/a"), .iri "http://ex/q", .var ⟨"z"⟩⟩ ∧
      ((env.scope (evalAt 1) sol).patternExists p).run' 0 = .ok false ∧
      ((({ env with seed := none } : EvalEnv).eval
        (.minus (.bgp [⟨.term (.iri "http://ex/a"), .iri "http://ex/p", .var ⟨"y2"⟩⟩])
          (.bgp [⟨.term (.iri "http://ex/a"), .iri "http://ex/q", .var ⟨"z"⟩⟩]))).run' 0).map
        Multiset.size = .ok 1 ∧
      named.outerValues q ⟨"g"⟩ = some (.iri "http://ex/a") ∧
      ((empty.scope (evalAt 1) named).patternExists q).run' 0 = .ok false ∧
      ((({ empty with seed := none } : EvalEnv).eval (.graph (.iri "http://ex/a") (.bgp []))).run' 0).map
        Multiset.size = .ok 1 :=
  ⟨rfl, rfl, rfl, rfl, rfl, rfl, rfl⟩

end EvalEnv

end SparqlBag
