import Mathlib.Data.Set.Image
import SparqlBag.Proofs.Solution.Operations

/-!
# Solution sets

With set semantics, the mappings of a multiset form a set.  Two sets of mappings
join to the unions of their compatible pairs; the join is associative and
commutative (`Mapping.joinSet_assoc`, `Mapping.joinSet_comm`), has the empty
mapping as unit and distributes over union.  `join`, `union` and `project` of
multisets compute the join, the union and the restriction of the solution sets of
their inputs (`Multiset.solutions_join`, `Multiset.solutions_union`,
`Multiset.solutions_project`).
-/

namespace SparqlBag

namespace Mapping

/-- The join of two sets of mappings: the unions of their compatible pairs. -/
def joinSet (A B : Set Mapping) : Set Mapping :=
  {μ | ∃ α ∈ A, ∃ β ∈ B, join? α β = some μ}

variable {A B C : Set Mapping} {μ : Mapping}

@[simp] theorem mem_joinSet : μ ∈ joinSet A B ↔ ∃ α ∈ A, ∃ β ∈ B, join? α β = some μ := Iff.rfl

theorem mem_joinAll {M N : List Mapping} :
    μ ∈ joinAll M N ↔ ∃ α ∈ M, ∃ β ∈ N, join? α β = some μ := by
  simp [joinAll]

theorem joinSet_comm (A B : Set Mapping) : joinSet A B = joinSet B A := by
  ext μ
  constructor <;>
  · rintro ⟨α, hα, β, hβ, h⟩
    exact ⟨β, hβ, α, hα, by rwa [join?_comm]⟩

theorem joinSet_assoc (A B C : Set Mapping) :
    joinSet (joinSet A B) C = joinSet A (joinSet B C) := by
  ext μ
  constructor
  · rintro ⟨αβ, ⟨α, hα, β, hβ, h₁⟩, γ, hγ, h₂⟩
    have h : (join? β γ).bind (join? α ·) = some μ := by
      rw [← join?_assoc, h₁]
      exact h₂
    obtain ⟨βγ, h₃, h₄⟩ := Option.bind_eq_some_iff.1 h
    exact ⟨α, hα, βγ, ⟨β, hβ, γ, hγ, h₃⟩, h₄⟩
  · rintro ⟨α, hα, βγ, ⟨β, hβ, γ, hγ, h₁⟩, h₂⟩
    have h : (join? α β).bind (join? · γ) = some μ := by
      rw [join?_assoc, h₁]
      exact h₂
    obtain ⟨αβ, h₃, h₄⟩ := Option.bind_eq_some_iff.1 h
    exact ⟨αβ, ⟨α, hα, β, hβ, h₃⟩, γ, hγ, h₄⟩

@[simp] theorem singleton_empty_joinSet (A : Set Mapping) : joinSet {empty} A = A := by
  ext μ
  simp

@[simp] theorem joinSet_singleton_empty (A : Set Mapping) : joinSet A {empty} = A := by
  rw [joinSet_comm, singleton_empty_joinSet]

@[simp] theorem emptyset_joinSet (A : Set Mapping) : joinSet ∅ A = ∅ := by
  ext μ
  simp

@[simp] theorem joinSet_emptyset (A : Set Mapping) : joinSet A ∅ = ∅ := by
  rw [joinSet_comm, emptyset_joinSet]

theorem joinSet_union_left (A B C : Set Mapping) :
    joinSet (A ∪ B) C = joinSet A C ∪ joinSet B C := by
  ext μ
  simp only [mem_joinSet, Set.mem_union]
  constructor
  · rintro ⟨α, hα | hα, β, hβ, h⟩
    · exact .inl ⟨α, hα, β, hβ, h⟩
    · exact .inr ⟨α, hα, β, hβ, h⟩
  · rintro (⟨α, hα, β, hβ, h⟩ | ⟨α, hα, β, hβ, h⟩)
    · exact ⟨α, .inl hα, β, hβ, h⟩
    · exact ⟨α, .inr hα, β, hβ, h⟩

theorem joinSet_union_right (A B C : Set Mapping) :
    joinSet A (B ∪ C) = joinSet A B ∪ joinSet A C := by
  rw [joinSet_comm, joinSet_union_left, joinSet_comm B, joinSet_comm C]

/-- A single mapping joined with itself is itself. -/
theorem joinSet_singleton_self (σ : Mapping) : joinSet {σ} {σ} = {σ} := by
  ext μ
  simp [join?_self, eq_comm]

/-- Joining both sides with one mapping joins their join with it once. -/
theorem joinSet_singleton_joinSet (σ : Mapping) (A B : Set Mapping) :
    joinSet (joinSet {σ} A) (joinSet {σ} B) = joinSet {σ} (joinSet A B) := by
  calc joinSet (joinSet {σ} A) (joinSet {σ} B)
      = joinSet (joinSet {σ} {σ}) (joinSet A B) := by
        rw [joinSet_assoc, ← joinSet_assoc A, joinSet_comm A {σ}, joinSet_assoc {σ} A B,
          ← joinSet_assoc]
    _ = joinSet {σ} (joinSet A B) := by rw [joinSet_singleton_self]

/-- Joining one set after another onto `A` joins `A` with their join. -/
theorem foldl_joinSet {α : Type} (F : α → Set Mapping) (xs : List α) (A : Set Mapping) :
    xs.foldl (fun A x => joinSet A (F x)) A =
      joinSet A (xs.foldl (fun A x => joinSet A (F x)) {empty}) := by
  induction xs generalizing A with
  | nil => simp
  | cons x xs ih =>
    rw [List.foldl_cons, List.foldl_cons, ih, ih (joinSet {empty} (F x)), singleton_empty_joinSet,
      joinSet_assoc]

end Mapping

namespace Multiset

variable {m n : Multiset} {μ : Mapping}

/-- The solutions of a multiset, as a set of mappings. -/
def solutions (m : Multiset) : Set Mapping := {μ | μ ∈ m.mappings}

@[simp] theorem mem_solutions : μ ∈ m.solutions ↔ μ ∈ m.mappings := Iff.rfl

@[simp] theorem solutions_identity : identity.solutions = {Mapping.empty} := by
  ext μ
  simp [mappings]

@[simp] theorem solutions_null : null.solutions = ∅ := by
  ext μ
  simp [mappings]

theorem mem_solutions_ofRows {vars : List Variable} {rows : List Row} :
    μ ∈ (ofRows vars rows).solutions ↔ ∃ r ∈ rows, Solution.get ⟨vars, r⟩ = μ := by
  simp [mappings_ofRows]

/-- **A join of multisets joins their solution sets.** -/
theorem solutions_join (hm : WF m) (hn : WF n) :
    (m.join n).solutions = Mapping.joinSet m.solutions n.solutions := by
  cases m with
  | identity => simp
  | null => simp
  | bag l =>
    cases n with
    | identity => simp
    | null => simp
    | bag r =>
      ext μ
      rw [mem_solutions, (mappings_join_bag hm hn).mem_iff, Mapping.mem_joinAll]
      rfl

/-- **A union of multisets is the union of their solution sets.** -/
theorem solutions_union (hm : WF m) (hn : WF n) :
    (m.union n).solutions = m.solutions ∪ n.solutions := by
  ext μ
  simp [mappings_union hm hn]

/-- **A projection restricts every solution.** -/
theorem solutions_project (m : Multiset) (vars : List Variable) :
    (m.project vars).solutions = Mapping.restrict vars '' m.solutions := by
  ext μ
  simp [mappings_project]

end Multiset

end SparqlBag
