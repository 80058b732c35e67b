import SparqlBag.Proofs.Solution.Operations

/-!
# The laws of the join

Read through the mappings of their solutions, multisets join as lists of partial
maps do (`Multiset.mappings_join`).  Up to the order of the solutions the join is
associative and commutative for bags that name each variable once, and the
identity is its unit and the empty multiset its zero for every multiset
(`Multiset.join_laws`).  A bag that names a variable twice is no set of partial
maps: the join compares the left value of a shared variable with every right
column of it but never a left bag's second column, so joining such a bag on either
side counts differently (`join_not_comm_of_repeated_variable`).
-/

namespace SparqlBag

namespace Multiset

variable {A B C : Multiset}

/-- A multiset has one mapping per solution. -/
@[simp] theorem length_mappings (m : Multiset) : m.mappings.length = m.size := by
  cases m <;> simp [mappings, size]

/-- **The join of two multisets joins their mappings**, as a nested loop, up to
the order of the result. -/
theorem mappings_join (hA : A.WF) (hB : B.WF) :
    (A.join B).mappings.Perm (Mapping.joinAll A.mappings B.mappings) := by
  cases A with
  | identity => simp [mappings]
  | null => simp [mappings]
  | bag l =>
    cases B with
    | identity => simp [mappings]
    | null => simp [mappings, Mapping.joinAll]
    | bag r => exact mappings_join_bag hA hB

theorem join_assoc_mappings (hA : A.WF) (hB : B.WF) (hC : C.WF) :
    ((A.join B).join C).mappings.Perm (A.join (B.join C)).mappings :=
  calc ((A.join B).join C).mappings
    List.Perm _ (Mapping.joinAll (A.join B).mappings C.mappings) := mappings_join (hA.join hB) hC
    List.Perm _ (Mapping.joinAll (Mapping.joinAll A.mappings B.mappings) C.mappings) :=
        Mapping.joinAll_perm_left (mappings_join hA hB)
    _ = Mapping.joinAll A.mappings (Mapping.joinAll B.mappings C.mappings) :=
        Mapping.joinAll_assoc _ _ _
    List.Perm _ (Mapping.joinAll A.mappings (B.join C).mappings) :=
        Mapping.joinAll_perm_right (mappings_join hB hC).symm
    List.Perm _ ((A.join (B.join C)).mappings) := (mappings_join hA (hB.join hC)).symm

theorem join_comm_mappings (hA : A.WF) (hB : B.WF) :
    (A.join B).mappings.Perm (B.join A).mappings :=
  calc (A.join B).mappings
    List.Perm _ (Mapping.joinAll A.mappings B.mappings) := mappings_join hA hB
    List.Perm _ (Mapping.joinAll B.mappings A.mappings) := Mapping.joinAll_comm _ _
    List.Perm _ ((B.join A).mappings) := (mappings_join hB hA).symm

/-- **The join is associative and commutative up to the order of the
solutions, the identity is its unit and the empty multiset its zero.**
Associativity and commutativity hold for multisets whose bags name each
variable once; unit and zero for every multiset. -/
theorem join_laws :
    (∀ A B C : Multiset, A.WF → B.WF → C.WF →
      ((A.join B).join C).mappings.Perm (A.join (B.join C)).mappings ∧
        (A.join B).mappings.Perm (B.join A).mappings) ∧
    ∀ A : Multiset, identity.join A = A ∧ A.join identity = A ∧ null.join A = null ∧ A.join null = null :=
  ⟨fun _ _ _ hA hB hC => ⟨join_assoc_mappings hA hB hC, join_comm_mappings hA hB⟩,
    fun A => ⟨join_identity_left A, join_identity_right A, join_null_left A, join_null_right A⟩⟩

/-- The laws at three bags over `?x`, `?x ?y` and `?y`, one solution leaving `?x` unbound. -/
theorem join_laws_of_three_bags :
    (ofRows [⟨"x"⟩] [[some (.iri "http://ex/a")], [none]]).WF ∧
      (ofRows [⟨"x"⟩, ⟨"y"⟩] [[some (.iri "http://ex/a"), some (.iri "http://ex/b")]]).WF ∧
      (ofRows [⟨"y"⟩] [[some (.iri "http://ex/b")]]).WF ∧
      ((((ofRows [⟨"x"⟩] [[some (.iri "http://ex/a")], [none]]).join
          (ofRows [⟨"x"⟩, ⟨"y"⟩] [[some (.iri "http://ex/a"), some (.iri "http://ex/b")]])).join
          (ofRows [⟨"y"⟩] [[some (.iri "http://ex/b")]])).mappings.Perm
        ((ofRows [⟨"x"⟩] [[some (.iri "http://ex/a")], [none]]).join
          ((ofRows [⟨"x"⟩, ⟨"y"⟩] [[some (.iri "http://ex/a"), some (.iri "http://ex/b")]]).join
            (ofRows [⟨"y"⟩] [[some (.iri "http://ex/b")]]))).mappings ∧
      ((ofRows [⟨"x"⟩] [[some (.iri "http://ex/a")], [none]]).join
          (ofRows [⟨"x"⟩, ⟨"y"⟩] [[some (.iri "http://ex/a"), some (.iri "http://ex/b")]])).mappings.Perm
        ((ofRows [⟨"x"⟩, ⟨"y"⟩] [[some (.iri "http://ex/a"), some (.iri "http://ex/b")]]).join
          (ofRows [⟨"x"⟩] [[some (.iri "http://ex/a")], [none]])).mappings) ∧
      (identity.join (ofRows [⟨"x"⟩] [[some (.iri "http://ex/a")], [none]]) =
          ofRows [⟨"x"⟩] [[some (.iri "http://ex/a")], [none]] ∧
        (ofRows [⟨"x"⟩] [[some (.iri "http://ex/a")], [none]]).join identity =
          ofRows [⟨"x"⟩] [[some (.iri "http://ex/a")], [none]] ∧
        null.join (ofRows [⟨"x"⟩] [[some (.iri "http://ex/a")], [none]]) = null ∧
        (ofRows [⟨"x"⟩] [[some (.iri "http://ex/a")], [none]]).join null = null) := by
  have hA : (ofRows [⟨"x"⟩] [[some (.iri "http://ex/a")], [none]]).WF := wf_ofRows (by decide) _
  have hB : (ofRows [⟨"x"⟩, ⟨"y"⟩] [[some (.iri "http://ex/a"), some (.iri "http://ex/b")]]).WF :=
    wf_ofRows (by decide) _
  have hC : (ofRows [⟨"y"⟩] [[some (.iri "http://ex/b")]]).WF := wf_ofRows (by decide) _
  exact ⟨hA, hB, hC, join_laws.1 _ _ _ hA hB hC, join_laws.2 _⟩

/-- The bag over `?x` holding `<a>`, and the bag over `?x` twice holding `<a>`
and `<c>`: joined one way they give no solution, the other way one. -/
theorem join_not_comm_of_repeated_variable :
    (join (ofRows [⟨"x"⟩] [[some (.iri "http://ex/a")]])
        (ofRows [⟨"x"⟩, ⟨"x"⟩] [[some (.iri "http://ex/a"), some (.iri "http://ex/c")]])).size = 0 ∧
      (join (ofRows [⟨"x"⟩, ⟨"x"⟩] [[some (.iri "http://ex/a"), some (.iri "http://ex/c")]])
        (ofRows [⟨"x"⟩] [[some (.iri "http://ex/a")]])).size = 1 ∧
      ¬ (join (ofRows [⟨"x"⟩] [[some (.iri "http://ex/a")]])
          (ofRows [⟨"x"⟩, ⟨"x"⟩] [[some (.iri "http://ex/a"), some (.iri "http://ex/c")]])).mappings.Perm
        (join (ofRows [⟨"x"⟩, ⟨"x"⟩] [[some (.iri "http://ex/a"), some (.iri "http://ex/c")]])
          (ofRows [⟨"x"⟩] [[some (.iri "http://ex/a")]])).mappings := by
  have hAB : (join (ofRows [⟨"x"⟩] [[some (.iri "http://ex/a")]])
      (ofRows [⟨"x"⟩, ⟨"x"⟩] [[some (.iri "http://ex/a"), some (.iri "http://ex/c")]])).size = 0 := by
    decide
  have hBA : (join (ofRows [⟨"x"⟩, ⟨"x"⟩] [[some (.iri "http://ex/a"), some (.iri "http://ex/c")]])
      (ofRows [⟨"x"⟩] [[some (.iri "http://ex/a")]])).size = 1 := by
    decide
  refine ⟨hAB, hBA, fun hperm => ?_⟩
  -- a permutation keeps the number of solutions
  have hlen := hperm.length_eq
  rw [length_mappings, length_mappings, hAB, hBA] at hlen
  exact absurd hlen (by decide)

end Multiset

end SparqlBag
