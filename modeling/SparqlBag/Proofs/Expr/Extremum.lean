import SparqlBag.Expr.Aggregate
import SparqlBag.Proofs.Term.Order

/-!
# `MIN` and `MAX` and the order of their values

`MIN` keeps a current term and replaces it by each new term below it, `MAX` above.
Where the order is transitive on a group's terms, the kept term is extreme: no term
seen is below (above) it (`foldl_extremum_of_none`).  The order being antisymmetric
with `.eq` only for identical terms, at most one term is extreme
(`IsExtreme.unique`), so the result does not depend on the order of the values
(`foldl_extremum_perm`).  Where the order is not transitive the result may depend
on it, and does for the cycle of `compareTerms_not_transitive`.
-/

namespace SparqlBag

/-- The terms among expression values. -/
def boundTerms (vs : List ExprValue) : List Term := vs.filterMap ExprValue.term?

/-- A term of `S` that the order puts on the side `r` of no term of `S`: the
least one for `r = .lt`, the greatest one for `r = .gt`. -/
def IsExtreme (r : Ordering) (S : List Term) (m : Term) : Prop :=
  m ∈ S ∧ ∀ x ∈ S, compareTerms (some x) (some m) ≠ r

/-- The order of terms is transitive in the direction `r` on the terms of `S`. -/
def TransitiveOn (r : Ordering) (S : List Term) : Prop :=
  ∀ a ∈ S, ∀ b ∈ S, ∀ c ∈ S, compareTerms (some a) (some b) = r →
    compareTerms (some b) (some c) = r → compareTerms (some a) (some c) = r

instance (r : Ordering) (S : List Term) : Decidable (TransitiveOn r S) := by
  unfold TransitiveOn
  infer_instance

variable {r : Ordering}

theorem compareTerms_self_ne (hr : r ≠ .eq) (t : Term) : compareTerms (some t) (some t) ≠ r := by
  rw [(compareTerms_eq_iff _ _).2 rfl]
  exact fun h => hr h.symm

/-- **There is at most one extreme term**: two of them are not ordered either
way, and antisymmetry leaves only `.eq`. -/
theorem IsExtreme.unique (hr : r ≠ .eq) {S : List Term} {m m' : Term} (h : IsExtreme r S m)
    (h' : IsExtreme r S m') : m = m' := by
  have h₁ : compareTerms (some m') (some m) ≠ r := h.2 m' h'.1
  have h₂ : compareTerms (some m) (some m') ≠ r := h'.2 m h.1
  have hswap := compareTerms_swap (some m) (some m')
  have heq : compareTerms (some m) (some m') = .eq := by
    cases r <;> cases hc : compareTerms (some m') (some m) <;> simp_all
  exact Option.some.inj ((compareTerms_eq_iff _ _).1 heq)

theorem IsExtreme.congr {S S' : List Term} (hS : ∀ x, x ∈ S ↔ x ∈ S') {m : Term}
    (h : IsExtreme r S m) : IsExtreme r S' m :=
  ⟨(hS m).1 h.1, fun x hx => h.2 x ((hS x).2 hx)⟩

theorem TransitiveOn.mono {S S' : List Term} (h : TransitiveOn r S') (hS : ∀ x ∈ S, x ∈ S') :
    TransitiveOn r S :=
  fun a ha b hb c hc => h a (hS a ha) b (hS b hb) c (hS c hc)

/-- One new term keeps an extreme term: the new one when it is beyond the kept
one, which by transitivity puts it beyond every term seen, and the kept one
otherwise. -/
theorem IsExtreme.step (hr : r ≠ .eq) {S : List Term} {m : Term} (hm : IsExtreme r S m) (t : Term)
    (htrans : TransitiveOn r (S ++ [t])) :
    IsExtreme r (S ++ [t]) (if compareTerms (some t) (some m) == r then t else m) := by
  have hmS : m ∈ S ++ [t] := List.mem_append_left _ hm.1
  have htS : t ∈ S ++ [t] := List.mem_append_right _ (List.mem_singleton_self t)
  split
  · rename_i hbeyond
    have htm : compareTerms (some t) (some m) = r := beq_iff_eq.1 hbeyond
    refine ⟨htS, fun x hx => ?_⟩
    rcases List.mem_append.1 hx with hxS | hxt
    · intro hxt
      exact hm.2 x hxS (htrans x hx t htS m hmS hxt htm)
    · rw [List.mem_singleton.1 hxt]
      exact compareTerms_self_ne hr t
  · rename_i hnot
    refine ⟨hmS, fun x hx => ?_⟩
    rcases List.mem_append.1 hx with hxS | hxt
    · exact hm.2 x hxS
    · rw [List.mem_singleton.1 hxt]
      simpa using hnot

theorem boundTerms_cons_bound (t : Term) (vs : List ExprValue) :
    boundTerms (.bound t :: vs) = t :: boundTerms vs := rfl

/-- Feeding values to an accumulator that holds an extreme term of `S` keeps
an extreme term of `S` and the terms fed. -/
theorem foldl_extremum (hr : r ≠ .eq) (vs : List ExprValue) :
    ∀ (S : List Term) (m : Term), IsExtreme r S m → TransitiveOn r (S ++ boundTerms vs) →
      ∃ m', vs.foldl Accumulator.update (.extremum r (some m)) = .extremum r (some m') ∧
        IsExtreme r (S ++ boundTerms vs) m' := by
  induction vs with
  | nil => exact fun S m hm _ => ⟨m, rfl, by simpa [boundTerms] using hm⟩
  | cons v vs ih =>
    intro S m hm htrans
    cases v with
    | bound t =>
      -- The new term joins the terms seen.
      have hS : S ++ boundTerms (.bound t :: vs) = (S ++ [t]) ++ boundTerms vs := by
        rw [boundTerms_cons_bound, List.append_assoc, List.singleton_append]
      rw [hS] at htrans ⊢
      have hstep := hm.step hr t (htrans.mono fun x hx => List.mem_append_left _ hx)
      rw [List.foldl_cons]
      simp only [Accumulator.update]
      split
      · rename_i hbeyond
        rw [if_pos hbeyond] at hstep
        exact ih (S ++ [t]) t hstep htrans
      · rename_i hnot
        rw [if_neg hnot] at hstep
        exact ih (S ++ [t]) m hstep htrans
    | unbound => exact ih S m hm htrans
    | error => exact ih S m hm htrans

/-- **`MIN` (`r = .lt`) and `MAX` (`r = .gt`) give an extreme term of their
values**, or nothing when no value is a term, where the order is transitive on
those terms. -/
theorem foldl_extremum_of_none (hr : r ≠ .eq) (vs : List ExprValue)
    (htrans : TransitiveOn r (boundTerms vs)) :
    (vs.foldl Accumulator.update (.extremum r none) = .extremum r none ∧ boundTerms vs = []) ∨
      ∃ m, vs.foldl Accumulator.update (.extremum r none) = .extremum r (some m) ∧
        IsExtreme r (boundTerms vs) m := by
  induction vs with
  | nil => exact Or.inl ⟨rfl, rfl⟩
  | cons v vs ih =>
    cases v with
    | bound t =>
      -- The first term is the first kept one.
      have hfirst : IsExtreme r [t] t :=
        ⟨List.mem_singleton_self t, fun x hx => by
          rw [List.mem_singleton.1 hx]
          exact compareTerms_self_ne hr t⟩
      obtain ⟨m, hm, hext⟩ := foldl_extremum hr vs [t] t hfirst htrans
      exact Or.inr ⟨m, hm, hext⟩
    | unbound => exact ih htrans
    | error => exact ih htrans

/-- **`MIN` and `MAX` give the same result for every order of their values**,
where the order of terms is transitive on the terms among them. -/
theorem foldl_extremum_perm (hr : r ≠ .eq) {vs ws : List ExprValue} (hp : vs.Perm ws)
    (htrans : TransitiveOn r (boundTerms vs)) :
    vs.foldl Accumulator.update (.extremum r none) = ws.foldl Accumulator.update (.extremum r none) := by
  have hmem : ∀ x, x ∈ boundTerms vs ↔ x ∈ boundTerms ws := fun _ => (hp.filterMap _).mem_iff
  have htrans' : TransitiveOn r (boundTerms ws) := htrans.mono fun x hx => (hmem x).2 hx
  rcases foldl_extremum_of_none hr vs htrans with ⟨hv, hnil⟩ | ⟨m, hv, hm⟩ <;>
    rcases foldl_extremum_of_none hr ws htrans' with ⟨hw, hnil'⟩ | ⟨m', hw, hm'⟩
  · rw [hv, hw]
  · -- No term among the values of one order, but one among the other: impossible.
    exact absurd ((hmem m').2 hm'.1) (by simp [hnil])
  · exact absurd ((hmem m).1 hm.1) (by simp [hnil'])
  · rw [hv, hw, (hm.congr hmem).unique hr hm']

/-! ## The laws together -/

/-- **The laws of the order of terms**: it is antisymmetric; it gives `.eq`
exactly for identical terms; it is transitive on three terms no two of which
are ordered by their values; and `MIN` (`r = .lt`) and `MAX` (`r = .gt`) give
the same result for every order of the values of a group on whose terms it is
transitive. -/
theorem compareTerms_order_laws (a b c : Option Term) (r : Ordering) (vs ws : List ExprValue) :
    compareTerms a b = (compareTerms b a).swap ∧
      (compareTerms a b = .eq ↔ a = b) ∧
      (valueOrder a b = none → valueOrder b c = none → valueOrder a c = none →
        compareTerms a b = .lt → compareTerms b c = .lt → compareTerms a c = .lt) ∧
      (r ≠ .eq → vs.Perm ws → TransitiveOn r (boundTerms vs) →
        vs.foldl Accumulator.update (.extremum r none) =
          ws.foldl Accumulator.update (.extremum r none)) :=
  ⟨compareTerms_swap a b, compareTerms_eq_iff a b, compareTerms_lt_trans,
    fun hr hp htrans => foldl_extremum_perm hr hp htrans⟩

/-- `MIN` of two IRIs is the same in both orders. -/
theorem min_of_two_iris_in_either_order :
    [ExprValue.bound (.iri "a"), .bound (.iri "b")].foldl Accumulator.update (.extremum .lt none) =
      [ExprValue.bound (.iri "b"), .bound (.iri "a")].foldl Accumulator.update
        (.extremum .lt none) :=
  (compareTerms_order_laws none none none .lt _ _).2.2.2 (by decide) (List.Perm.swap _ _ [])
    (by decide)

end SparqlBag
