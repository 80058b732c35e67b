import SparqlBag.Plan.Reorder
import SparqlBag.Proofs.Term.Order
import SparqlBag.Proofs.Sort.Ordered

/-!
# Rankings of triple patterns are strict total orders

Both rankings compare two patterns first by a number (the estimate of their shape,
or the total order of doubles on their scores) and break ties by the lexical order
of patterns: fewer open positions first, then subject, predicate and object.  Each
comparison is lawful (`Std.TransCmp`), and the lexical order says `.eq` only of
identical patterns, so a ranking is a strict total order
(`PatternRanking.compare_eq_iff`, `compare_swap`, `compare_lt_trans`), and so is
the order the sort receives (`PatternRanking.strictWeakOrder`).
-/

namespace SparqlBag

open Std

/-- Comparing by a view keeps the laws of the comparison of the views. -/
theorem transCmp_comap {α β : Type} {cmp : β → β → Ordering} (h : TransCmp cmp) (f : α → β) :
    TransCmp (fun a b => cmp (f a) (f b)) where
  eq_swap := h.eq_swap
  isLE_trans := h.isLE_trans

namespace TermPattern

instance : TransCmp compareLexically where
  eq_swap {a b} := by
    cases a <;> cases b <;> simp only [compareLexically, Ordering.swap]
    · rw [fastCompareTerms_eq_compareKeys, fastCompareTerms_eq_compareKeys]
      exact OrientedCmp.eq_swap
    · exact OrientedCmp.eq_swap
  isLE_trans {a b c} hab hbc := by
    -- Variables come before terms, so a chain through both kinds is never `.gt`.
    cases a <;> cases b <;> cases c <;> simp only [compareLexically] at hab hbc ⊢ <;>
      first | rfl | exact absurd hab (by decide) | exact absurd hbc (by decide) | skip
    · rw [fastCompareTerms_eq_compareKeys] at hab hbc ⊢
      exact TransCmp.isLE_trans hab hbc
    · exact TransCmp.isLE_trans hab hbc

instance : LawfulEqCmp compareLexically where
  compare_self {a} := by
    cases a with
    | term t =>
      simp only [compareLexically, fastCompareTerms_eq_compareKeys]
      exact ReflCmp.compare_self
    | var v => exact ReflCmp.compare_self
  eq_of_compare {a b} h := by
    cases a <;> cases b <;> simp only [compareLexically] at h <;>
      first | exact absurd h (by decide) | skip
    · rw [fastCompareTerms_eq_compareKeys] at h
      rw [Option.some.inj (LawfulEqCmp.eq_of_compare h)]
    · rename_i x y
      rw [show x = y from congrArg Variable.mk (LawfulEqOrd.eq_of_compare h) |>.trans rfl]

end TermPattern

namespace IriPattern

instance : TransCmp compareLexically where
  eq_swap {a b} := by
    cases a <;> cases b <;> simp only [compareLexically, Ordering.swap] <;> exact OrientedCmp.eq_swap
  isLE_trans {a b c} hab hbc := by
    -- Variables come before IRIs, so a chain through both kinds is never `.gt`.
    cases a <;> cases b <;> cases c <;> simp only [compareLexically] at hab hbc ⊢ <;>
      first | rfl | exact absurd hab (by decide) | exact absurd hbc (by decide) |
        exact TransCmp.isLE_trans hab hbc

instance : LawfulEqCmp compareLexically where
  compare_self {a} := by cases a <;> exact ReflCmp.compare_self
  eq_of_compare {a b} h := by
    cases a <;> cases b <;> simp only [compareLexically] at h <;>
      first | exact absurd h (by decide) | skip
    · rw [LawfulEqOrd.eq_of_compare h]
    · rename_i x y
      rw [show x = y from congrArg Variable.mk (LawfulEqOrd.eq_of_compare h) |>.trans rfl]

end IriPattern

namespace TriplePattern

/-- The lexical order of patterns compares the number of open positions, then
the subject, the predicate and the object. -/
theorem compareLexically_eq_compareLex : compareLexically =
    compareLex (compareOn variableCount) (compareLex (fun a b => a.subject.compareLexically b.subject)
      (compareLex (fun a b => a.predicate.compareLexically b.predicate)
        (fun a b => a.object.compareLexically b.object))) := rfl

instance : TransCmp compareLexically := by
  have := transCmp_comap (inferInstance : TransCmp TermPattern.compareLexically) subject
  have := transCmp_comap (inferInstance : TransCmp IriPattern.compareLexically) predicate
  have := transCmp_comap (inferInstance : TransCmp TermPattern.compareLexically) object
  rw [compareLexically_eq_compareLex]
  infer_instance

instance : LawfulEqCmp compareLexically where
  compare_self {a} := by
    simp only [compareLexically, ReflCmp.compare_self, Ordering.then_eq]
  eq_of_compare {a b} h := by
    rw [compareLexically_eq_compareLex] at h
    simp only [compareLex_eq_eq] at h
    obtain ⟨-, hs, hp, ho⟩ := h
    have hs' : a.subject = b.subject := LawfulEqCmp.eq_of_compare hs
    have hp' : a.predicate = b.predicate := LawfulEqCmp.eq_of_compare hp
    have ho' : a.object = b.object := LawfulEqCmp.eq_of_compare ho
    cases a
    cases b
    simp only at hs' hp' ho'
    rw [hs', hp', ho']

end TriplePattern

instance : TransCmp totalCompareFloat where
  eq_swap {a b} := by
    unfold totalCompareFloat
    dsimp only
    exact OrientedCmp.eq_swap
  isLE_trans {a b c} hab hbc := by
    unfold totalCompareFloat at *
    dsimp only at *
    exact TransCmp.isLE_trans hab hbc

namespace PatternRanking

/-- The structural ranking compares the estimates first and breaks ties lexically. -/
theorem compare_structural (mode : BlankNodeMode) : (structural mode).compare =
    compareLex (compareOn fun t => (PatternShape.of t mode).estimate) TriplePattern.compareLexically :=
  rfl

/-- The weighted ranking compares the scores first and breaks ties lexically. -/
theorem compare_weighted (model : Weightings) (mode : BlankNodeMode) : (weighted model mode).compare =
    compareLex (fun a b => totalCompareFloat (score model mode a) (score model mode b))
      TriplePattern.compareLexically :=
  rfl

instance (r : PatternRanking) : TransCmp r.compare := by
  cases r with
  | structural mode =>
    rw [compare_structural]
    infer_instance
  | weighted model mode =>
    have := transCmp_comap (inferInstance : TransCmp totalCompareFloat) (score model mode)
    rw [compare_weighted]
    infer_instance

instance (r : PatternRanking) : LawfulEqCmp r.compare where
  compare_self := ReflCmp.compare_self
  eq_of_compare {a b} h := by
    cases r with
    | structural mode =>
      rw [compare_structural, compareLex_eq_eq] at h
      exact LawfulEqCmp.eq_of_compare h.2
    | weighted model mode =>
      rw [compare_weighted, compareLex_eq_eq] at h
      exact LawfulEqCmp.eq_of_compare h.2

/-- **A ranking says `.eq` only of identical patterns.** -/
theorem compare_eq_iff (r : PatternRanking) (a b : TriplePattern) : r.compare a b = .eq ↔ a = b :=
  LawfulEqCmp.compare_eq_iff_eq

/-- **A ranking is antisymmetric.** -/
theorem compare_swap (r : PatternRanking) (a b : TriplePattern) :
    r.compare b a = (r.compare a b).swap :=
  OrientedCmp.eq_swap

/-- **A ranking is transitive.** -/
theorem compare_lt_trans (r : PatternRanking) {a b c : TriplePattern} (hab : r.compare a b = .lt)
    (hbc : r.compare b c = .lt) : r.compare a c = .lt :=
  TransCmp.lt_trans hab hbc

/-- The order the sort receives from a ranking. -/
theorem less_eq_false_iff (r : PatternRanking) (a b : TriplePattern) :
    (r.compare a b == .lt) = false ↔ (r.compare b a).isLE = true := by
  rw [r.compare_swap b a]
  cases r.compare b a <;> decide

/-- **The order the sort receives from a ranking is a strict weak order.** -/
theorem strictWeakOrder (r : PatternRanking) :
    StableSort.StrictWeakOrder (fun a b => r.compare a b == .lt) where
  irrefl a := by simp [ReflCmp.compare_self]
  trans {a b c} hab hbc := by
    simp only [beq_iff_eq] at hab hbc ⊢
    exact r.compare_lt_trans hab hbc
  not_less_trans {a b c} hba hcb := by
    rw [less_eq_false_iff] at hba hcb ⊢
    exact TransCmp.isLE_trans hba hcb

end PatternRanking

end SparqlBag
