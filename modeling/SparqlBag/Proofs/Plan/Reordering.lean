import SparqlBag.Proofs.Plan.Ranking
import SparqlBag.Proofs.Sort.Success

/-!
# Reordering a basic graph pattern: a greedy chain that forgets the input order

`PatternRanking.reorder` ranks the patterns and chains them: it takes the
best-ranked pattern sharing a join key with those taken, or the best of all when
none does (`chainPatterns_isGreedyChain`).  `IsGreedyChain` says this without the
algorithm.  A ranking is a strict total order, so a collection has one greedy chain
(`IsGreedyChain.eq_of_perm`) and one sorted order (`PatternRanking.sort_eq_insertionSort`):
the reordering depends on the collection alone
(`PatternRanking.reorder_greedy_order_free`).
-/

namespace SparqlBag

namespace TriplePattern

/-- A pattern shares a join key with one of the patterns `chosen`. -/
def SharesKey (t : TriplePattern) (chosen : List TriplePattern) : Prop :=
  ∃ k ∈ t.joinKeys, ∃ c ∈ chosen, k ∈ c.joinKeys

/-- The test of the chaining loop, on the keys that the patterns `chosen` bind. -/
theorem any_contains_iff_sharesKey (t : TriplePattern) (chosen : List TriplePattern) :
    t.joinKeys.any (chosen.flatMap joinKeys).contains = true ↔ t.SharesKey chosen := by
  simp [SharesKey, List.mem_flatMap]

end TriplePattern

namespace PatternRanking

/-- `t` is a right choice after the patterns `chosen`, the patterns `rest` being
the others that remain: it shares a key with `chosen` whenever a remaining
pattern does, and no remaining pattern that is as good a choice ranks before it. -/
def IsNext (r : PatternRanking) (chosen : List TriplePattern) (t : TriplePattern)
    (rest : List TriplePattern) : Prop :=
  (∀ s ∈ rest, s.SharesKey chosen → t.SharesKey chosen) ∧
    ∀ s ∈ rest, (t.SharesKey chosen → s.SharesKey chosen) → r.compare t s ≠ .gt

/-- A greedy chain after the patterns `chosen`: every pattern is a right choice
among itself and the patterns after it. -/
def IsGreedyChain (r : PatternRanking) : List TriplePattern → List TriplePattern → Prop
  | _, [] => True
  | chosen, t :: rest => r.IsNext chosen t rest ∧ r.IsGreedyChain (chosen ++ [t]) rest

@[simp] theorem isGreedyChain_nil (r : PatternRanking) (chosen : List TriplePattern) :
    r.IsGreedyChain chosen [] := trivial

@[simp] theorem isGreedyChain_cons (r : PatternRanking) (chosen : List TriplePattern)
    (t : TriplePattern) (rest : List TriplePattern) :
    r.IsGreedyChain chosen (t :: rest) ↔ r.IsNext chosen t rest ∧ r.IsGreedyChain (chosen ++ [t]) rest :=
  Iff.rfl

/-- A pattern that may stand before another in a ranked list does not rank after it. -/
theorem compare_ne_gt_of_before (r : PatternRanking) {a b : TriplePattern}
    (h : StableSort.Before (fun a b => r.compare a b == .lt) a b) : r.compare a b ≠ .gt := by
  rw [StableSort.Before, less_eq_false_iff] at h
  exact Ordering.ne_gt_iff_isLE.2 h

/-- Of two patterns that are each a right choice with the other still remaining,
neither ranks before the other, so they are the same pattern. -/
theorem IsNext.eq (r : PatternRanking) {chosen rest rest' : List TriplePattern} {t u : TriplePattern}
    (ht : r.IsNext chosen t rest) (hu : r.IsNext chosen u rest') (hu_mem : u ∈ rest)
    (ht_mem : t ∈ rest') : t = u := by
  have h_tu : t.SharesKey chosen → u.SharesKey chosen := hu.1 t ht_mem
  have h_ut : u.SharesKey chosen → t.SharesKey chosen := ht.1 u hu_mem
  have h_le : r.compare t u ≠ .gt := ht.2 u hu_mem h_tu
  have h_ge : r.compare u t ≠ .gt := hu.2 t ht_mem h_ut
  cases hc : r.compare t u with
  | eq => exact (r.compare_eq_iff t u).1 hc
  | lt => exact absurd (Std.OrientedCmp.gt_of_lt hc) h_ge
  | gt => exact absurd hc h_le

/-- **A greedy chain is determined by its patterns.**  The heads of two greedy
chains of one collection are right choices with the other remaining, hence equal,
and the tails are greedy chains of one collection again. -/
theorem IsGreedyChain.eq_of_perm (r : PatternRanking) {chosen xs ys : List TriplePattern}
    (hx : r.IsGreedyChain chosen xs) (hy : r.IsGreedyChain chosen ys) (hp : xs.Perm ys) :
    xs = ys := by
  induction xs generalizing chosen ys with
  | nil => exact List.Perm.nil_eq hp
  | cons t rest ih =>
    obtain _ | ⟨u, rest'⟩ := ys
    · exact absurd (List.Perm.eq_nil hp) (List.cons_ne_nil t rest)
    rw [isGreedyChain_cons] at hx hy
    have ht_mem : t ∈ u :: rest' := hp.subset List.mem_cons_self
    have hu_mem : u ∈ t :: rest := hp.symm.subset List.mem_cons_self
    have h_eq : t = u := by
      rcases List.mem_cons.1 ht_mem with h | ht_rest
      · exact h
      rcases List.mem_cons.1 hu_mem with h | hu_rest
      · exact h.symm
      exact IsNext.eq r hx.1 hy.1 hu_rest ht_rest
    subst h_eq
    rw [ih hx.2 hy.2 (List.Perm.cons_inv hp)]

end PatternRanking

section Chaining

variable (r : PatternRanking)

/-- Chaining keeps every pattern. -/
theorem chainPatterns_perm (ranked : List TriplePattern) (bound : List String) :
    (chainPatterns ranked bound).Perm ranked := by
  fun_induction chainPatterns ranked bound with
  | case1 => rfl
  | case2 first rest bound c hf ih =>
    exact (ih.cons c).trans (List.perm_cons_erase (List.mem_of_find?_eq_some hf)).symm
  | case3 first rest bound hf ih => exact ih.cons first

/-- **Chaining a ranked list gives a greedy chain**: the loop keeps the keys that
the patterns taken so far bind, and the list that remains ranked. -/
theorem chainPatterns_isGreedyChain {ranked : List TriplePattern}
    (hs : StableSort.Sorted (fun a b => r.compare a b == .lt) ranked) {chosen : List TriplePattern}
    {bound : List String} (hb : bound = chosen.flatMap TriplePattern.joinKeys) :
    r.IsGreedyChain chosen (chainPatterns ranked bound) := by
  fun_induction chainPatterns ranked bound generalizing chosen with
  | case1 => trivial
  | case2 first rest bound c hf ih =>
    -- The chosen pattern is the first of the ranked list that shares a key.
    obtain ⟨hc, before, after, hsplit, hbefore⟩ := List.find?_eq_some_iff_append.1 hf
    subst hb
    rw [TriplePattern.any_contains_iff_sharesKey] at hc
    have hbefore' : ∀ a ∈ before, ¬a.SharesKey chosen := fun a ha => by
      rw [← TriplePattern.any_contains_iff_sharesKey]
      simpa using hbefore a ha
    have hc_before : c ∉ before := fun h => hbefore' c h hc
    have herase : (first :: rest).erase c = before ++ after := by
      rw [hsplit, List.erase_append_right _ hc_before, List.erase_cons_head]
    refine ⟨⟨fun _ _ _ => hc, fun s hs_mem hshare => ?_⟩, ?_⟩
    · have hs_mem' := (chainPatterns_perm _ _).subset hs_mem
      rw [herase, List.mem_append] at hs_mem'
      rcases hs_mem' with hs_before | hs_after
      · exact absurd (hshare hc) (hbefore' s hs_before)
      · rw [hsplit, StableSort.sorted_append, StableSort.sorted_cons] at hs
        exact r.compare_ne_gt_of_before (hs.2.1.1 s hs_after)
    · exact ih (hs.sublist (List.erase_sublist)) (by simp)
  | case3 first rest bound hf ih =>
    -- No pattern shares a key, so the first of the ranked list is taken.
    subst hb
    have hnone : ∀ t ∈ first :: rest, ¬t.SharesKey chosen := fun t ht h =>
      List.find?_eq_none.1 hf t ht ((TriplePattern.any_contains_iff_sharesKey t chosen).2 h)
    have hrest : ∀ s ∈ chainPatterns rest (chosen.flatMap TriplePattern.joinKeys ++ first.joinKeys),
        s ∈ rest := fun s hs_mem => (chainPatterns_perm _ _).subset hs_mem
    obtain ⟨hfirst, hsorted⟩ := StableSort.sorted_cons.1 hs
    refine ⟨⟨fun s hs_mem hshare => ?_, fun s hs_mem _ => ?_⟩, ih hsorted (by simp)⟩
    · exact absurd hshare (hnone s (List.mem_cons_of_mem first (hrest s hs_mem)))
    · exact r.compare_ne_gt_of_before (hfirst s (hrest s hs_mem))

end Chaining

namespace PatternRanking

variable (r : PatternRanking)

/-- Two patterns that may each stand before the other are equal: the ranking is total. -/
theorem eq_of_before_of_before {a b : TriplePattern}
    (hab : StableSort.Before (fun a b => r.compare a b == .lt) a b)
    (hba : StableSort.Before (fun a b => r.compare a b == .lt) b a) : a = b := by
  have hnot_lt : r.compare a b ≠ .lt := by simpa [StableSort.Before] using hba
  have hnot_gt : r.compare b a ≠ .lt := by simpa [StableSort.Before] using hab
  rw [r.compare_swap] at hnot_gt
  cases h : r.compare a b with
  | lt => exact absurd h hnot_lt
  | eq => exact (r.compare_eq_iff a b).1 h
  | gt => simp [h, Ordering.swap] at hnot_gt

/-- The list the reordering chains is the input ranked: sorted, and a permutation of it. -/
theorem ranked_sorted_perm (P : List TriplePattern) :
    StableSort.Sorted (fun a b => r.compare a b == .lt)
        (StableSort.insertionSort (fun a b => r.compare a b == .lt) P) ∧
      (StableSort.insertionSort (fun a b => r.compare a b == .lt) P).Perm P :=
  ⟨StableSort.insertionSort_sorted r.strictWeakOrder P, StableSort.insertionSort_perm _ P⟩

/-- **The stable sort ranks patterns as insertion does.**  The ranking is a
strict total order, so the sort never finds it inconsistent, and the sorted
permutation of a list of patterns is unique. -/
theorem sort_eq_insertionSort (P : List TriplePattern) :
    StableSort.sort 96 (fun a b => r.compare a b == .lt) P =
      some (StableSort.insertionSort (fun a b => r.compare a b == .lt) P) := by
  obtain ⟨ys, hys⟩ := StableSort.sort_isSome r.strictWeakOrder 96 P
  have hsorted := StableSort.sort_sorted r.strictWeakOrder 96 hys
  have hperm := (StableSort.sort_perm 96 _ hys).trans (r.ranked_sorted_perm P).2.symm
  rw [hys, List.Perm.eq_of_pairwise (fun _ _ _ _ => r.eq_of_before_of_before) hsorted
    (r.ranked_sorted_perm P).1 hperm]

/-- Reordering keeps every pattern. -/
theorem reorder_perm (P : List TriplePattern) : (r.reorder P).Perm P := by
  unfold reorder
  split
  · rfl
  · exact (chainPatterns_perm _ _).trans (r.ranked_sorted_perm P).2

/-- Reordering gives a greedy chain. -/
theorem reorder_isGreedyChain (P : List TriplePattern) : r.IsGreedyChain [] (r.reorder P) := by
  unfold reorder
  split
  · -- At most one pattern: nothing remains to compare with.
    rename_i hlen
    rcases P with _ | ⟨t, _ | ⟨u, rest⟩⟩
    · trivial
    · exact ⟨⟨by simp, by simp⟩, trivial⟩
    · simp only [List.length_cons] at hlen
      omega
  · exact chainPatterns_isGreedyChain r (r.ranked_sorted_perm P).1 (by simp)

/-- **The reordering forgets the input order**: it is the one greedy chain of the
patterns. -/
theorem reorder_eq_of_perm {P P' : List TriplePattern} (h : P'.Perm P) : r.reorder P' = r.reorder P :=
  IsGreedyChain.eq_of_perm r (r.reorder_isGreedyChain P') (r.reorder_isGreedyChain P)
    ((r.reorder_perm P').trans (h.trans (r.reorder_perm P).symm))

/-- A reordered basic graph pattern is reordered already. -/
@[simp] theorem reorder_reorder (P : List TriplePattern) : r.reorder (r.reorder P) = r.reorder P :=
  r.reorder_eq_of_perm (r.reorder_perm P)

/-- **Reordering is a greedy chain that forgets the input order.**  For either
ranking, the reordering of a basic graph pattern is a permutation of it, equal
for every permutation of it, and greedy: each pattern is the best-ranked of those
that remain among the ones sharing a join key with the patterns before it, or of
all of them when none does.  Behind it, the ranking is a strict total order. -/
theorem reorder_greedy_order_free (P : List TriplePattern) :
    (r.reorder P).Perm P ∧ (∀ P', P'.Perm P → r.reorder P' = r.reorder P) ∧
      r.IsGreedyChain [] (r.reorder P) ∧
      (∀ a b, r.compare a b = .eq ↔ a = b) ∧ (∀ a b, r.compare b a = (r.compare a b).swap) ∧
      ∀ a b c, r.compare a b = .lt → r.compare b c = .lt → r.compare a c = .lt :=
  ⟨r.reorder_perm P, fun _ h => r.reorder_eq_of_perm h, r.reorder_isGreedyChain P,
    r.compare_eq_iff, r.compare_swap, fun _ _ _ => r.compare_lt_trans⟩

end PatternRanking

end SparqlBag
