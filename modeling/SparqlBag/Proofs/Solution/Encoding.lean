import SparqlBag.Proofs.Solution.Combining

/-!
# The identity and the empty multiset as the bags they stand for

As bags, the identity is one empty row numbered `0` and the empty multiset no row,
both over no variables (`Multiset.toBag`).  Some operations read both as bags,
others have short cuts of their own: the join, the difference, `distinct`, the
sort, `slice`, `filter` and the projection of the empty multiset.  Every short cut
agrees with the bag: an operation applied to the identity or the empty multiset
lists the same mappings as applied to its bag
(`Multiset.special_forms_agree_with_bags`).
-/

namespace SparqlBag

namespace Layout

/-- Without a shared variable every right row is a candidate, in its order. -/
theorem candidates_of_shared_nil {l : Layout} (h : l.shared = []) (rights : List Row)
    (left : Row) : l.candidates rights left = rights := by
  unfold candidates
  simp [h, key]

/-- Filling consecutive positions of unbound values writes the values there. -/
theorem foldl_fill_range' (m : Nat) :
    ∀ (values pre : Row), (values.zip (List.range' pre.length m)).foldl fill
        (pre ++ List.replicate m none) =
      pre ++ (values.take m ++ List.replicate (m - values.length) none) := by
  induction m with
  | zero => intro values pre; simp
  | succ m ih =>
    intro values pre
    cases values with
    | nil => simp
    | cons x values =>
      -- The first value goes to the first unbound position, after `pre`.
      have hfill : fill (pre ++ List.replicate (m + 1) none) (x, pre.length) =
          (pre ++ [x]) ++ List.replicate m none := by
        simp [fill, at?, List.replicate_succ, List.set_append_right]
      rw [List.range'_succ, List.zip_cons_cons, List.foldl_cons, hfill,
        show pre.length + 1 = (pre ++ [x]).length by simp, ih]
      simp

/-- Over no left variables, merging a right row into no values fits it to the
right variables. -/
theorem merge_nil_left (right : List Variable) (rrow : Row) :
    (ofVariables [] right).merge [] rrow = rrow.fit right.length := by
  have h := foldl_fill_range' right.length rrow []
  simp only [List.length_nil, List.nil_append] at h
  rw [merge, ofVariables_nil_left]
  simpa [Row.fit, List.range_eq_range'] using h

end Layout

namespace Multiset

/-- A multiset as the bag it stands for. -/
def asBag (m : Multiset) : Multiset := .bag m.toBag

@[simp] theorem asBag_bag (b : Bag) : (Multiset.bag b).asBag = .bag b := rfl

@[simp] theorem toBag_asBag (m : Multiset) : m.asBag.toBag = m.toBag := rfl

@[simp] theorem vars_asBag (m : Multiset) : m.asBag.vars = m.vars := vars_toBag m

@[simp] theorem mappings_asBag (m : Multiset) : m.asBag.mappings = m.mappings := mappings_toBag m

/-! ## The accessors -/

theorem entries_asBag (m : Multiset) : m.asBag.entries = m.entries :=
  (entries_eq_toBag_rows m).symm

theorem size_asBag (m : Multiset) : m.asBag.size = m.size := by
  cases m <;> rfl

theorem values_asBag (m : Multiset) (id : Nat) : m.asBag.values id = m.values id := by
  rw [values, values, entries_asBag]

/-! ## The join -/

/-- The bag of the identity, joined with a bag on either side, gives that
bag's mappings. -/
theorem mappings_join_identity_bag (r : Bag) :
    (join Multiset.identity.asBag (.bag r)).mappings = (Multiset.bag r).mappings := by
  have hlayout := Layout.ofVariables_nil_left r.vars
  rw [asBag, join_bag_bag, mappings_addAll]
  simp only [toBag, mappings_bag, Bag.empty, List.map_nil, List.nil_append, List.flatMap_cons,
    List.flatMap_nil, List.append_nil, List.map_map]
  rw [Layout.candidates_of_shared_nil (by rw [hlayout]), List.map_map]
  refine List.map_congr_left fun e _ => ?_
  rw [Function.comp_apply, Function.comp_apply, Layout.merge_nil_left, hlayout]
  simp [Solution.get_fit]

theorem mappings_join_bag_identity (l : Bag) :
    (join (.bag l) Multiset.identity.asBag).mappings = (Multiset.bag l).mappings := by
  rw [asBag, join_bag_bag, mappings_addAll]
  simp only [toBag, Layout.ofVariables_nil_right, mappings_bag, Bag.empty, List.map_nil,
    List.nil_append, List.map_cons, List.map_flatMap]
  -- Each left row meets the one empty right row and stays as it is.
  rw [List.map_eq_flatMap]
  refine List.flatMap_congr fun e _ => ?_
  rw [Layout.candidates_of_shared_nil rfl]
  simp [Layout.merge, Solution.get_fit]

/-- **The join of the identity or the empty multiset is the join of its bag.** -/
theorem mappings_join_asBag_left (m n : Multiset) :
    (m.join n).mappings = (m.asBag.join n).mappings := by
  cases m with
  | identity =>
    cases n with
    | identity => simp
    | null => rfl
    | bag r => rw [join_identity_left, mappings_join_identity_bag]
  | null =>
    cases n with
    | identity => rfl
    | null => rfl
    | bag r => rfl
  | bag l => rfl

theorem mappings_join_asBag_right (m n : Multiset) :
    (m.join n).mappings = (m.join n.asBag).mappings := by
  cases n with
  | identity =>
    cases m with
    | identity => simp
    | null => rfl
    | bag l => rw [join_identity_right, mappings_join_bag_identity]
  | null =>
    cases m with
    | identity => rfl
    | null => rfl
    | bag l =>
      -- No right row is a candidate: the join has no row.
      rw [join_null_right, asBag, join_bag_bag]
      simp [mappings, toBag, Bag.empty, Bag.addAll, Layout.candidates_of_shared_nil]
  | bag r => rfl

/-! ## The difference -/

theorem mappings_minus_asBag_left (m n : Multiset) :
    (m.minus n).mappings = (m.asBag.minus n).mappings := by
  cases m with
  | identity =>
    cases n with
    | bag r =>
      -- The bag of the identity has no variable, so it shares none.
      rw [asBag, minus_bag_bag, if_pos (by simp [toBag, Layout.ofVariables_nil_left])]
      exact (mappings_toBag _).symm
    | identity => exact (mappings_toBag _).symm
    | null => exact (mappings_toBag _).symm
  | null =>
    cases n with
    | bag r =>
      rw [asBag, minus_bag_bag]
      split_ifs <;> rfl
    | identity => rfl
    | null => rfl
  | bag l => rfl

theorem mappings_minus_asBag_right (m n : Multiset) :
    (m.minus n).mappings = (m.minus n.asBag).mappings := by
  cases m with
  | bag l =>
    -- A bag over no variables shares none with the left side.
    cases n with
    | identity => rfl
    | null => rfl
    | bag r => rfl
  | identity => rfl
  | null => rfl

/-! ## Left join, union and `extend` read their arguments as bags -/

theorem leftJoin_asBag_left {μ : Type → Type} [Monad μ] (m n : Multiset)
    (keep : Solution → μ Bool) : m.leftJoin n keep = m.asBag.leftJoin n keep := by
  rw [leftJoin_toBag, leftJoin_toBag m.asBag, toBag_asBag]

theorem leftJoin_asBag_right {μ : Type → Type} [Monad μ] (m n : Multiset)
    (keep : Solution → μ Bool) : m.leftJoin n keep = m.leftJoin n.asBag keep := by
  rw [leftJoin_toBag, leftJoin_toBag m n.asBag, toBag_asBag]

theorem union_asBag_left (m n : Multiset) : m.union n = m.asBag.union n := rfl

theorem union_asBag_right (m n : Multiset) : m.union n = m.union n.asBag := rfl

theorem extendM_asBag {μ : Type → Type} [Monad μ] (m : Multiset) (v : Variable)
    (value : Solution → μ (Option Term)) : m.extendM v value = m.asBag.extendM v value := by
  cases m <;> rfl

/-! ## Filter, projection, `distinct`, sort and slice -/

/-- The filter of the identity keeps it or empties it; its bag keeps or drops
its one row. -/
theorem map_filterM_asBag {μ : Type → Type} [Monad μ] [LawfulMonad μ] (m : Multiset)
    (keep : Solution → μ Bool) :
    mappings <$> m.filterM keep = mappings <$> m.asBag.filterM keep := by
  cases m with
  | identity =>
    simp only [filterM, asBag, toBag, entries, vars, List.mapM_cons, List.mapM_nil, bind_assoc,
      pure_bind, map_bind, map_pure]
    congr 1
    funext b
    cases b <;> rfl
  | null => simp [filterM, asBag, toBag, entries, vars, Bag.empty, mappings]
  | bag b => rfl

theorem mappings_project_asBag (m : Multiset) (vars : List Variable) :
    (m.project vars).mappings = (m.asBag.project vars).mappings := by
  cases m <;> rfl

theorem mappings_distinct_asBag (m : Multiset) : m.distinct.mappings = m.asBag.distinct.mappings := by
  cases m with
  | identity => exact (mappings_toBag _).symm
  | null => rfl
  | bag b => rfl

/-- Sorting the bag of the identity or of the empty multiset sorts at most one
row, which never fails. -/
theorem map_orderBy_asBag (m : Multiset) (cmp : Nat → Nat → Ordering) :
    (m.orderBy cmp).map mappings = (m.asBag.orderBy cmp).map mappings := by
  cases m with
  | identity =>
    simp [orderBy, asBag, toBag, StableSort.sort, StableSort.insertionSort, StableSort.insertAll,
      StableSort.insertBackwards, Bag.addAll, Bag.empty, mappings, Row.fit]
    funext v
    rfl
  | null => simp [orderBy, asBag, toBag, StableSort.sort, StableSort.insertionSort,
      StableSort.insertAll, Bag.addAll, Bag.empty, mappings]
  | bag b => rfl

theorem mappings_slice_asBag (m : Multiset) (start : Nat) (length : Option Nat) :
    (m.slice start length).mappings = (m.asBag.slice start length).mappings := by
  cases m with
  | identity =>
    simp only [slice, asBag, toBag]
    -- Both keep their one solution exactly when position 0 is in the range.
    split
    · rename_i h
      simp only [List.zipIdx_cons, List.zipIdx_nil, List.filter_cons, List.filter_nil, h, if_true,
        List.map_cons, List.map_nil]
      exact (mappings_toBag _).symm
    · rename_i h
      simp only [List.zipIdx_cons, List.zipIdx_nil, List.filter_cons, List.filter_nil, h,
        Bool.false_eq_true, if_false, List.map_nil]
      rfl
  | null => rfl
  | bag b => rfl

/-- **The identity and the empty multiset agree with their bags.**  On the
identity (as a bag: no variables, one empty row numbered 0) and the empty
multiset (no variables, no rows), and trivially on bags, the number of
solutions, the numbered solutions and the values of each number are those of
the bag.  Every operation, applied to it in either place and with any other
arguments, lists the same mappings in the same order as applied to the bag:
the join, the difference, the filter, the projection, `distinct`, the sort
(when it sorts) and the slice, for every start and length; the left join, the
union and `extend` even give the same multiset. -/
theorem special_forms_agree_with_bags (m : Multiset) :
    m.asBag.size = m.size ∧ m.asBag.entries = m.entries ∧
    (∀ id, m.asBag.values id = m.values id) ∧
    (∀ n, (m.join n).mappings = (m.asBag.join n).mappings ∧
      (n.join m).mappings = (n.join m.asBag).mappings) ∧
    (∀ {μ : Type → Type} [Monad μ] (n : Multiset) (keep : Solution → μ Bool),
      m.leftJoin n keep = m.asBag.leftJoin n keep ∧ n.leftJoin m keep = n.leftJoin m.asBag keep) ∧
    (∀ n, m.union n = m.asBag.union n ∧ n.union m = n.union m.asBag) ∧
    (∀ n, (m.minus n).mappings = (m.asBag.minus n).mappings ∧
      (n.minus m).mappings = (n.minus m.asBag).mappings) ∧
    (∀ {μ : Type → Type} [Monad μ] [LawfulMonad μ] (keep : Solution → μ Bool),
      mappings <$> m.filterM keep = mappings <$> m.asBag.filterM keep) ∧
    (∀ {μ : Type → Type} [Monad μ] (v : Variable) (value : Solution → μ (Option Term)),
      m.extendM v value = m.asBag.extendM v value) ∧
    (∀ vars, (m.project vars).mappings = (m.asBag.project vars).mappings) ∧
    m.distinct.mappings = m.asBag.distinct.mappings ∧
    (∀ cmp, (m.orderBy cmp).map mappings = (m.asBag.orderBy cmp).map mappings) ∧
    ∀ start length, (m.slice start length).mappings = (m.asBag.slice start length).mappings :=
  ⟨size_asBag m, entries_asBag m, values_asBag m,
    fun n => ⟨mappings_join_asBag_left m n, mappings_join_asBag_right n m⟩,
    fun n keep => ⟨leftJoin_asBag_left m n keep, leftJoin_asBag_right n m keep⟩,
    fun n => ⟨union_asBag_left m n, union_asBag_right n m⟩,
    fun n => ⟨mappings_minus_asBag_left m n, mappings_minus_asBag_right n m⟩,
    map_filterM_asBag m, extendM_asBag m, mappings_project_asBag m, mappings_distinct_asBag m,
    map_orderBy_asBag m, mappings_slice_asBag m⟩

/-- The slice of length zero empties the identity and its bag alike. -/
example : (Multiset.identity.slice 0 (some 0)).mappings = [] ∧
    (Multiset.identity.asBag.slice 0 (some 0)).mappings = [] := by
  decide

end Multiset

end SparqlBag
