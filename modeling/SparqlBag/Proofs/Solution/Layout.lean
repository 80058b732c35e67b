import Mathlib.Data.List.Induction
import SparqlBag.Proofs.Solution.View

/-!
# How the variables of two multisets combine

`Layout.ofVariables left right` keeps the left variables in place and puts after
them the right variables the left side lacks.  Read through the mappings of the
rows, for variables without repetition and full rows: merging two rows joins their
mappings (`Layout.get_merge`), `compatible` is compatibility of mappings
(`Layout.compatible_iff`), the candidates of a left row are its compatible right
rows in another order (`Layout.candidates_perm`), and `sharesBound` holds when some
variable is bound in both (`Layout.sharesBound_iff`).
-/

namespace SparqlBag

namespace Layout

variable {left right : List Variable}

/-- Placing the right variables one after another: after `pre`, the variables
are the left ones and those of `pre` the left lacks, each right variable has
gone to its first position among them, and the shared ones are listed with
their right positions. -/
theorem foldl_addRight (left : List Variable) {pre : List Variable} (hnd : pre.Nodup) :
    pre.foldl (addRight left) (⟨left, [], []⟩, 0) =
      (⟨left ++ pre.filter (· ∉ left), pre.map (left ++ pre.filter (· ∉ left)).idxOf,
        pre.zipIdx.filterMap fun (v, j) => (left.idxOf? v).map (·, j)⟩, pre.length) := by
  induction pre using List.reverseRecOn with
  | nil => simp
  | append_singleton pre v ih =>
    have hpre : pre.Nodup := hnd.sublist (List.sublist_append_left _ _)
    have hv : v ∉ pre := fun h => by
      have := List.nodup_append.1 hnd
      exact this.2.2 v h v (List.mem_singleton_self v) rfl
    rw [List.foldl_append, ih hpre, List.foldl_cons, List.foldl_nil, addRight]
    cases hi : left.idxOf? v with
    | some i =>
      have hvl : v ∈ left := List.isSome_idxOf?.1 (by simp [hi])
      simp [List.filter_append, hvl, List.zipIdx_append, hi, List.idxOf_append,
        idxOf_eq_of_idxOf?_eq_some hi]
    | none =>
      have hvl : v ∉ left := List.idxOf?_eq_none_iff.1 hi
      have hvV : v ∉ left ++ pre.filter (· ∉ left) := by simp [hvl, hv]
      refine Prod.ext ?_ (by simp)
      simp only [List.filter_append, List.filter_singleton, hvl, not_false_eq_true,
        decide_true, cond_true, List.map_append, List.map_singleton, List.zipIdx_append,
        List.filterMap_append, hi, Option.map_none, List.zipIdx_singleton,
        List.filterMap_cons, List.filterMap_nil, List.append_nil, ← List.append_assoc]
      congr 2
      · refine List.map_congr_left fun u hu => ?_
        have huV : u ∈ left ++ pre.filter (· ∉ left) := by
          by_cases hul : u ∈ left <;> simp [hul, hu]
        exact (idxOf_append_of_mem huV).symm
      · rw [List.idxOf_append, if_neg hvV, List.idxOf_cons_self]
        simp

theorem vars_ofVariables (left : List Variable) (hr : right.Nodup) :
    (ofVariables left right).vars = left ++ right.filter (· ∉ left) := by
  rw [ofVariables, foldl_addRight left hr]

theorem rightTargets_ofVariables (left : List Variable) (hr : right.Nodup) :
    (ofVariables left right).rightTargets = right.map (ofVariables left right).vars.idxOf := by
  rw [vars_ofVariables left hr, ofVariables, foldl_addRight left hr]

theorem shared_ofVariables (left : List Variable) (hr : right.Nodup) :
    (ofVariables left right).shared =
      right.zipIdx.filterMap fun (v, j) => (left.idxOf? v).map (·, j) := by
  rw [ofVariables, foldl_addRight left hr]

theorem mem_vars_ofVariables (hr : right.Nodup) {v : Variable} :
    v ∈ (ofVariables left right).vars ↔ v ∈ left ∨ v ∈ right := by
  rw [vars_ofVariables left hr]
  by_cases h : v ∈ left <;> simp [h]

theorem nodup_vars_ofVariables (hl : left.Nodup) (hr : right.Nodup) :
    (ofVariables left right).vars.Nodup := by
  rw [vars_ofVariables left hr]
  refine List.nodup_append.2 ⟨hl, hr.filter _, fun a ha b hb hab => ?_⟩
  subst hab
  simp only [List.mem_filter, decide_eq_true_eq] at hb
  exact hb.2 ha

/-! ## Merging rows -/

/-- Filling one value at the first position of its variable binds the variable
if it was unbound. -/
theorem get_fill {V : List Variable} {u : Variable} (hu : u ∈ V) {acc : Row}
    (hacc : acc.length = V.length) (x : Option Term) :
    Solution.get ⟨V, fill acc (x, V.idxOf u)⟩ =
      fun w => if u = w then (Solution.get ⟨V, acc⟩ u).or x else Solution.get ⟨V, acc⟩ w := by
  funext w
  unfold fill
  rw [Solution.at?_idxOf hu]
  cases hacc_u : Solution.get ⟨V, acc⟩ u with
  | none =>
    simp only [Option.isNone_none, if_true, Option.none_or]
    exact Solution.get_set_idxOf hu hacc x w
  | some a =>
    simp only [Option.isNone_some, Bool.false_eq_true, if_false, Option.some_or]
    split
    · rename_i h
      rw [← h, hacc_u]
    · rfl

theorem length_fill (acc : Row) (vt : Option Term × Nat) : (fill acc vt).length = acc.length := by
  unfold fill
  split <;> simp

/-- Filling the values of a right row at the first positions of their
variables completes the mapping of the row filled by the right mapping. -/
theorem get_foldl_fill {V : List Variable} :
    ∀ {rvars : List Variable} {rrow acc : Row}, rvars.Nodup → (∀ v ∈ rvars, v ∈ V) →
      rrow.length = rvars.length → acc.length = V.length →
      Solution.get ⟨V, (rrow.zip (rvars.map V.idxOf)).foldl fill acc⟩ =
        Mapping.union (Solution.get ⟨V, acc⟩) (Solution.get ⟨rvars, rrow⟩)
  | [], rrow, acc, _, _, _, _ => by
    funext w
    simp
  | u :: us, [], acc, _, _, hlen, _ => by simp at hlen
  | u :: us, x :: rrow, acc, hnd, hsub, hlen, hacc => by
    have hu : u ∈ V := hsub u (List.mem_cons_self ..)
    have hus : u ∉ us := (List.nodup_cons.1 hnd).1
    rw [List.map_cons, List.zip_cons_cons, List.foldl_cons,
      get_foldl_fill (List.nodup_cons.1 hnd).2 (fun v hv => hsub v (List.mem_cons_of_mem _ hv))
        (by simpa using hlen) ((length_fill _ _).trans hacc),
      get_fill hu hacc]
    funext w
    simp only [Mapping.union_apply, Solution.get_cons]
    by_cases huw : u = w
    · subst huw
      simp [Solution.get_of_not_mem hus]
    · simp [huw]

/-- A merged row reads as the left mapping completed by the right one. -/
theorem get_merge_fill (left : List Variable) (hr : right.Nodup) (lrow : Row) {rrow : Row}
    (hrrow : rrow.length = right.length) :
    Solution.get ⟨(ofVariables left right).vars, (ofVariables left right).merge lrow rrow⟩ =
      Mapping.union (Solution.get ⟨(ofVariables left right).vars, lrow⟩)
        (Solution.get ⟨right, rrow⟩) := by
  unfold merge
  rw [rightTargets_ofVariables left hr,
    get_foldl_fill hr (fun v hv => (mem_vars_ofVariables hr).2 (Or.inr hv)) hrrow
      (Row.length_fit _ _), Solution.get_fit]

/-- **Merging two rows joins their mappings**: the left values stay, the right
values fill the variables the left leaves unbound. -/
theorem get_merge (left : List Variable) (hr : right.Nodup) {lrow rrow : Row}
    (hlrow : lrow.length = left.length) (hrrow : rrow.length = right.length) :
    Solution.get ⟨(ofVariables left right).vars, (ofVariables left right).merge lrow rrow⟩ =
      Mapping.union (Solution.get ⟨left, lrow⟩) (Solution.get ⟨right, rrow⟩) := by
  rw [get_merge_fill left hr lrow hrrow, vars_ofVariables left hr,
    Solution.get_append_of_length hlrow]

/-- A right row merged into no left values reads as its own mapping. -/
theorem get_merge_nil (left : List Variable) (hr : right.Nodup) {rrow : Row}
    (hrrow : rrow.length = right.length) :
    Solution.get ⟨(ofVariables left right).vars, (ofVariables left right).merge [] rrow⟩ =
      Solution.get ⟨right, rrow⟩ := by
  rw [get_merge_fill left hr [] hrrow]
  funext w
  simp

/-! ## Shared variables -/

/-- The shared positions are those of the variables on both sides. -/
theorem mem_shared_iff (left : List Variable) (hr : right.Nodup) {i j : Nat} :
    (i, j) ∈ (ofVariables left right).shared ↔
      ∃ v, left.idxOf? v = some i ∧ right.idxOf? v = some j := by
  rw [shared_ofVariables left hr, List.mem_filterMap]
  constructor
  · rintro ⟨⟨v, j'⟩, hz, hij⟩
    obtain ⟨i', hi', hpair⟩ := Option.map_eq_some_iff.1 hij
    obtain ⟨rfl, rfl⟩ := Prod.mk.inj hpair
    exact ⟨v, hi', idxOf?_of_getElem? hr (List.mem_zipIdx_iff_getElem?.1 hz)⟩
  · rintro ⟨v, hi, hj⟩
    obtain ⟨hjl, hjv, -⟩ := List.idxOf?_eq_some_iff.1 hj
    refine ⟨(v, j), List.mem_zipIdx_iff_getElem?.2 (List.getElem?_eq_some_iff.2 ⟨hjl, hjv⟩), ?_⟩
    simp [hi]

theorem shared_eq_nil_iff (left : List Variable) (hr : right.Nodup) :
    (ofVariables left right).shared = [] ↔ ∀ v ∈ right, v ∉ left := by
  rw [List.eq_nil_iff_forall_not_mem]
  constructor
  · intro h v hvr hvl
    obtain ⟨⟨i, j⟩, hshared⟩ : ∃ p, p ∈ (ofVariables left right).shared :=
      ⟨(left.idxOf v, right.idxOf v), (mem_shared_iff left hr).2
        ⟨v, idxOf?_eq_some_idxOf hvl, idxOf?_eq_some_idxOf hvr⟩⟩
    exact h _ hshared
  · rintro h ⟨i, j⟩ hshared
    obtain ⟨v, hi, hj⟩ := (mem_shared_iff left hr).1 hshared
    exact h v (List.isSome_idxOf?.1 (by simp [hj])) (List.isSome_idxOf?.1 (by simp [hi]))

/-- **Compatible rows are compatible mappings**: checking the shared positions
checks every variable bound on both sides. -/
theorem compatible_iff (left : List Variable) (hr : right.Nodup) (lrow rrow : Row) :
    (ofVariables left right).compatible lrow rrow = true ↔
      Mapping.Compatible (Solution.get ⟨left, lrow⟩) (Solution.get ⟨right, rrow⟩) := by
  unfold compatible
  rw [List.all_eq_true]
  constructor
  · intro h v a b ha hb
    obtain ⟨i, hi, hia⟩ := Solution.exists_idxOf?_of_get ha
    obtain ⟨j, hj, hjb⟩ := Solution.exists_idxOf?_of_get hb
    have hagree := h (i, j) ((mem_shared_iff left hr).2 ⟨v, hi, hj⟩)
    dsimp only at hagree
    rw [hia, hjb] at hagree
    simpa using hagree
  · rintro hc ⟨i, j⟩ hshared
    obtain ⟨v, hi, hj⟩ := (mem_shared_iff left hr).1 hshared
    dsimp only
    rw [← Solution.get_of_idxOf? hi, ← Solution.get_of_idxOf? hj]
    cases ha : Solution.get ⟨left, lrow⟩ v with
    | none => rfl
    | some a =>
      cases hb : Solution.get ⟨right, rrow⟩ v with
      | none => rfl
      | some b => simpa using hc v a b ha hb

/-- Some variable is bound in both rows exactly when some shared position is. -/
theorem sharesBound_iff (left : List Variable) (hr : right.Nodup) (lrow rrow : Row) :
    (ofVariables left right).sharesBound lrow rrow = true ↔
      ∃ v, (Solution.get ⟨left, lrow⟩ v).isSome ∧ (Solution.get ⟨right, rrow⟩ v).isSome := by
  unfold sharesBound
  rw [List.any_eq_true]
  constructor
  · rintro ⟨⟨i, j⟩, hshared, hb⟩
    obtain ⟨v, hi, hj⟩ := (mem_shared_iff left hr).1 hshared
    rw [Bool.and_eq_true] at hb
    exact ⟨v, by rw [Solution.get_of_idxOf? hi]; exact hb.1,
      by rw [Solution.get_of_idxOf? hj]; exact hb.2⟩
  · rintro ⟨v, hl, hrv⟩
    obtain ⟨a, ha⟩ := Option.isSome_iff_exists.1 hl
    obtain ⟨b, hb⟩ := Option.isSome_iff_exists.1 hrv
    obtain ⟨i, hi, hia⟩ := Solution.exists_idxOf?_of_get ha
    obtain ⟨j, hj, hjb⟩ := Solution.exists_idxOf?_of_get hb
    exact ⟨(i, j), (mem_shared_iff left hr).2 ⟨v, hi, hj⟩, by simp [hia, hjb]⟩

/-! ## Candidates -/

/-- Where every shared position is bound on both sides, the rows are
compatible exactly when their keys are equal. -/
theorem all_agree_iff_keys : ∀ (sh : List (Nat × Nat)) {lrow rrow : Row} {k k' : List Term},
    key (sh.map (·.1)) lrow = some k → key (sh.map (·.2)) rrow = some k' →
    ((sh.all fun (i, j) =>
      match at? lrow i, at? rrow j with
      | some a, some b => a == b
      | _, _ => true) = true ↔ k' = k)
  | [], _, _, k, k', hk, hk' => by
    simp only [key, List.map_nil, List.mapM_nil] at hk hk'
    cases hk
    cases hk'
    simp
  | (i, j) :: sh, lrow, rrow, k, k', hk, hk' => by
    simp only [key, List.map_cons, List.mapM_cons, bind, Option.bind_eq_some_iff, pure,
      Option.some.injEq] at hk hk'
    obtain ⟨a, ha, ks, hks, rfl⟩ := hk
    obtain ⟨b, hb, ks', hks', rfl⟩ := hk'
    rw [List.all_cons, Bool.and_eq_true, all_agree_iff_keys sh hks hks']
    dsimp only
    rw [ha, hb]
    simp only [beq_iff_eq, List.cons.injEq]
    exact ⟨fun ⟨h₁, h₂⟩ => ⟨h₁.symm, h₂⟩, fun ⟨h₁, h₂⟩ => ⟨h₁.symm, h₂⟩⟩

/-- The right rows a disjoint pair of tests picks, one group after the other,
are those either test picks. -/
theorem filter_append_filter_perm {α : Type} (p q : α → Bool) :
    ∀ (xs : List α), (∀ x ∈ xs, p x = true → q x = false) →
      (xs.filter p ++ xs.filter q).Perm (xs.filter fun x => p x || q x)
  | [], _ => by simp
  | x :: xs, h => by
    have ih := filter_append_filter_perm p q xs fun y hy => h y (List.mem_cons_of_mem _ hy)
    cases hp : p x <;> cases hq : q x
    · simpa [List.filter_cons, hp, hq] using ih
    · simp only [List.filter_cons, hp, hq, Bool.false_eq_true, if_false, if_true, Bool.false_or]
      exact List.perm_middle.trans (ih.cons x)
    · simpa [List.filter_cons, hp, hq] using ih
    · exact absurd (h x (List.mem_cons_self ..) hp) (by simp [hq])

/-- **The candidates of a left row are its compatible right rows**, in another
order: those that bind every shared variable with the left row's values, then
those that leave one unbound. -/
theorem candidates_perm (l : Layout) (rights : List Row) (lrow : Row) :
    (l.candidates rights lrow).Perm (rights.filter (l.compatible lrow)) := by
  unfold candidates
  split
  · rename_i k hk
    have hsplit : ∀ r, l.compatible lrow r =
        ((key (l.shared.map (·.2)) r == some k) ||
          ((key (l.shared.map (·.2)) r).isNone && l.compatible lrow r)) := by
      intro r
      cases hr : key (l.shared.map (·.2)) r with
      | none => simp
      | some k' =>
        have := all_agree_iff_keys l.shared hk hr
        simp only [compatible] at this ⊢
        simp only [Option.some_beq_some, Option.isNone_some, Bool.false_and, Bool.or_false]
        exact Bool.eq_iff_iff.2 (this.trans (by simp))
    rw [List.filter_congr fun r _ => hsplit r]
    refine filter_append_filter_perm _ _ rights fun r _ hkey => ?_
    simp only [beq_iff_eq] at hkey
    simp [hkey]
  · exact List.Perm.refl _

end Layout

end SparqlBag
