import Mathlib.Data.Multiset.Basic
import Mathlib.Tactic.SplitIfs
import SparqlBag.Sort

/-!
# The stable sort keeps its elements

Whatever the order, consistent or not, the stable sort returns a permutation of
its input whenever it returns (`sort_perm`).  Every part writes a permutation of a
slice back over it (`writeAt_perm`).  The merge from both ends is the one part that
does not permute by construction: it writes each position once through four
pointers, and its final check passes only if no pointer ran past another
(`MergeState.Progress`, `bidirectionalMerge_perm`).  The seven mutually recursive
functions share one fuel; `Permutes` says they all permute at a fuel and
`permutes` proves it for every fuel.
-/

namespace SparqlBag

namespace StableSort

variable {α : Type}

/-! ## Slices and writes -/

theorem slice_eq (v : Array α) (lo len : Nat) : slice v lo len = (v.toList.drop lo).take len := by
  simp [slice]

theorem get_eq_getElem [Inhabited α] (v : Array α) {i : Nat} (h : i < v.toList.length) :
    get v i = v.toList[i] := by
  rw [Array.length_toList] at h
  simp [get, h]

theorem slice_append (v : Array α) (i m n : Nat) :
    slice v i m ++ slice v (i + m) n = slice v i (m + n) := by
  simp only [slice_eq, List.take_add, List.drop_drop]

theorem slice_append_of_eq (v : Array α) {i j m : Nat} (h : j = i + m) (n : Nat) :
    slice v i m ++ slice v j n = slice v i (m + n) := by
  rw [h, slice_append]

theorem extract_toList (v : Array α) (i j : Nat) : (v.extract i j).toList = slice v i (j - i) := by
  simp [slice_eq]

theorem slice_all (v : Array α) : slice v 0 v.size = v.toList := by
  rw [slice_eq, List.drop_zero, List.take_of_length_le (by simp)]

theorem slice_succ [Inhabited α] {v : Array α} {i : Nat} (h : i < v.size) (n : Nat) :
    slice v i (n + 1) = get v i :: slice v (i + 1) n := by
  rw [slice_eq, slice_eq, List.drop_eq_getElem_cons (by simpa using h), List.take_succ_cons,
    get_eq_getElem v (by simpa using h)]

theorem slice_concat [Inhabited α] {v : Array α} {i n : Nat} (h : i + n < v.size) :
    slice v i (n + 1) = slice v i n ++ [get v (i + n)] := by
  rw [← slice_append, slice_succ h 0, slice_eq v (i + n + 1) 0, List.take_zero]

theorem take_succ_set {l : List α} {p : Nat} (h : p < l.length) (x : α) :
    (l.take (p + 1)).set p x = l.take p ++ [x] := by
  rw [List.take_add_one, List.getElem?_eq_getElem h, Option.toList_some,
    List.set_append_right _ _ (List.length_take_le _ _)]
  simp [Nat.min_eq_left h.le]

private theorem foldl_set_toList (lo : Nat) :
    ∀ (xs : List α) (k : Nat) (v : Array α), lo + k + xs.length ≤ v.size →
      ((xs.zipIdx k).foldl (fun v (x, i) => v.set! (lo + i) x) v).toList =
        v.toList.take (lo + k) ++ xs ++ v.toList.drop (lo + k + xs.length)
  | [], k, v, _ => by simp
  | x :: xs, k, v, h => by
    simp only [List.length_cons] at h
    rw [List.zipIdx_cons, List.foldl_cons, foldl_set_toList lo xs (k + 1) _ (by simp; omega)]
    simp only [Array.set!_eq_setIfInBounds, Array.toList_setIfInBounds, List.take_set,
      List.drop_set, List.length_cons, show lo + (k + 1) = lo + k + 1 by omega, take_succ_set (show lo + k < v.toList.length by simp; omega)]
    simp [Nat.add_assoc, Nat.add_comm 1]

theorem writeAt_toList (v : Array α) (lo : Nat) (xs : List α) (h : lo + xs.length ≤ v.size) :
    (writeAt v lo xs).toList = v.toList.take lo ++ xs ++ v.toList.drop (lo + xs.length) := by
  have hfold := foldl_set_toList lo xs 0 v (by simpa using h)
  simpa [writeAt] using hfold

private theorem foldl_set_past (lo : Nat) :
    ∀ (xs : List α) (k : Nat) (v : Array α), v.size ≤ lo + k →
      (xs.zipIdx k).foldl (fun v (x, i) => v.set! (lo + i) x) v = v
  | [], _, _, _ => rfl
  | x :: xs, k, v, h => by
    rw [List.zipIdx_cons, List.foldl_cons]
    dsimp only
    rw [Array.set!_eq_setIfInBounds, Array.setIfInBounds_eq_of_size_le (by omega)]
    exact foldl_set_past lo xs (k + 1) v (by omega)

private theorem size_foldl_set (lo : Nat) :
    ∀ (xs : List α) (k : Nat) (v : Array α),
      ((xs.zipIdx k).foldl (fun v (x, i) => v.set! (lo + i) x) v).size = v.size
  | [], _, _ => rfl
  | x :: xs, k, v => by
    rw [List.zipIdx_cons, List.foldl_cons, size_foldl_set lo xs (k + 1)]
    simp

/-- Writes past the end of the array change nothing. -/
theorem writeAt_take (v : Array α) (lo : Nat) (xs : List α) :
    writeAt v lo xs = writeAt v lo (xs.take (v.size - lo)) := by
  rcases Nat.lt_or_ge (v.size - lo) xs.length with hlong | hshort
  · conv_lhs => rw [← List.take_append_drop (v.size - lo) xs]
    unfold writeAt
    rw [List.zipIdx_append, List.foldl_append]
    refine foldl_set_past lo _ _ _ ?_
    rw [size_foldl_set, List.length_take]
    omega
  · rw [List.take_of_length_le hshort]

/-- Writing a permutation of a slice over it permutes the whole array. -/
theorem writeAt_perm {v : Array α} {lo : Nat} (len : Nat) {xs : List α} (h : xs.Perm (slice v lo len)) :
    (writeAt v lo xs).toList.Perm v.toList := by
  have hlen : xs.length = min len (v.size - lo) := by
    rw [h.length_eq, slice_eq]
    simp
  rcases Nat.lt_or_ge v.size lo with hlo | hlo
  · -- Past the end there is nothing to write.
    have hnil : xs = [] := List.length_eq_zero_iff.1 (by omega)
    subst hnil
    exact .refl _
  have hslice : slice v lo len = (v.toList.drop lo).take xs.length := by
    rw [slice_eq, hlen]
    simp
  rw [writeAt_toList v lo xs (by omega)]
  calc List.Perm (v.toList.take lo ++ xs ++ v.toList.drop (lo + xs.length))
        (v.toList.take lo ++ slice v lo len ++ v.toList.drop (lo + xs.length)) :=
        (h.append_left _).append_right _
      _ = v.toList := by
        rw [hslice, List.append_assoc, ← List.drop_drop, List.take_append_drop, List.take_append_drop]

/-! ## Insertion and merging -/

theorem insertBackwards_perm (less : α → α → Bool) (x : α) :
    ∀ ys, (insertBackwards less x ys).Perm (x :: ys)
  | [] => .refl _
  | y :: ys => by
    unfold insertBackwards
    split
    · exact ((insertBackwards_perm less x ys).cons y).trans (.swap x y ys)
    · exact .refl _

theorem insertAll_perm (less : α → α → Bool) (sorted rest : List α) :
    (insertAll less sorted rest).Perm (sorted ++ rest) := by
  -- The fold keeps the inserted elements in front of the backwards sorted list.
  have hfold : ∀ (xs acc : List α),
      (xs.foldl (fun backwards x => insertBackwards less x backwards) acc).Perm (xs.reverse ++ acc) := by
    intro xs
    induction xs with
    | nil => exact fun acc => .refl _
    | cons x xs ih =>
      intro acc
      rw [List.foldl_cons, List.reverse_cons, List.append_assoc, List.singleton_append]
      exact (ih _).trans ((insertBackwards_perm less x acc).append_left _)
  calc List.Perm (insertAll less sorted rest)
        (rest.foldl (fun backwards x => insertBackwards less x backwards) sorted.reverse) :=
        List.reverse_perm _
      _ = _ := rfl
      List.Perm _ (rest.reverse ++ sorted.reverse) := hfold rest sorted.reverse
      _ = (sorted ++ rest).reverse := List.reverse_append.symm
      List.Perm _ (sorted ++ rest) := List.reverse_perm _

theorem insertionSort_perm (less : α → α → Bool) (xs : List α) :
    (insertionSort less xs).Perm xs :=
  insertAll_perm less [] xs

theorem mergeForward_perm (less : α → α → Bool) (xs ys : List α) :
    (mergeForward less xs ys).Perm (xs ++ ys) := by
  fun_induction mergeForward less xs ys with
  | case1 ys => exact .refl _
  | case2 xs => simp
  | case3 x xs y ys hlt ih => exact (ih.cons y).trans List.perm_middle.symm
  | case4 x xs y ys _ ih => exact ih.cons x

theorem mergeBackward_perm (less : α → α → Bool) (xs ys acc : List α) :
    (mergeBackward less xs ys acc).Perm (xs ++ ys ++ acc) := by
  fun_induction mergeBackward less xs ys acc with
  | case1 ys acc => simpa using (List.reverse_perm ys).append_right acc
  | case2 xs acc => simpa using (List.reverse_perm xs).append_right acc
  | case3 x xs y ys acc _ ih =>
    refine ih.trans ?_
    simpa only [List.append_assoc, List.cons_append] using @List.perm_middle _ x (xs ++ y :: ys) acc
  | case4 x xs y ys acc _ ih =>
    refine ih.trans ((@List.perm_middle _ y (x :: xs ++ ys) acc).trans ?_)
    simpa only [List.append_assoc, List.cons_append] using
      (@List.perm_middle _ y (x :: xs) (ys ++ acc)).symm

/-! ## Partitions, runs and merges of slices -/

theorem stablePartition_perm (v : Array α) (lo len pivot : Nat) (pivotLeft : Bool)
    (toLeft : α → Bool) : (stablePartition v lo len pivot pivotLeft toLeft).1.toList.Perm v.toList := by
  unfold stablePartition
  apply writeAt_perm len
  rw [← List.map_append]
  refine ((List.filter_append_perm _ _).map Prod.fst).trans ?_
  rw [List.zipIdx_map_fst]

/-! ## The small sort -/

/-- A compare-and-swap keeps its two elements. -/
theorem select_perm (p : Bool) (x y : α) : [if p then y else x, if p then x else y].Perm [x, y] := by
  cases p
  · rfl
  · exact List.Perm.swap x y []

theorem sort4_perm [Inhabited α] (less : α → α → Bool) (v : Array α) (h : v.size = 4) :
    (sort4 less v).Perm v.toList := by
  have hv : v.toList = [get v 0, get v 1] ++ [get v 2, get v 3] := by
    rcases v with ⟨_ | ⟨a, _ | ⟨b, _ | ⟨c, _ | ⟨d, _ | ⟨e, l⟩⟩⟩⟩⟩⟩ <;> simp_all [get]
  rw [hv]
  unfold sort4
  dsimp only
  -- The network swaps the first two and the last two elements into place, picks
  -- the least, the greatest and the two in between of those four, and swaps the
  -- two in between: each stage keeps the elements.
  set a := if less (get v 1) (get v 0) then get v 1 else get v 0
  set b := if less (get v 1) (get v 0) then get v 0 else get v 1
  set c := if less (get v 3) (get v 2) then get v 3 else get v 2
  set d := if less (get v 3) (get v 2) then get v 2 else get v 3
  have hpairs : [a, b, c, d].Perm ([get v 0, get v 1] ++ [get v 2, get v 3]) :=
    (select_perm _ _ _).append (select_perm _ _ _)
  set uL := if less c a then a else if less d b then c else b with huL
  set uR := if less d b then d else if less c a then b else c with huR
  have hpick : [if less c a then c else a, uL, uR, if less d b then b else d].Perm [a, b, c, d] := by
    rw [huL, huR]
    cases less c a <;> cases less d b <;> simp only [Bool.false_eq_true, if_true, if_false]
    · exact List.Perm.refl _
    · exact (List.perm_append_singleton b [c, d]).cons a
    · exact (@List.perm_middle _ c [a, b] [d]).symm
    · exact (List.Perm.swap a c [d, b]).trans ((List.perm_append_singleton b [c, d]).cons a)
  exact (((select_perm _ _ _).append_right _).cons _).trans (hpick.trans hpairs)

theorem take_set_set {l : List α} {p q : Nat} (hpq : p < q) (hq : q < l.length) (x y : α) :
    ((l.set p x).set q y).take (p + 1) = l.take p ++ [x] := by
  rw [List.take_set, List.set_eq_of_length_le (by simp; omega), List.take_set,
    take_succ_set (by omega)]

theorem drop_set_set {l : List α} {p q : Nat} (hpq : p < q) (hq : q < l.length) (x y : α) :
    ((l.set p x).set q y).drop q = y :: l.drop (q + 1) := by
  rw [List.drop_set, if_neg (by omega), Nat.sub_self, List.drop_set, if_pos hpq,
    List.drop_eq_getElem_cons hq, List.set_cons_zero]

/-! ## The merge from both ends -/

namespace MergeState

/-- What `k` steps of the merge from both ends have written: in front, the
elements taken from the front of both halves, at the back those taken from
the back of both halves. -/
structure Written (src : Array α) (k : Nat) (s : MergeState α) : Prop where
  size : s.out.size = src.size
  front : (s.out.toList.take k).Perm
    (slice src 0 s.left ++ slice src (src.size / 2) (s.right - src.size / 2))
  back : (s.out.toList.drop (src.size - k)).Perm
    (slice src s.leftEnd (src.size / 2 - s.leftEnd) ++ slice src s.rightEnd (src.size - s.rightEnd))

/-- The invariant of the merge after `k` steps.  Each step takes one element
at the front; at the back it takes one too unless an end pointer was already
at zero.  What was written is known while no step missed at the back and the
front pointers have not passed the back ones: once either happens, it stays
so, and the final check fails. -/
structure Progress (src : Array α) (k : Nat) (s : MergeState α) : Prop where
  front_count : s.left + s.right = src.size / 2 + k
  back_count : src.size / 2 + src.size ≤ s.leftEnd + s.rightEnd + k
  leftEnd_le : s.leftEnd ≤ src.size / 2
  rightEnd_le : s.rightEnd ≤ src.size
  half_le_right : src.size / 2 ≤ s.right
  written : s.leftEnd + s.rightEnd + k = src.size / 2 + src.size → s.left ≤ s.leftEnd →
    s.right ≤ s.rightEnd → Written src k s

theorem progress_start (src : Array α) :
    Progress src 0 ⟨0, src.size / 2, src.size / 2, src.size, src⟩ := by
  refine ⟨by simp, Nat.le_add_right _ 0, le_refl _, le_refl _, le_refl _,
    fun _ _ _ => ⟨rfl, ?_, ?_⟩⟩
  · simp [slice_eq]
  · simp [slice_eq]

variable [Inhabited α] {src : Array α}

/-- The front of one step takes the next element of one of the halves. -/
def FrontMove (src : Array α) (s s' : MergeState α) (x : α) : Prop :=
  (s'.left = s.left + 1 ∧ s'.right = s.right ∧ x = get src s.left) ∨
    (s'.left = s.left ∧ s'.right = s.right + 1 ∧ x = get src s.right)

/-- The back of one step takes the last remaining element of one of the halves. -/
def BackMove (src : Array α) (s s' : MergeState α) (y : α) : Prop :=
  (s'.leftEnd = s.leftEnd ∧ s'.rightEnd = s.rightEnd - 1 ∧ y = get src (s.rightEnd - 1)) ∨
    (s'.leftEnd = s.leftEnd - 1 ∧ s'.rightEnd = s.rightEnd ∧ y = get src (s.leftEnd - 1))

theorem step_moves (src : Array α) (less : α → α → Bool) (s : MergeState α) (k : Nat) :
    ∃ x y, (s.step less src k).out = (s.out.set! k x).set! (src.size - 1 - k) y ∧
      FrontMove src s (s.step less src k) x ∧ BackMove src s (s.step less src k) y := by
  dsimp only [step]
  refine ⟨_, _, rfl, ?_, ?_⟩
  · unfold FrontMove
    cases less (get src s.right) (get src s.left) <;> simp
  · unfold BackMove
    cases less (get src (s.rightEnd - 1)) (get src (s.leftEnd - 1)) <;> simp

theorem FrontMove.written {s s' : MergeState α} {x : α} {k : Nat} (hm : FrontMove src s s' x)
    (hleft : s'.left ≤ src.size / 2) (hright : s'.right ≤ src.size) (hhalf : src.size / 2 ≤ s.right)
    (hs : (s.out.toList.take k).Perm
      (slice src 0 s.left ++ slice src (src.size / 2) (s.right - src.size / 2))) :
    (s.out.toList.take k ++ [x]).Perm
      (slice src 0 s'.left ++ slice src (src.size / 2) (s'.right - src.size / 2)) := by
  rcases hm with ⟨hl, hr, rfl⟩ | ⟨hl, hr, rfl⟩
  · rw [hl, hr, slice_concat (by omega)]
    simp only [Nat.zero_add]
    calc List.Perm (s.out.toList.take k ++ [get src s.left])
          (slice src 0 s.left ++ slice src (src.size / 2) (s.right - src.size / 2) ++
            [get src s.left]) := hs.append_right _
      _ = slice src 0 s.left ++ (slice src (src.size / 2) (s.right - src.size / 2) ++
            [get src s.left]) := List.append_assoc _ _ _
      List.Perm _ (slice src 0 s.left ++ ([get src s.left] ++
            slice src (src.size / 2) (s.right - src.size / 2))) :=
        List.perm_append_comm.append_left _
      _ = _ := (List.append_assoc _ _ _).symm
  · rw [hl, hr, show s.right + 1 - src.size / 2 = s.right - src.size / 2 + 1 by omega,
      slice_concat (by omega), show src.size / 2 + (s.right - src.size / 2) = s.right by omega,
      ← List.append_assoc]
    exact hs.append_right _

theorem BackMove.written {s s' : MergeState α} {y : α} {k : Nat} (hm : BackMove src s s' y)
    (hleft : s.leftEnd ≤ src.size / 2) (hright : s.rightEnd ≤ src.size)
    (hexact : s'.leftEnd + s'.rightEnd + 1 = s.leftEnd + s.rightEnd)
    (hs : (s.out.toList.drop (src.size - k)).Perm
      (slice src s.leftEnd (src.size / 2 - s.leftEnd) ++ slice src s.rightEnd (src.size - s.rightEnd))) :
    (y :: s.out.toList.drop (src.size - k)).Perm
      (slice src s'.leftEnd (src.size / 2 - s'.leftEnd) ++
        slice src s'.rightEnd (src.size - s'.rightEnd)) := by
  rcases hm with ⟨hl, hr, rfl⟩ | ⟨hl, hr, rfl⟩
  · rw [hl, hr, show src.size - (s.rightEnd - 1) = src.size - s.rightEnd + 1 by omega,
      slice_succ (by omega), show s.rightEnd - 1 + 1 = s.rightEnd by omega]
    exact (hs.cons _).trans List.perm_middle.symm
  · rw [hl, hr, show src.size / 2 - (s.leftEnd - 1) = src.size / 2 - s.leftEnd + 1 by omega,
      slice_succ (by omega), show s.leftEnd - 1 + 1 = s.leftEnd by omega]
    exact hs.cons _

theorem Progress.step (less : α → α → Bool) {k : Nat} {s : MergeState α} (h : Progress src k s) : Progress src (k + 1) (s.step less src k) := by
  obtain ⟨x, y, hout, hf, hb⟩ := step_moves src less s k
  have hfront := h.front_count
  have hback := h.back_count
  have hle := h.leftEnd_le
  have hre := h.rightEnd_le
  have hhr := h.half_le_right
  have hfc : (s.step less src k).left + (s.step less src k).right = s.left + s.right + 1 := by
    rcases hf with ⟨h1, h2, -⟩ | ⟨h1, h2, -⟩ <;> omega
  have hbc : (s.step less src k).leftEnd + (s.step less src k).rightEnd + 1 ≥ s.leftEnd + s.rightEnd ∧
      (s.step less src k).leftEnd ≤ s.leftEnd ∧ (s.step less src k).rightEnd ≤ s.rightEnd := by
    rcases hb with ⟨h1, h2, -⟩ | ⟨h1, h2, -⟩ <;> omega
  have hright : s.right ≤ (s.step less src k).right := by
    rcases hf with ⟨h1, h2, -⟩ | ⟨h1, h2, -⟩ <;> omega
  have hleft : s.left ≤ (s.step less src k).left := by
    rcases hf with ⟨h1, h2, -⟩ | ⟨h1, h2, -⟩ <;> omega
  refine ⟨by omega, by omega, by omega, by omega, by omega, ?_⟩
  intro hexact hl hr
  -- The step met its guard, so no earlier step missed at the back.
  have hw := h.written (by omega) (by omega) (by omega)
  have hsize : s.out.toList.length = src.size := by simp [hw.size]
  have hpq : k < src.size - 1 - k := by omega
  refine ⟨by simp [hout, hw.size], ?_, ?_⟩
  · rw [hout, Array.set!_eq_setIfInBounds, Array.set!_eq_setIfInBounds, Array.toList_setIfInBounds,
      Array.toList_setIfInBounds, take_set_set hpq (by omega)]
    exact hf.written (by omega) (by omega) hhr hw.front
  · rw [hout, Array.set!_eq_setIfInBounds, Array.set!_eq_setIfInBounds, Array.toList_setIfInBounds,
      Array.toList_setIfInBounds, show src.size - (k + 1) = src.size - 1 - k by omega,
      drop_set_set hpq (by omega), show src.size - 1 - k + 1 = src.size - k by omega]
    exact hb.written hle hre (by omega) hw.back

theorem progress_run (src : Array α) (less : α → α → Bool) (n : Nat) :
    Progress src n ((List.range n).foldl (step less src)
      ⟨0, src.size / 2, src.size / 2, src.size, src⟩) := by
  induction n with
  | zero => exact progress_start src
  | succ n ih =>
    rw [List.range_succ, List.foldl_append, List.foldl_cons, List.foldl_nil]
    exact ih.step less

end MergeState

/-- Four pieces regrouped: the fronts of both halves, then their backs. -/
private theorem perm_regroup (a b c d : List α) : ((a ++ b) ++ (c ++ d)).Perm ((a ++ c) ++ (b ++ d)) := by
  have hbc : (b ++ c).Perm (c ++ b) := List.perm_append_comm
  simpa only [List.append_assoc] using (hbc.append_right d).append_left a

/-- **The merge from both ends returns a permutation of its input** whenever
its final check passes. -/
theorem bidirectionalMerge_perm [Inhabited α] (less : α → α → Bool) {src out : Array α}
    (h : bidirectionalMerge less src = some out) : out.toList.Perm src.toList := by
  have hrun := MergeState.progress_run src less (src.size / 2)
  unfold bidirectionalMerge at h
  dsimp only at h
  generalize (List.range (src.size / 2)).foldl (MergeState.step less src)
    ⟨0, src.size / 2, src.size / 2, src.size, src⟩ = s at hrun h
  have hfront := hrun.front_count
  have hle := hrun.leftEnd_le
  have hre := hrun.rightEnd_le
  have hhr := hrun.half_le_right
  -- The source as the four stretches the two sides took.
  have hsrc : ∀ l r, l ≤ src.size / 2 → src.size / 2 ≤ r → r ≤ src.size →
      ((slice src 0 l ++ slice src l (src.size / 2 - l)) ++
        (slice src (src.size / 2) (r - src.size / 2) ++ slice src r (src.size - r))) = src.toList := by
    intro l r hl hh hr
    rw [slice_append_of_eq src (by omega), slice_append_of_eq src (by omega),
      slice_append_of_eq src (by omega), show l + (src.size / 2 - l) +
        (r - src.size / 2 + (src.size - r)) = src.size by omega, slice_all]
  by_cases hodd : src.size % 2 = 0
  · -- An even number of elements: the two sides meet in the middle.
    simp [hodd] at h
    obtain ⟨⟨hl, hr⟩, rfl⟩ := h
    have hw := hrun.written (by omega) (by omega) (by omega)
    have hb := hw.back
    rw [show src.size - src.size / 2 = src.size / 2 by omega, ← hl, ← hr] at hb
    rw [← List.take_append_drop (src.size / 2) s.out.toList,
      ← hsrc s.left s.right (by omega) hhr (by omega)]
    exact (hw.front.append hb).trans (perm_regroup _ _ _ _)
  · -- An odd number: the middle element comes from the side that has one left.
    have hne : (src.size % 2 != 0) = true := by simpa using hodd
    simp only [hne, if_true] at h
    unfold MergeState.middle at h
    split at h
    · rename_i hlt
      simp at h
      obtain ⟨⟨hl, hr⟩, rfl⟩ := h
      have hw := hrun.written (by omega) (by omega) (by omega)
      have hb := hw.back
      rw [show src.size - src.size / 2 = src.size / 2 + 1 by omega, ← hl, ← hr] at hb
      rw [Array.toList_setIfInBounds, List.set_eq_take_append_cons_drop,
        if_pos (by simp [hw.size]; omega),
        ← hsrc s.left s.right (by omega) hhr (by omega),
        show src.size / 2 - s.left = src.size / 2 - (s.left + 1) + 1 by omega,
        slice_succ (by omega)]
      exact (hw.front.append (hb.cons _)).trans
        (perm_regroup _ _ (get src s.left :: slice src (s.left + 1) (src.size / 2 - (s.left + 1))) _)
    · rename_i hge
      simp at h
      obtain ⟨⟨hl, hr⟩, rfl⟩ := h
      have hw := hrun.written (by omega) (by omega) (by omega)
      have hb := hw.back
      rw [show src.size - src.size / 2 = src.size / 2 + 1 by omega, ← hl, ← hr] at hb
      rw [Array.toList_setIfInBounds, List.set_eq_take_append_cons_drop,
        if_pos (by simp [hw.size]; omega),
        ← hsrc s.left s.right (by omega) hhr (by omega),
        show src.size - s.right = src.size - (s.right + 1) + 1 by omega,
        slice_succ (by omega)]
      exact (hw.front.append ((hb.cons _).trans List.perm_middle.symm)).trans
        (perm_regroup _ _ _ (get src s.right :: slice src (s.right + 1) (src.size - (s.right + 1))))

/-! ## The small sort -/

theorem sort8_perm [Inhabited α] (less : α → α → Bool) {v : Array α} (h : v.size = 8)
    {out : List α} (hs : sort8 less v = some out) : out.Perm v.toList := by
  unfold sort8 at hs
  obtain ⟨w, hw, rfl⟩ := Option.map_eq_some_iff.1 hs
  have h1 := sort4_perm less (v.extract 0 4) (by simp [h])
  have h2 := sort4_perm less (v.extract 4 8) (by simp [h])
  refine (bidirectionalMerge_perm less hw).trans ((h1.append h2).trans ?_)
  rw [extract_toList, extract_toList, slice_append_of_eq v (by omega),
    show 4 - 0 + (8 - 4) = v.size by omega, slice_all]

/-- The presorted starts of both halves, completed by insertion, hold the
presorted elements and the rest of each half. -/
private theorem insertAll_halves (less : α → α → Bool) (v : Array α) (first second : List α)
    (p : Nat) :
    (insertAll less first (v.extract p (v.size / 2)).toList ++
        insertAll less second (v.extract (v.size / 2 + p) v.size).toList).Perm
      ((first ++ slice v p (v.size / 2 - p)) ++
        (second ++ slice v (v.size / 2 + p) (v.size - (v.size / 2 + p)))) := by
  rw [extract_toList, extract_toList]
  exact (insertAll_perm less _ _).append (insertAll_perm less _ _)

theorem smallSort_perm [Inhabited α] (cfg : Config α) {v w : Array α} (h2 : 2 ≤ v.size)
    (h : smallSort cfg v = some w) : w.toList.Perm v.toList := by
  -- Whatever the presorted length, the merge gets the elements of both halves.
  have hmerge : ∀ (first second : List α) (p : Nat), first.Perm (slice v 0 p) →
      second.Perm (slice v (v.size / 2) p) → p ≤ v.size / 2 →
      bidirectionalMerge cfg.less (insertAll cfg.less first (v.extract p (v.size / 2)).toList ++
        insertAll cfg.less second (v.extract (v.size / 2 + p) v.size).toList).toArray = some w →
      w.toList.Perm v.toList := by
    intro first second p hf hs hp hw
    refine (bidirectionalMerge_perm cfg.less hw).trans ?_
    rw [List.toList_toArray]
    refine (insertAll_halves cfg.less v first second p).trans ?_
    refine ((hf.append_right _).append (hs.append_right _)).trans ?_
    rw [slice_append_of_eq v (by omega), slice_append_of_eq v (by omega),
      slice_append_of_eq v (by omega), show p + (v.size / 2 - p) + (p + (v.size - (v.size / 2 + p))) =
        v.size by omega, slice_all]
  unfold smallSort at h
  simp only [] at h
  split_ifs at h with hbig hmid
  · obtain ⟨first, hfirst, h⟩ := Option.bind_eq_some_iff.1 h
    obtain ⟨second, hsecond, h⟩ := Option.bind_eq_some_iff.1 h
    simp only [pure, Option.bind_eq_bind, Option.bind_some] at h
    have h16 : 16 ≤ v.size := by
      simp only [Bool.and_eq_true, decide_eq_true_eq] at hbig
      exact hbig.2
    refine hmerge first second 8 ((sort8_perm cfg.less (by simp; omega) hfirst).trans ?_)
      ((sort8_perm cfg.less (by simp; omega) hsecond).trans ?_) (by omega) h
    · rw [extract_toList]
    · rw [extract_toList, Nat.add_sub_cancel_left]
  · simp only [pure, Option.bind_eq_bind, Option.bind_some] at h
    refine hmerge _ _ 4 ((sort4_perm cfg.less _ (by simp; omega)).trans ?_)
      ((sort4_perm cfg.less _ (by simp; omega)).trans ?_) (by omega) h
    · rw [extract_toList]
    · rw [extract_toList, Nat.add_sub_cancel_left]
  · simp only [pure, Option.bind_eq_bind, Option.bind_some] at h
    refine hmerge _ _ 1 ?_ ?_ (by omega) h
    · rw [slice_succ (by omega), slice_eq v 1 0, List.take_zero]
    · rw [slice_succ (by omega), slice_eq v _ 0, List.take_zero]

/-- With fewer than two elements the small sort merges the first element with
itself. -/
theorem smallSort_of_lt_two [Inhabited α] (cfg : Config α) {v w : Array α} (h1 : v.size < 2)
    (h : smallSort cfg v = some w) : w.toList.Perm [get v 0, get v 0] := by
  unfold smallSort at h
  simp only [] at h
  rw [if_neg (by simp; omega), if_neg (by omega)] at h
  simp only [pure, Option.bind_eq_bind, Option.bind_some] at h
  refine (bidirectionalMerge_perm cfg.less h).trans ?_
  rw [List.toList_toArray, show v.size / 2 = 0 by omega]
  simp [insertAll, List.drop_eq_nil_of_le (show v.size ≤ 1 by omega)]

theorem smallSortAt_perm [Inhabited α] (cfg : Config α) {v w : Array α} {lo len : Nat}
    (h : smallSortAt cfg v lo len = some w) : w.toList.Perm v.toList := by
  unfold smallSortAt at h
  split at h
  · cases h
    exact .refl _
  obtain ⟨u, hu, rfl⟩ := Option.map_eq_some_iff.1 h
  rw [writeAt_take]
  apply writeAt_perm len
  rcases Nat.lt_or_ge (v.extract lo (lo + len)).size 2 with hsmall | hbig
  · -- The slice runs past the end: at most its first element is written back.
    have hu2 := List.perm_replicate.1 (show u.toList.Perm (List.replicate 2 _) from
      smallSort_of_lt_two cfg hsmall hu)
    simp only [Array.size_extract] at hsmall
    rw [hu2]
    rcases Nat.lt_or_ge lo v.size with hlo | hlo
    · have hx : get (v.extract lo (lo + len)) 0 = get v lo := by
        simp [get, Array.getD_eq_getD_getElem?, hlo,
          show 0 < min (lo + len) v.size - lo by omega]
      rw [hx, show v.size - lo = 1 by omega, show len = len - 1 + 1 by omega, slice_succ hlo,
        slice_eq v (lo + 1), List.drop_eq_nil_of_le (by simp; omega)]
      simp
    · rw [show v.size - lo = 0 by omega, slice_eq, List.drop_eq_nil_of_le (by simpa using hlo)]
      simp
  · have hp := smallSort_perm cfg hbig hu
    rw [List.take_of_length_le (by rw [hp.length_eq, Array.length_toList, Array.size_extract]; omega)]
    exact hp.trans (by rw [extract_toList, Nat.add_sub_cancel_left])

/-! ## Merges of runs -/

theorem mergeAt_perm [Inhabited α] (less : α → α → Bool) (v : Array α) (lo len mid : Nat) :
    (mergeAt less v lo len mid).toList.Perm v.toList := by
  unfold mergeAt
  split
  · exact .refl _
  rename_i hmid
  simp only [Bool.or_eq_true, beq_iff_eq, decide_eq_true_eq, not_or] at hmid
  apply writeAt_perm len
  have hs : slice v lo len = slice v lo mid ++ slice v (lo + mid) (len - mid) := by
    rw [slice_append_of_eq v rfl, Nat.add_sub_cancel' (by omega)]
  rw [hs]
  split
  · exact mergeForward_perm less _ _
  · refine (mergeBackward_perm less _ _ []).trans ?_
    rw [List.append_nil]
    exact (List.reverse_perm _).append (List.reverse_perm _)

theorem partitionBelow_perm [Inhabited α] (cfg : Config α) (v : Array α) (lo len p : Nat)
    (ancestor : Option α) : (partitionBelow cfg v lo len p ancestor).1.toList.Perm v.toList := by
  unfold partitionBelow
  dsimp only
  split_ifs
  · exact .refl _
  · exact stablePartition_perm v lo len p false _

/-! ## The whole sort, level by level of fuel -/

/-- Every part of the run-merging sort, given `fuel`, returns a permutation of
its array when it returns. -/
structure Permutes [Inhabited α] (cfg : Config α) (fuel : Nat) : Prop where
  quicksort_perm : ∀ {v lo len limit ancestor w}, quicksort cfg fuel v lo len limit ancestor = some w →
    w.toList.Perm v.toList
  stableQuicksort_perm : ∀ {v lo len w}, stableQuicksort cfg fuel v lo len = some w →
    w.toList.Perm v.toList
  createRun_perm : ∀ {v lo len minGood eager w r}, createRun cfg fuel v lo len minGood eager = some (w, r) →
    w.toList.Perm v.toList
  logicalMerge_perm : ∀ {v lo len left right w r}, logicalMerge cfg fuel v lo len left right = some (w, r) →
    w.toList.Perm v.toList
  collapse_perm : ∀ {v lo scan prev stack depth w r rest},
    collapse cfg fuel v lo scan prev stack depth = some (w, r, rest) → w.toList.Perm v.toList
  runLoop_perm : ∀ {v lo len scale minGood eager scan prev stack w},
    runLoop cfg fuel v lo len scale minGood eager scan prev stack = some w → w.toList.Perm v.toList
  runSort_perm : ∀ {v lo len eager w}, runSort cfg fuel v lo len eager = some w → w.toList.Perm v.toList

variable [Inhabited α] {cfg : Config α} {fuel : Nat}

/-- Out of fuel, every part fails. -/
theorem permutes_zero : Permutes cfg 0 where
  quicksort_perm h := by simp [quicksort] at h
  stableQuicksort_perm h := by simp [stableQuicksort] at h
  createRun_perm h := by simp [createRun] at h
  logicalMerge_perm h := by simp [logicalMerge] at h
  collapse_perm h := by simp [collapse] at h
  runLoop_perm h := by simp [runLoop] at h
  runSort_perm h := by simp [runSort] at h

theorem Permutes.quicksort_succ (ih : Permutes cfg fuel) {v lo len limit ancestor w}
    (h : quicksort cfg (fuel + 1) v lo len limit ancestor = some w) : w.toList.Perm v.toList := by
  simp only [quicksort] at h
  split at h
  · exact smallSortAt_perm cfg h
  split at h
  · exact ih.runSort_perm h
  split at h
  · -- Nothing went left: the elements not above the pivot go left now.
    exact (ih.quicksort_perm h).trans ((stablePartition_perm _ _ _ _ _ _).trans
      (partitionBelow_perm _ _ _ _ _ _))
  · obtain ⟨u, hu, h⟩ := Option.bind_eq_some_iff.1 h
    exact (ih.quicksort_perm h).trans ((ih.quicksort_perm hu).trans (partitionBelow_perm _ _ _ _ _ _))

theorem Permutes.stableQuicksort_succ (ih : Permutes cfg fuel) {v lo len w}
    (h : stableQuicksort cfg (fuel + 1) v lo len = some w) : w.toList.Perm v.toList := by
  simp only [stableQuicksort] at h
  exact ih.quicksort_perm h

theorem Permutes.createRun_succ (ih : Permutes cfg fuel) {v lo len minGood eager w r}
    (h : createRun cfg (fuel + 1) v lo len minGood eager = some (w, r)) : w.toList.Perm v.toList := by
  rw [createRun] at h
  split at h
  dsimp only at h
  split at h
  · -- An existing run, turned around when it descends.
    simp only [Option.some.injEq, Prod.mk.injEq] at h
    rw [← h.1]
    split
    · exact writeAt_perm _ (List.reverse_perm _)
    · exact .refl _
  split at h
  · obtain ⟨u, hu, hw⟩ := Option.map_eq_some_iff.1 h
    cases hw
    exact ih.quicksort_perm hu
  · cases h
    exact .refl _

/-- A run that is sorted already stays; an unsorted one is sorted. -/
theorem Permutes.sortRun (ih : Permutes cfg fuel) (sorted : Bool) {v lo len w}
    (h : (if sorted = true then pure v else stableQuicksort cfg fuel v lo len) = some w) :
    w.toList.Perm v.toList := by
  split at h
  · cases h
    exact .refl _
  · exact ih.stableQuicksort_perm h

theorem Permutes.logicalMerge_succ (ih : Permutes cfg fuel) {v lo len left right w r}
    (h : logicalMerge cfg (fuel + 1) v lo len left right = some (w, r)) : w.toList.Perm v.toList := by
  rw [logicalMerge] at h
  split at h
  · cases h
    exact .refl _
  obtain ⟨u, hu, h⟩ := Option.bind_eq_some_iff.1 h
  obtain ⟨u', hu', h⟩ := Option.bind_eq_some_iff.1 h
  cases h
  exact (mergeAt_perm _ _ _ _ _).trans ((ih.sortRun _ hu').trans (ih.sortRun _ hu))

theorem Permutes.collapse_succ (ih : Permutes cfg fuel) {v lo scan prev stack depth w r rest}
    (h : collapse cfg (fuel + 1) v lo scan prev stack depth = some (w, r, rest)) :
    w.toList.Perm v.toList := by
  unfold collapse at h
  split at h
  · split at h
    · obtain ⟨⟨u, run⟩, hu, h⟩ := Option.bind_eq_some_iff.1 h
      exact (ih.collapse_perm h).trans (ih.logicalMerge_perm hu)
    · cases h
      exact .refl _
  · cases h
    exact .refl _

theorem Permutes.runLoop_succ (ih : Permutes cfg fuel) {v lo len scale minGood eager scan prev stack w}
    (h : runLoop cfg (fuel + 1) v lo len scale minGood eager scan prev stack = some w) :
    w.toList.Perm v.toList := by
  rw [runLoop] at h
  obtain ⟨⟨u, next, depth⟩, hu, h⟩ := Option.bind_eq_some_iff.1 h
  -- The next run, created at the scan position.
  have hu' : u.toList.Perm v.toList := by
    split at hu
    · obtain ⟨⟨u', run⟩, hrun, hu⟩ := Option.bind_eq_some_iff.1 hu
      cases hu
      exact ih.createRun_perm hrun
    · cases hu
      exact .refl _
  obtain ⟨⟨u'', prev', stack'⟩, hc, h⟩ := Option.bind_eq_some_iff.1 h
  have hc' := (ih.collapse_perm hc).trans hu'
  dsimp only at h
  split at h
  · exact (ih.sortRun _ h).trans hc'
  · exact (ih.runLoop_perm h).trans hc'

theorem Permutes.runSort_succ (ih : Permutes cfg fuel) {v lo len eager w}
    (h : runSort cfg (fuel + 1) v lo len eager = some w) : w.toList.Perm v.toList := by
  rw [runSort] at h
  split at h
  · cases h
    exact .refl _
  · exact ih.runLoop_perm h

theorem Permutes.succ (ih : Permutes cfg fuel) : Permutes cfg (fuel + 1) :=
  ⟨ih.quicksort_succ, ih.stableQuicksort_succ, ih.createRun_succ, ih.logicalMerge_succ,
    ih.collapse_succ, ih.runLoop_succ, ih.runSort_succ⟩

theorem permutes (cfg : Config α) : ∀ fuel, Permutes cfg fuel
  | 0 => permutes_zero
  | fuel + 1 => (permutes cfg fuel).succ

/-- **The stable sort returns a permutation of its input** whenever it returns. -/
theorem sort_perm (bytes : Nat) (less : α → α → Bool) {xs ys : List α}
    (h : sort bytes less xs = some ys) : ys.Perm xs := by
  unfold sort at h
  dsimp only at h
  split at h
  · cases h
    exact insertionSort_perm less xs
  · obtain ⟨w, hw, rfl⟩ := Option.map_eq_some_iff.1 h
    simpa using (permutes _ _).runSort_perm hw

end StableSort

end SparqlBag
