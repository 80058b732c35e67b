import SparqlBag.Sort

/-!
# The stable sort sees elements only through the order

Every stage of the sort moves and compares elements and never looks at them
otherwise.  So sorting the images of elements under `f` is sorting the elements by
the order pulled back along `f` and taking images afterwards, when `f` sends the
default element to the default element (`sort_map`), by one induction on the fuel
through the mutual recursion.  A fact about the sort for well-behaved orders thus
carries over to an order that behaves well on the elements at hand: sort a
subtype instead.
-/

namespace SparqlBag

namespace StableSort

variable {α β : Type}

/-- The order on `β` that compares images under `f`.  Reducible, so that the
conditions of a stage on `cfg` and on `cfg.comap f` are seen to be the same. -/
@[reducible] def Config.comap (f : β → α) (cfg : Config α) : Config β :=
  ⟨fun a b => cfg.less (f a) (f b), cfg.scratch, cfg.smallElements⟩

/-! ## Insertion, merging and runs on lists -/

section Lists

variable (f : β → α) (less : α → α → Bool)

theorem map_insertBackwards (x : β) (ys : List β) :
    insertBackwards less (f x) (ys.map f) = (insertBackwards (fun a b => less (f a) (f b)) x ys).map f := by
  induction ys with
  | nil => rfl
  | cons y ys ih =>
    simp only [List.map_cons, insertBackwards]
    split <;> simp [ih]

theorem map_insertAll (sorted rest : List β) :
    insertAll less (sorted.map f) (rest.map f) =
      (insertAll (fun a b => less (f a) (f b)) sorted rest).map f := by
  unfold insertAll
  rw [List.foldl_map, List.map_reverse]
  congr 1
  rw [← List.map_reverse]
  apply List.foldl_hom
  intro acc x
  exact map_insertBackwards f less x acc

theorem map_insertionSort (xs : List β) :
    insertionSort less (xs.map f) = (insertionSort (fun a b => less (f a) (f b)) xs).map f :=
  map_insertAll f less [] xs

theorem count_map (descending : Bool) (prev : β) (xs : List β) :
    existingRun.count less descending (f prev) (xs.map f) =
      existingRun.count (fun a b => less (f a) (f b)) descending prev xs := by
  induction xs generalizing prev with
  | nil => rfl
  | cons x xs ih => simp only [List.map_cons, existingRun.count, ih]

theorem existingRun_map (xs : List β) :
    existingRun less (xs.map f) = existingRun (fun a b => less (f a) (f b)) xs := by
  rcases xs with _ | ⟨x0, _ | ⟨x1, rest⟩⟩
  · rfl
  · rfl
  · simp only [List.map_cons, existingRun, count_map]

theorem map_mergeForward (xs ys : List β) :
    mergeForward less (xs.map f) (ys.map f) =
      (mergeForward (fun a b => less (f a) (f b)) xs ys).map f := by
  fun_induction mergeForward (fun a b => less (f a) (f b)) xs ys with
  | case1 ys => simp [mergeForward]
  | case2 xs hxs => cases xs with
    | nil => exact absurd rfl hxs
    | cons x xs => simp [mergeForward]
  | case3 x xs y ys hlt ih =>
    simp only [List.map_cons] at ih ⊢
    rw [mergeForward, if_pos hlt, ih]
  | case4 x xs y ys hlt ih =>
    simp only [List.map_cons] at ih ⊢
    rw [mergeForward, if_neg hlt, ih]

theorem map_mergeBackward (xs ys acc : List β) :
    mergeBackward less (xs.map f) (ys.map f) (acc.map f) =
      (mergeBackward (fun a b => less (f a) (f b)) xs ys acc).map f := by
  fun_induction mergeBackward (fun a b => less (f a) (f b)) xs ys acc with
  | case1 ys acc => simp [mergeBackward]
  | case2 xs acc hxs => cases xs with
    | nil => exact absurd rfl hxs
    | cons x xs => simp [mergeBackward]
  | case3 x xs y ys acc hlt ih =>
    simp only [List.map_cons] at ih ⊢
    rw [mergeBackward, if_pos hlt, ih]
  | case4 x xs y ys acc hlt ih =>
    simp only [List.map_cons] at ih ⊢
    rw [mergeBackward, if_neg hlt, ih]

end Lists

/-! ## Reads and writes -/

section Arrays

variable (f : β → α)

/-- An out-of-range read gives the default element, so `f` must keep it. -/
theorem map_get [Inhabited α] [Inhabited β] (hf : f default = default) (v : Array β) (i : Nat) :
    get (v.map f) i = f (get v i) := by
  simp only [get, Array.getD_eq_getD_getElem?, Array.getElem?_map]
  cases v[i]? with
  | none => exact hf.symm
  | some x => rfl

theorem map_slice (v : Array β) (lo len : Nat) : slice (v.map f) lo len = (slice v lo len).map f := by
  simp only [slice, ← Array.map_extract, Array.toList_map]

theorem map_writeAt (v : Array β) (lo : Nat) (xs : List β) :
    writeAt (v.map f) lo (xs.map f) = (writeAt v lo xs).map f := by
  unfold writeAt
  rw [List.zipIdx_map, List.foldl_map]
  exact List.foldl_hom (Array.map f) fun w x => by
    simp only [Prod.map, id, Array.set!_eq_setIfInBounds, Array.map_setIfInBounds]

theorem map_mergeAt (less : α → α → Bool) (v : Array β) (lo len mid : Nat) :
    mergeAt less (v.map f) lo len mid = (mergeAt (fun a b => less (f a) (f b)) v lo len mid).map f := by
  unfold mergeAt
  split
  · rfl
  · rw [map_slice, map_slice]
    dsimp only
    split
    · rw [map_mergeForward, map_writeAt]
    · rw [← List.map_reverse, ← List.map_reverse, ← List.map_nil (f := f), map_mergeBackward,
        map_writeAt]

theorem map_stablePartition (v : Array β) (lo len pivot : Nat) (pivotLeft : Bool) (toLeft : α → Bool) :
    stablePartition (v.map f) lo len pivot pivotLeft toLeft =
      Prod.map (Array.map f) id (stablePartition v lo len pivot pivotLeft fun x => toLeft (f x)) := by
  simp only [stablePartition, map_slice, List.zipIdx_map, List.filter_map, List.map_map]
  -- Both sides filter the same positions; the images are taken before or after.
  rw [show ((fun x : α × Nat => x.1) ∘ Prod.map f id) = f ∘ (fun x : β × Nat => x.1) from rfl,
    ← List.map_map, ← List.map_map, ← List.map_append, map_writeAt, List.length_map]
  rfl

end Arrays

/-! ## The small sort and the pivot -/

section Small

variable [Inhabited α] [Inhabited β] (f : β → α) (hf : f default = default)
include hf

theorem map_sort4 (less : α → α → Bool) (v : Array β) :
    sort4 less (v.map f) = (sort4 (fun a b => less (f a) (f b)) v).map f := by
  simp only [sort4, map_get f hf, List.map_cons, List.map_nil, apply_ite f]

/-- The merge state with the images of its output. -/
def MergeState.map (f : β → α) (s : MergeState β) : MergeState α :=
  ⟨s.left, s.right, s.leftEnd, s.rightEnd, s.out.map f⟩

theorem MergeState.map_step (less : α → α → Bool) (src : Array β) (s : MergeState β) (k : Nat) :
    step less (src.map f) (s.map f) k = (step (fun a b => less (f a) (f b)) src s k).map f := by
  simp only [step, MergeState.map, map_get f hf, Array.size_map, Array.set!_eq_setIfInBounds,
    Array.map_setIfInBounds, apply_ite f]

omit [Inhabited α] [Inhabited β] hf in
@[simp] theorem MergeState.map_left (s : MergeState β) : (s.map f).left = s.left := rfl

omit [Inhabited α] [Inhabited β] hf in
@[simp] theorem MergeState.map_right (s : MergeState β) : (s.map f).right = s.right := rfl

omit [Inhabited α] [Inhabited β] hf in
@[simp] theorem MergeState.map_leftEnd (s : MergeState β) : (s.map f).leftEnd = s.leftEnd := rfl

omit [Inhabited α] [Inhabited β] hf in
@[simp] theorem MergeState.map_rightEnd (s : MergeState β) : (s.map f).rightEnd = s.rightEnd := rfl

omit [Inhabited α] [Inhabited β] hf in
@[simp] theorem MergeState.map_out (s : MergeState β) : (s.map f).out = s.out.map f := rfl

theorem MergeState.map_middle (src : Array β) (s : MergeState β) :
    middle (src.map f) (s.map f) = (middle src s).map f := by
  unfold middle
  simp only [MergeState.map, map_get f hf, Array.size_map, Array.set!_eq_setIfInBounds]
  split <;> simp only [Array.map_setIfInBounds]

theorem map_bidirectionalMerge (less : α → α → Bool) (src : Array β) :
    bidirectionalMerge less (src.map f) =
      (bidirectionalMerge (fun a b => less (f a) (f b)) src).map (Array.map f) := by
  unfold bidirectionalMerge
  dsimp only
  -- The merge runs step by step on the images.
  rw [Array.size_map, show (⟨0, src.size / 2, src.size / 2, src.size, src.map f⟩ : MergeState α) =
    MergeState.map f ⟨0, src.size / 2, src.size / 2, src.size, src⟩ from rfl,
    List.foldl_hom (MergeState.map f) fun s k => MergeState.map_step f hf less src s k]
  generalize List.foldl (MergeState.step _ src) _ (List.range (src.size / 2)) = t
  by_cases hodd : (src.size % 2 != 0) = true
  · simp only [hodd, if_true, MergeState.map_middle f hf, MergeState.map_left, MergeState.map_right,
      MergeState.map_leftEnd, MergeState.map_rightEnd, MergeState.map_out]
    split <;> rfl
  · simp only [hodd, if_false, Bool.false_eq_true, MergeState.map_left, MergeState.map_right,
      MergeState.map_leftEnd, MergeState.map_rightEnd, MergeState.map_out]
    split <;> rfl

theorem map_sort8 (less : α → α → Bool) (v : Array β) :
    sort8 less (v.map f) = (sort8 (fun a b => less (f a) (f b)) v).map (List.map f) := by
  simp only [sort8, ← Array.map_extract, map_sort4 f hf, ← List.map_append, ← List.map_toArray,
    map_bidirectionalMerge f hf, Option.map_map]
  congr 1
  funext w
  simp

/-- The end of the small sort on the images: completing both presorted halves by
insertion and merging them. -/
theorem map_smallSort_finish (cfg : Config α) (v : Array β) (first second : List β) (presorted : Nat) :
    bidirectionalMerge cfg.less
        ((insertAll cfg.less (first.map f) ((v.extract presorted (v.size / 2)).map f).toList) ++
          insertAll cfg.less (second.map f) ((v.extract (v.size / 2 + presorted) v.size).map f).toList).toArray =
      (bidirectionalMerge (fun a b => cfg.less (f a) (f b))
        ((insertAll (fun a b => cfg.less (f a) (f b)) first (v.extract presorted (v.size / 2)).toList) ++
          insertAll (fun a b => cfg.less (f a) (f b)) second
            (v.extract (v.size / 2 + presorted) v.size).toList).toArray).map (Array.map f) := by
  simp only [Array.toList_map, map_insertAll, ← List.map_append, ← List.map_toArray, map_bidirectionalMerge f hf]

theorem map_smallSort (cfg : Config α) (v : Array β) :
    smallSort cfg (v.map f) = (smallSort (cfg.comap f) v).map (Array.map f) := by
  unfold smallSort
  simp only [Array.size_map, ← Array.map_extract]
  by_cases h16 : (cfg.smallElements && decide (16 ≤ v.size)) = true
  · -- Both halves presorted by the sort of eight.
    simp only [h16, if_true, map_sort8 f hf]
    cases sort8 (fun a b => cfg.less (f a) (f b)) (v.extract 0 8) with
    | none => rfl
    | some first =>
      cases sort8 (fun a b => cfg.less (f a) (f b)) (v.extract (v.size / 2) (v.size / 2 + 8)) with
      | none => rfl
      | some second => exact map_smallSort_finish f hf cfg v first second 8
  · simp only [h16, Bool.false_eq_true, if_false]
    by_cases h8 : 8 ≤ v.size
    · simp only [h8, if_true, map_sort4 f hf]
      exact map_smallSort_finish f hf cfg v (sort4 (fun a b => cfg.less (f a) (f b)) (v.extract 0 4))
        (sort4 (fun a b => cfg.less (f a) (f b)) (v.extract (v.size / 2) (v.size / 2 + 4))) 4
    · simp only [h8, if_false, map_get f hf]
      exact map_smallSort_finish f hf cfg v [get v 0] [get v (v.size / 2)] 1

theorem map_smallSortAt (cfg : Config α) (v : Array β) (lo len : Nat) :
    smallSortAt cfg (v.map f) lo len = (smallSortAt (cfg.comap f) v lo len).map (Array.map f) := by
  unfold smallSortAt
  split
  · rfl
  · rw [← Array.map_extract, map_smallSort f hf, Option.map_map, Option.map_map]
    congr 1
    funext w
    simp only [Function.comp_apply, Array.toList_map, map_writeAt]

theorem map_median3 (less : α → α → Bool) (v : Array β) (lo a b c : Nat) :
    median3 less (v.map f) lo a b c = median3 (fun a b => less (f a) (f b)) v lo a b c := by
  simp only [median3, map_get f hf]

theorem map_median3Rec (less : α → α → Bool) (v : Array β) (lo fuel a b c n : Nat) :
    median3Rec less (v.map f) lo fuel a b c n = median3Rec (fun a b => less (f a) (f b)) v lo fuel a b c n := by
  induction fuel generalizing a b c n with
  | zero => exact map_median3 f hf less v lo a b c
  | succ fuel ih => simp only [median3Rec, ih, map_median3 f hf]

theorem map_choosePivot (less : α → α → Bool) (v : Array β) (lo len : Nat) :
    choosePivot less (v.map f) lo len = choosePivot (fun a b => less (f a) (f b)) v lo len := by
  simp only [choosePivot, map_median3 f hf, map_median3Rec f hf]

theorem map_partitionBelow (cfg : Config α) (v : Array β) (lo len p : Nat) (ancestor : Option β) :
    partitionBelow cfg (v.map f) lo len p (ancestor.map f) =
      Prod.map (Array.map f) id (partitionBelow (cfg.comap f) v lo len p ancestor) := by
  unfold partitionBelow
  cases ancestor with
  | none => simp only [Option.map_none, Bool.false_eq_true, if_false, map_get f hf, map_stablePartition]
  | some a =>
    simp only [Option.map_some, map_get f hf]
    by_cases hrep : cfg.less (f a) (f (get v (lo + p))) = true
    · simp only [hrep, Bool.not_true, Bool.false_eq_true, if_false, map_stablePartition]
    · simp only [Bool.not_eq_true] at hrep
      simp only [hrep, Bool.not_false, if_true]
      rfl

end Small

/-! ## The run-merging sort -/

section Stages

variable [Inhabited α] [Inhabited β] (f : β → α) (hf : f default = default) (cfg : Config α)
include hf

-- Every stage reaches `map_get` through the quicksort, so each needs `hf`.
set_option linter.unusedSectionVars false in
mutual

theorem map_quicksort : ∀ (fuel : Nat) (v : Array β) (lo len limit : Nat) (ancestor : Option β),
    quicksort cfg fuel (v.map f) lo len limit (ancestor.map f) =
      (quicksort (cfg.comap f) fuel v lo len limit ancestor).map (Array.map f)
  | 0, _, _, _, _, _ => by simp only [quicksort, Option.map_none]
  | fuel + 1, v, lo, len, limit, ancestor => by
    simp only [quicksort]
    by_cases hsmall : len ≤ smallSortThreshold
    · simp only [hsmall, if_true]
      exact map_smallSortAt f hf cfg v lo len
    simp only [hsmall, if_false]
    by_cases hlimit : (limit == 0) = true
    · simp only [hlimit, if_true]
      exact map_runSort fuel v lo len true
    simp only [hlimit, Bool.false_eq_true, if_false, map_choosePivot f hf, map_get f hf,
      map_partitionBelow f hf]
    simp only [Prod.map_fst, Prod.map_snd, id]
    by_cases hzero : ((partitionBelow (cfg.comap f) v lo len (choosePivot (fun a b => cfg.less (f a) (f b)) v lo len)
      ancestor).snd == 0) = true
    · -- Nothing went below the pivot: the elements equal to it are put aside.
      simp only [hzero, if_true, map_stablePartition, Prod.map_fst, Prod.map_snd, id]
      exact map_quicksort fuel _ _ _ (limit - 1) none
    · simp only [hzero]
      rw [← Option.map_some, map_quicksort]
      cases quicksort (cfg.comap f) fuel _ _ _ (limit - 1) _ with
      | none => rfl
      | some u => exact map_quicksort fuel u lo _ (limit - 1) ancestor

theorem map_stableQuicksort : ∀ (fuel : Nat) (v : Array β) (lo len : Nat),
    stableQuicksort cfg fuel (v.map f) lo len =
      (stableQuicksort (cfg.comap f) fuel v lo len).map (Array.map f)
  | 0, _, _, _ => by simp only [stableQuicksort, Option.map_none]
  | fuel + 1, v, lo, len => by
    rw [stableQuicksort, stableQuicksort]
    exact map_quicksort fuel v lo len _ none

theorem map_createRun : ∀ (fuel : Nat) (v : Array β) (lo len minGood : Nat) (eager : Bool),
    createRun cfg fuel (v.map f) lo len minGood eager =
      (createRun (cfg.comap f) fuel v lo len minGood eager).map (Prod.map (Array.map f) id)
  | 0, _, _, _, _, _ => by simp only [createRun, Option.map_none]
  | fuel + 1, v, lo, len, minGood, eager => by
    simp only [createRun, map_slice, existingRun_map]
    generalize (if minGood ≤ len then existingRun (fun a b => cfg.less (f a) (f b)) (slice v lo len)
      else (0, false)) = r
    obtain ⟨runLen, descending⟩ := r
    by_cases hexisting : (decide (minGood ≤ len) && decide (minGood ≤ runLen)) = true
    · -- An existing run, reversed if it descends.
      simp only [hexisting, if_true, Option.map_some]
      cases descending
      · rfl
      · simp only [if_true, ← List.map_reverse, map_writeAt]
        rfl
    · simp only [hexisting, Bool.false_eq_true, if_false]
      cases eager
      · rfl
      · have h := map_quicksort fuel v lo (min smallSortThreshold len) 0 none
        simp only [Option.map_none] at h
        simp only [if_true, h, Option.map_map]
        rfl

theorem map_logicalMerge : ∀ (fuel : Nat) (v : Array β) (lo len : Nat) (left right : Run),
    logicalMerge cfg fuel (v.map f) lo len left right =
      (logicalMerge (cfg.comap f) fuel v lo len left right).map (Prod.map (Array.map f) id)
  | 0, _, _, _, _, _ => by simp only [logicalMerge, Option.map_none]
  | fuel + 1, v, lo, len, left, right => by
    simp only [logicalMerge]
    by_cases hlazy : (decide (len ≤ cfg.scratch) && !left.sorted && !right.sorted) = true
    · simp only [hlazy, if_true]
      rfl
    · simp only [hlazy, Bool.false_eq_true, if_false]
      -- A run that is not sorted yet is sorted first, on both sides alike.
      have hsort : ∀ (b : Bool) (w : Array β) (lo' n : Nat),
          (if b = true then pure (w.map f) else stableQuicksort cfg fuel (w.map f) lo' n) =
            (if b = true then pure w else stableQuicksort (cfg.comap f) fuel w lo' n).map (Array.map f) := by
        intro b w lo' n
        cases b
        · exact map_stableQuicksort fuel w lo' n
        · rfl
      rw [hsort]
      cases (if left.sorted = true then pure v else stableQuicksort (cfg.comap f) fuel v lo left.len) with
      | none => rfl
      | some u =>
        dsimp only [Option.map_some, bind, Option.bind]
        rw [hsort]
        cases (if right.sorted = true then pure u else stableQuicksort (cfg.comap f) fuel u (lo + left.len)
          right.len) with
        | none => rfl
        | some w =>
          dsimp only [Option.map_some, bind, Option.bind, pure]
          rw [map_mergeAt]
          rfl

theorem map_collapse : ∀ (fuel : Nat) (v : Array β) (lo scan : Nat) (prev : Run) (stack : List (Run × Nat))
    (depth : Nat), collapse cfg fuel (v.map f) lo scan prev stack depth =
      (collapse (cfg.comap f) fuel v lo scan prev stack depth).map (Prod.map (Array.map f) id)
  | 0, _, _, _, _, _, _ => by simp only [collapse, Option.map_none]
  | fuel + 1, v, lo, scan, prev, stack, depth => by
    rcases stack with _ | ⟨⟨left, d⟩, _ | ⟨next, rest⟩⟩
    · simp only [collapse, Option.map_some]
      rfl
    · simp only [collapse, Option.map_some]
      rfl
    · simp only [collapse]
      by_cases hdepth : depth ≤ d
      · simp only [hdepth, if_true]
        rw [map_logicalMerge]
        cases logicalMerge (cfg.comap f) fuel v (lo + scan - (left.len + prev.len)) (left.len + prev.len) left prev with
        | none => rfl
        | some r => exact map_collapse fuel r.1 lo scan r.2 (next :: rest) depth
      · simp only [hdepth, if_false, Option.map_some]
        rfl

theorem map_runLoop : ∀ (fuel : Nat) (v : Array β) (lo len scale minGood : Nat) (eager : Bool) (scan : Nat)
    (prev : Run) (stack : List (Run × Nat)),
    runLoop cfg fuel (v.map f) lo len scale minGood eager scan prev stack =
      (runLoop (cfg.comap f) fuel v lo len scale minGood eager scan prev stack).map (Array.map f)
  | 0, _, _, _, _, _, _, _, _, _ => by simp only [runLoop, Option.map_none]
  | fuel + 1, v, lo, len, scale, minGood, eager, scan, prev, stack => by
    simp only [runLoop]
    by_cases hlt : scan < len
    · simp only [hlt, if_true, show ¬len ≤ scan by omega, if_false]
      rw [map_createRun]
      cases createRun (cfg.comap f) fuel v (lo + scan) (len - scan) minGood eager with
      | none => rfl
      | some r =>
        dsimp only [Option.map_some, bind, Option.bind, pure, Prod.map, id]
        rw [map_collapse]
        cases collapse (cfg.comap f) fuel r.1 lo scan prev stack (mergeTreeDepth (scan - prev.len) scan
          (scan + r.2.len) scale) with
        | none => rfl
        | some c => exact map_runLoop fuel c.1 lo len scale minGood eager _ r.2 _
    · simp only [hlt, if_false, show len ≤ scan by omega, if_true]
      dsimp only [bind, Option.bind, pure]
      rw [map_collapse]
      cases collapse (cfg.comap f) fuel v lo scan prev stack 0 with
      | none => rfl
      | some c =>
        dsimp only [Option.map_some, Prod.map, id]
        cases c.2.1.sorted
        · exact map_stableQuicksort fuel c.1 lo len
        · rfl

theorem map_runSort : ∀ (fuel : Nat) (v : Array β) (lo len : Nat) (eager : Bool),
    runSort cfg fuel (v.map f) lo len eager = (runSort (cfg.comap f) fuel v lo len eager).map (Array.map f)
  | 0, _, _, _, _ => by simp only [runSort, Option.map_none]
  | fuel + 1, v, lo, len, eager => by
    simp only [runSort]
    split
    · rfl
    · exact map_runLoop fuel v lo len _ _ eager 0 ⟨0, true⟩ []

end

end Stages

/-- **Sorting commutes with maps**: sorting the images of elements under `f` is
sorting the elements by the order pulled back along `f` and taking the images,
when `f` keeps the default element. -/
theorem sort_map [Inhabited α] [Inhabited β] (f : β → α) (hf : f default = default) (bytes : Nat)
    (less : α → α → Bool) (xs : List β) :
    sort bytes less (xs.map f) = (sort bytes (fun a b => less (f a) (f b)) xs).map (List.map f) := by
  unfold sort
  simp only [List.length_map]
  split
  · rw [Option.map_some, map_insertionSort]
  · rw [← List.map_toArray, map_runSort f hf, Option.map_map, Option.map_map]
    congr 1
    funext w
    simp

end StableSort

end SparqlBag
