import SparqlBag.Proofs.Sort.Ordered

/-!
# The stable sort sorts

For a strict weak order, the stable sort returns a sorted list whenever it
returns (`sort_sorted`).  Every part of the run-merging sort rewrites a slice of
an array and nothing else (`Frame`), so with the permutation of the whole array
the slice is a permutation of itself, and what held of each of its elements still
holds.  The parts are proved together, fuel level by fuel level (`sorts`):
quicksort sorts a slice whose elements may all stand after the ancestor's pivot,
merging two sorted runs gives a sorted run, and the stack of runs stays ordered
up to the scan position (`StackInv`).
-/

namespace SparqlBag

namespace StableSort

variable {α : Type}

/-! ## Rewriting inside a slice -/

/-- `w` is `v` with at most the positions `[lo, lo + len)` rewritten. -/
def Frame (v w : Array α) (lo len : Nat) : Prop :=
  w.size = v.size ∧ ∀ i, (i < lo ∨ lo + len ≤ i) → w.toList[i]? = v.toList[i]?

namespace Frame

variable {u v w : Array α} {lo len : Nat}

theorem refl (v : Array α) (lo len : Nat) : Frame v v lo len := ⟨rfl, fun _ _ => rfl⟩

theorem trans (h₁ : Frame u v lo len) (h₂ : Frame v w lo len) : Frame u w lo len :=
  ⟨h₂.1.trans h₁.1, fun i hi => (h₂.2 i hi).trans (h₁.2 i hi)⟩

theorem widen {lo' len' : Nat} (h : Frame v w lo' len') (hlo : lo ≤ lo') (hhi : lo' + len' ≤ lo + len) :
    Frame v w lo len :=
  ⟨h.1, fun i hi => h.2 i (by omega)⟩

end Frame

theorem slice_congr {v w : Array α} {a m : Nat}
    (h : ∀ i, a ≤ i → i < a + m → w.toList[i]? = v.toList[i]?) : slice w a m = slice v a m := by
  apply List.ext_getElem?
  intro n
  simp only [slice_eq, List.getElem?_take, List.getElem?_drop]
  split
  · exact h (a + n) (Nat.le_add_right a n) (by omega)
  · rfl

/-- A rewrite elsewhere leaves a slice as it was. -/
theorem Frame.slice_eq {v w : Array α} {lo len a m : Nat} (h : Frame v w lo len)
    (hdis : a + m ≤ lo ∨ lo + len ≤ a) : slice w a m = slice v a m :=
  slice_congr fun i hi hi' => h.2 i (by omega)

theorem toList_eq_slices (v : Array α) (lo len : Nat) :
    v.toList = v.toList.take lo ++ slice v lo len ++ v.toList.drop (lo + len) := by
  rw [slice_eq, List.append_assoc, ← List.drop_drop, List.take_append_drop, List.take_append_drop]

/-- **A rewrite inside a slice that permutes the array permutes the slice.** -/
theorem Frame.slice_perm {v w : Array α} {lo len : Nat} (h : Frame v w lo len)
    (hp : w.toList.Perm v.toList) : (slice w lo len).Perm (slice v lo len) := by
  have htake : w.toList.take lo = v.toList.take lo := by
    apply List.ext_getElem?
    intro n
    simp only [List.getElem?_take]
    split
    · exact h.2 n (.inl ‹_›)
    · rfl
  have hdrop : w.toList.drop (lo + len) = v.toList.drop (lo + len) := by
    apply List.ext_getElem?
    intro n
    simp only [List.getElem?_drop]
    exact h.2 _ (.inr (Nat.le_add_right _ n))
  rw [toList_eq_slices w lo len, toList_eq_slices v lo len, htake, hdrop] at hp
  exact List.perm_append_left_iff _ |>.1 (List.perm_append_right_iff _ |>.1 hp)

theorem slice_take {v : Array α} {lo m len : Nat} (h : m ≤ len) :
    slice v lo m = (slice v lo len).take m := by
  rw [slice_eq, slice_eq, List.take_take, Nat.min_eq_left h]

theorem slice_drop (v : Array α) (lo m len : Nat) :
    slice v (lo + m) (len - m) = (slice v lo len).drop m := by
  rw [slice_eq, slice_eq, List.drop_take, List.drop_drop]

theorem length_slice {v : Array α} {lo len : Nat} (h : lo + len ≤ v.size) :
    (slice v lo len).length = len := by
  simp only [slice_eq, List.length_take, List.length_drop, Array.length_toList]
  omega

theorem eq_get_of_getElem?_slice [Inhabited α] {v : Array α} {lo len i : Nat} {x : α}
    (h : (slice v lo len)[i]? = some x) : x = get v (lo + i) := by
  obtain ⟨hi, rfl⟩ := List.getElem?_eq_some_iff.1 h
  exact getElem_slice hi

theorem frame_writeAt {v : Array α} {lo : Nat} {xs : List α} (h : lo + xs.length ≤ v.size) :
    Frame v (writeAt v lo xs) lo xs.length := by
  have hlist := writeAt_toList v lo xs h
  have hsize := congrArg List.length hlist
  simp only [Array.length_toList, List.length_append, List.length_take, List.length_drop] at hsize
  refine ⟨by omega, fun i hi => ?_⟩
  rw [hlist, List.getElem?_append, List.getElem?_append]
  simp only [List.length_append, List.length_take, Array.length_toList, Nat.min_eq_left (show lo ≤ v.size by omega)]
  rcases hi with hi | hi
  · rw [if_pos (by omega), if_pos hi, List.getElem?_take, if_pos hi]
  · rw [if_neg (by omega), List.getElem?_drop, show lo + xs.length + (i - (lo + xs.length)) = i by omega]

theorem slice_writeAt {v : Array α} {lo : Nat} {xs : List α} (h : lo + xs.length ≤ v.size) :
    slice (writeAt v lo xs) lo xs.length = xs := by
  rw [slice_eq, writeAt_toList v lo xs h, List.append_assoc,
    List.drop_left' (by simp; omega), List.take_left' rfl]

theorem writeAt_slice {v : Array α} {lo len : Nat} (h : lo + len ≤ v.size) :
    writeAt v lo (slice v lo len) = v := by
  apply Array.ext'
  rw [writeAt_toList v lo _ (by rw [length_slice h]; omega), length_slice h, ← toList_eq_slices]

/-! ## The pieces on slices -/

section Pieces

variable [Inhabited α] {less : α → α → Bool}

omit [Inhabited α] in
/-- A slice whose front part and back part are sorted, and whose front may
stand before its back, is sorted. -/
theorem sorted_slice_of_parts {w : Array α} {lo m len : Nat} (hm : m ≤ len)
    (h₁ : Sorted less (slice w lo m)) (h₂ : Sorted less (slice w (lo + m) (len - m)))
    (h₁₂ : ∀ a ∈ slice w lo m, ∀ b ∈ slice w (lo + m) (len - m), Before less a b) :
    Sorted less (slice w lo len) := by
  have hs := slice_append w lo m (len - m)
  rw [Nat.add_sub_cancel' hm] at hs
  rw [← hs]
  exact sorted_append.2 ⟨h₁, h₂, h₁₂⟩

omit [Inhabited α] in
theorem getElem?_of_mem_zipIdx {l : List α} {x : α} {i : Nat} (h : (x, i) ∈ l.zipIdx) :
    l[i]? = some x := by
  obtain ⟨-, hi, hx⟩ := List.mem_zipIdx h
  simp only [Nat.zero_add] at hi
  rw [List.getElem?_eq_getElem hi, hx]
  simp

omit [Inhabited α] in
/-- **What a stable partition does**: it rewrites the slice only, and puts the
elements that go left (the one at the pivot's position by `pivotLeft`, the
others by `toLeft`) before those that do not; when nothing goes left, nothing
changes. -/
theorem stablePartition_spec {v w : Array α} {lo len pivot m : Nat} {pivotLeft : Bool}
    {toLeft : α → Bool} (hb : lo + len ≤ v.size)
    (h : stablePartition v lo len pivot pivotLeft toLeft = (w, m)) :
    Frame v w lo len ∧ m ≤ len ∧
      (∀ x ∈ slice w lo m, ∃ i, (slice v lo len)[i]? = some x ∧
        (if i = pivot then pivotLeft else toLeft x) = true) ∧
      (∀ x ∈ slice w (lo + m) (len - m), ∃ i, (slice v lo len)[i]? = some x ∧
        (if i = pivot then pivotLeft else toLeft x) = false) ∧
      (m = 0 → w = v) := by
  unfold stablePartition at h
  simp only [Prod.mk.injEq] at h
  obtain ⟨rfl, rfl⟩ := h
  set items := (slice v lo len).zipIdx
  set left := (items.filter fun p => if p.2 == pivot then pivotLeft else toLeft p.1).map (·.1)
  set right := (items.filter fun p => !(if p.2 == pivot then pivotLeft else toLeft p.1)).map (·.1)
  have hperm : (left ++ right).Perm (slice v lo len) := by
    rw [← List.map_append]
    refine ((List.filter_append_perm _ _).map Prod.fst).trans ?_
    rw [List.zipIdx_map_fst]
  have hlen : (left ++ right).length = len := by rw [hperm.length_eq, length_slice hb]
  have hwhole : slice (writeAt v lo (left ++ right)) lo len = left ++ right := by
    have := slice_writeAt (show lo + (left ++ right).length ≤ v.size by omega)
    rwa [hlen] at this
  have hm : left.length ≤ len := by rw [← hlen, List.length_append]; omega
  refine ⟨hlen ▸ frame_writeAt (by omega), hm, ?_, ?_, ?_⟩
  · intro x hx
    rw [slice_take hm, hwhole, List.take_left' rfl] at hx
    obtain ⟨⟨y, i⟩, hp, rfl⟩ := List.mem_map.1 hx
    obtain ⟨hmem, hg⟩ := List.mem_filter.1 hp
    exact ⟨i, getElem?_of_mem_zipIdx hmem, by simpa using hg⟩
  · intro x hx
    rw [slice_drop, hwhole, List.drop_left' rfl] at hx
    obtain ⟨⟨y, i⟩, hp, rfl⟩ := List.mem_map.1 hx
    obtain ⟨hmem, hg⟩ := List.mem_filter.1 hp
    exact ⟨i, getElem?_of_mem_zipIdx hmem, by simpa using hg⟩
  · -- Nothing went left: the right part is the whole slice in its order.
    intro h0
    have hnil : left = [] := List.length_eq_zero_iff.1 h0
    have hall : right = slice v lo len := by
      have hfilter := List.map_eq_nil_iff.1 hnil
      rw [List.filter_eq_nil_iff] at hfilter
      have hself : (items.filter fun p => !(if p.2 == pivot then pivotLeft else toLeft p.1)) = items :=
        List.filter_eq_self.2 fun p hp => by simpa using hfilter p hp
      simp only [right, hself, items, List.zipIdx_map_fst]
    rw [hnil, hall, List.nil_append, writeAt_slice hb]

/-- Every element may stand after the pivot of the ancestor, if there is one. -/
def AboveAncestor (less : α → α → Bool) (ancestor : Option α) (xs : List α) : Prop :=
  ∀ a, ancestor = some a → ∀ x ∈ xs, Before less a x

/-- **The first partition of quicksort** puts the elements less than the pivot
first, and all the others may stand after the pivot; after a repeated pivot
nothing moves and every element may stand after the pivot already. -/
theorem partitionBelow_spec {cfg : Config α} (hw : StrictWeakOrder cfg.less) {v w : Array α}
    {lo len p m : Nat} {ancestor : Option α} (hb : lo + len ≤ v.size)
    (hanc : AboveAncestor cfg.less ancestor (slice v lo len))
    (h : partitionBelow cfg v lo len p ancestor = (w, m)) :
    Frame v w lo len ∧ m ≤ len ∧ (∀ x ∈ slice w lo m, cfg.less x (get v (lo + p)) = true) ∧
      (∀ x ∈ slice w (lo + m) (len - m), Before cfg.less (get v (lo + p)) x) ∧ (m = 0 → w = v) := by
  unfold partitionBelow at h
  dsimp only at h
  split_ifs at h with hrep
  · -- A repeated pivot: the pivot may stand before the ancestor's, hence before all.
    simp only [Prod.mk.injEq] at h
    obtain ⟨rfl, rfl⟩ := h
    refine ⟨Frame.refl _ _ _, Nat.zero_le _, by simp [slice_eq], fun x hx => ?_, fun _ => rfl⟩
    cases ancestor with
    | none => simp at hrep
    | some a =>
      have hpa : Before cfg.less (get v (lo + p)) a := by simpa [Before] using hrep
      exact hw.before_trans hpa (hanc a rfl x (by simpa using hx))
  · obtain ⟨hf, hm, hleft, hright, hzero⟩ := stablePartition_spec hb h
    refine ⟨hf, hm, fun x hx => ?_, fun x hx => ?_, hzero⟩
    · obtain ⟨i, -, hi⟩ := hleft x hx
      split_ifs at hi
      exact hi
    · obtain ⟨i, hix, hi⟩ := hright x hx
      split_ifs at hi with hip
      · -- The pivot itself.
        rw [eq_get_of_getElem?_slice hix, hip]
        exact hw.before_refl _
      · exact hi

omit [Inhabited α] in
/-- Merging two sorted neighbouring runs leaves their union sorted. -/
theorem mergeAt_sorts (hw : StrictWeakOrder less) {v : Array α} {lo len mid : Nat}
    (hb : lo + len ≤ v.size) (hmid : mid ≤ len) (hl : Sorted less (slice v lo mid))
    (hr : Sorted less (slice v (lo + mid) (len - mid))) :
    Frame v (mergeAt less v lo len mid) lo len ∧ Sorted less (slice (mergeAt less v lo len mid) lo len) := by
  unfold mergeAt
  dsimp only
  split
  · rename_i hnone
    simp only [Bool.or_eq_true, beq_iff_eq, decide_eq_true_eq] at hnone
    refine ⟨Frame.refl _ _ _, ?_⟩
    rcases hnone with rfl | hle
    · simpa using hr
    · rwa [show len = mid by omega]
  · set merged := if mid ≤ len - mid then mergeForward less (slice v lo mid) (slice v (lo + mid) (len - mid))
      else mergeBackward less (slice v lo mid).reverse (slice v (lo + mid) (len - mid)).reverse []
    have hperm : merged.Perm (slice v lo mid ++ slice v (lo + mid) (len - mid)) := by
      simp only [merged]
      split
      · exact mergeForward_perm less _ _
      · refine (mergeBackward_perm less _ _ []).trans ?_
        rw [List.append_nil]
        exact (List.reverse_perm _).append (List.reverse_perm _)
    have hlen : merged.length = len := by
      rw [hperm.length_eq, List.length_append, length_slice (by omega), length_slice (by omega)]
      omega
    have hsorted : Sorted less merged := by
      simp only [merged]
      split
      · exact mergeForward_sorted hw hl hr
      · exact mergeBackward_sorted hw (by rwa [List.reverse_reverse]) (by rwa [List.reverse_reverse])
          sorted_nil (by simp)
    have hf := frame_writeAt (show lo + merged.length ≤ v.size by omega)
    have hs := slice_writeAt (show lo + merged.length ≤ v.size by omega)
    rw [hlen] at hf
    refine ⟨hf, ?_⟩
    rw [← hlen, hs]
    exact hsorted

/-- The small sort applied to a slice sorts it. -/
theorem smallSortAt_sorts {cfg : Config α} (hw : StrictWeakOrder cfg.less) {v w : Array α}
    {lo len : Nat} (hb : lo + len ≤ v.size) (h : smallSortAt cfg v lo len = some w) :
    Frame v w lo len ∧ Sorted cfg.less (slice w lo len) := by
  unfold smallSortAt at h
  split at h
  · cases h
    exact ⟨Frame.refl _ _ _, sorted_of_length_le_one (by rw [length_slice hb]; omega)⟩
  · obtain ⟨u, hu, rfl⟩ := Option.map_eq_some_iff.1 h
    have hsize : (v.extract lo (lo + len)).size = len := by simp; omega
    have hlen : u.toList.length = len := by
      rw [(smallSort_perm cfg (by omega) hu).length_eq, Array.length_toList, hsize]
    have hs := smallSort_sorted hw (by omega) hu
    have hf := frame_writeAt (show lo + u.toList.length ≤ v.size by omega)
    have hw' := slice_writeAt (show lo + u.toList.length ≤ v.size by omega)
    rw [hlen] at hf
    refine ⟨hf, ?_⟩
    rw [← hlen, hw']
    exact hs

end Pieces

/-! ## The stack of runs -/

section Stack

variable {less : α → α → Bool}

/-- The runs of a stack, nearest first, lie one after another to the left of
`hi`, the last one starting at `lo`; those that say they are sorted are. -/
def RunsSorted (less : α → α → Bool) (v : Array α) (lo : Nat) : Nat → List (Run × Nat) → Prop
  | hi, [] => hi = lo
  | hi, (r, _) :: rest => lo + r.len ≤ hi ∧ (r.sorted = true → Sorted less (slice v (hi - r.len) r.len)) ∧
    RunsSorted less v lo (hi - r.len) rest

/-- The state of the run-merging sort from `lo` after `scan` elements: the
current run ends at the scan position, the runs of the stack lie before it,
the one at the bottom is empty, and the runs that say they are sorted are. -/
structure StackInv (less : α → α → Bool) (v : Array α) (lo scan : Nat) (prev : Run)
    (stack : List (Run × Nat)) : Prop where
  prev_le : prev.len ≤ scan
  prev_sorted : prev.sorted = true → Sorted less (slice v (lo + scan - prev.len) prev.len)
  runs : RunsSorted less v lo (lo + scan - prev.len) stack
  bottom : ∀ e ∈ stack.getLast?, e.1.len = 0
  empty : stack = [] → prev.len = 0

/-- A rewrite to the right of the runs leaves them as they are. -/
theorem RunsSorted.frame {v w : Array α} {lo a m : Nat} (hf : Frame v w a m) :
    ∀ {hi : Nat} {stack : List (Run × Nat)}, hi ≤ a → RunsSorted less v lo hi stack →
      RunsSorted less w lo hi stack
  | _, [], _, h => h
  | hi, (r, _) :: rest, ha, ⟨hle, hs, hrest⟩ =>
    ⟨hle, fun hr => by rw [hf.slice_eq (by omega)]; exact hs hr, RunsSorted.frame hf (by omega) hrest⟩

theorem StackInv.frame {v w : Array α} {lo scan a m : Nat} {prev : Run} {stack : List (Run × Nat)}
    (h : StackInv less v lo scan prev stack) (hf : Frame v w a m) (ha : lo + scan ≤ a) :
    StackInv less w lo scan prev stack where
  prev_le := h.prev_le
  prev_sorted hs := by
    have hp := h.prev_le
    rw [hf.slice_eq (by omega)]
    exact h.prev_sorted hs
  runs := h.runs.frame hf (by omega)
  bottom := h.bottom
  empty := h.empty

/-- The state before the first run. -/
theorem stackInv_start (v : Array α) (lo : Nat) : StackInv less v lo 0 ⟨0, true⟩ [] where
  prev_le := le_refl 0
  prev_sorted _ := by simp [slice_eq]
  runs := by simp [RunsSorted]
  bottom := by simp
  empty _ := rfl

/-- After the last merge at most one run is left on the stack, the empty one,
so the current run covers everything scanned. -/
theorem StackInv.covers {v : Array α} {lo scan : Nat} {prev : Run} {stack : List (Run × Nat)}
    (h : StackInv less v lo scan prev stack) (hone : stack.length ≤ 1) : prev.len = scan := by
  have hp := h.prev_le
  match stack, h.runs, h.bottom, hone with
  | [], hruns, _, _ =>
    simp only [RunsSorted] at hruns
    omega
  | [(b, d)], hruns, hbottom, _ =>
    have hb : b.len = 0 := hbottom (b, d) (by simp)
    simp only [RunsSorted] at hruns
    omega

end Stack

/-! ## The parts of the run-merging sort, fuel level by fuel level -/

section Parts

variable [Inhabited α]

/-- Every part of the run-merging sort, given `fuel`, rewrites only its slice
and, when it returns, leaves the slice sorted (a run: when it says so). -/
structure Sorts (cfg : Config α) (fuel : Nat) : Prop where
  quicksort_sorted : ∀ {v lo len limit ancestor w}, lo + len ≤ v.size →
    AboveAncestor cfg.less ancestor (slice v lo len) →
    quicksort cfg fuel v lo len limit ancestor = some w →
    Frame v w lo len ∧ Sorted cfg.less (slice w lo len)
  stableQuicksort_sorted : ∀ {v lo len w}, lo + len ≤ v.size → stableQuicksort cfg fuel v lo len = some w →
    Frame v w lo len ∧ Sorted cfg.less (slice w lo len)
  createRun_sorted : ∀ {v lo len minGood eager w r}, lo + len ≤ v.size →
    createRun cfg fuel v lo len minGood eager = some (w, r) →
    r.len ≤ len ∧ Frame v w lo r.len ∧ (r.sorted = true → Sorted cfg.less (slice w lo r.len))
  logicalMerge_sorted : ∀ {v lo len left right w r}, lo + len ≤ v.size → left.len + right.len = len →
    (left.sorted = true → Sorted cfg.less (slice v lo left.len)) →
    (right.sorted = true → Sorted cfg.less (slice v (lo + left.len) right.len)) →
    logicalMerge cfg fuel v lo len left right = some (w, r) →
    r.len = len ∧ Frame v w lo len ∧ (r.sorted = true → Sorted cfg.less (slice w lo len))
  collapse_sorted : ∀ {v lo scan prev stack depth w prev' stack'}, lo + scan ≤ v.size →
    StackInv cfg.less v lo scan prev stack →
    collapse cfg fuel v lo scan prev stack depth = some (w, prev', stack') →
    Frame v w lo scan ∧ StackInv cfg.less w lo scan prev' stack' ∧ (depth = 0 → stack'.length ≤ 1)
  runLoop_sorted : ∀ {v lo len scale minGood eager scan prev stack w}, lo + len ≤ v.size → scan ≤ len →
    StackInv cfg.less v lo scan prev stack →
    runLoop cfg fuel v lo len scale minGood eager scan prev stack = some w →
    Frame v w lo len ∧ Sorted cfg.less (slice w lo len)
  runSort_sorted : ∀ {v lo len eager w}, lo + len ≤ v.size → runSort cfg fuel v lo len eager = some w →
    Frame v w lo len ∧ Sorted cfg.less (slice w lo len)

variable {cfg : Config α} {fuel : Nat}

/-- Out of fuel, every part fails. -/
theorem sorts_zero : Sorts cfg 0 where
  quicksort_sorted _ _ h := by simp [quicksort] at h
  stableQuicksort_sorted _ h := by simp [stableQuicksort] at h
  createRun_sorted _ h := by simp [createRun] at h
  logicalMerge_sorted _ _ _ _ h := by simp [logicalMerge] at h
  collapse_sorted _ _ h := by simp [collapse] at h
  runLoop_sorted _ _ _ h := by simp [runLoop] at h
  runSort_sorted _ h := by simp [runSort] at h

/-- A run that is sorted already stays; an unsorted one is sorted. -/
theorem Sorts.sortRun (ih : Sorts cfg fuel) (sorted : Bool) {v w : Array α} {lo len : Nat}
    (hb : lo + len ≤ v.size) (hs : sorted = true → Sorted cfg.less (slice v lo len))
    (h : (if sorted = true then pure v else stableQuicksort cfg fuel v lo len) = some w) :
    Frame v w lo len ∧ Sorted cfg.less (slice w lo len) := by
  split at h
  · cases h
    exact ⟨Frame.refl _ _ _, hs ‹_›⟩
  · exact ih.stableQuicksort_sorted hb h

theorem Sorts.quicksort_succ (hw : StrictWeakOrder cfg.less) (ih : Sorts cfg fuel) {v w : Array α}
    {lo len limit : Nat} {ancestor : Option α} (hb : lo + len ≤ v.size)
    (hanc : AboveAncestor cfg.less ancestor (slice v lo len))
    (h : quicksort cfg (fuel + 1) v lo len limit ancestor = some w) :
    Frame v w lo len ∧ Sorted cfg.less (slice w lo len) := by
  simp only [quicksort] at h
  split at h
  · exact smallSortAt_sorts hw hb h
  split at h
  · exact ih.runSort_sorted hb h
  set p := choosePivot cfg.less v lo len
  set pivot := get v (lo + p)
  rcases hpart : partitionBelow cfg v lo len p ancestor with ⟨v1, m⟩
  rw [hpart] at h
  dsimp only at h
  obtain ⟨hf1, hm1, hlt1, hge1, hz1⟩ := partitionBelow_spec hw hb hanc hpart
  have hp1 : v1.toList.Perm v.toList := by
    simpa [hpart] using partitionBelow_perm cfg v lo len p ancestor
  have hb1 : lo + len ≤ v1.size := by rw [hf1.1]; exact hb
  split at h
  · -- Nothing went less than the pivot: the elements not above the pivot go
    -- left now, and they are all equivalent to it.
    rename_i hzero
    have hm0 : m = 0 := by simpa using hzero
    have hv1 : v1 = v := hz1 hm0
    rcases hpart2 : stablePartition v1 lo len p true (fun x => !cfg.less pivot x) with ⟨v2, mid⟩
    rw [hpart2] at h
    dsimp only at h
    obtain ⟨hf2, hm2, hleft2, hright2, -⟩ := stablePartition_spec hb1 hpart2
    have hp2 : v2.toList.Perm v1.toList := by
      simpa [hpart2] using stablePartition_perm v1 lo len p true (fun x => !cfg.less pivot x)
    have hb2 : lo + len ≤ v2.size := by rw [hf2.1]; exact hb1
    obtain ⟨hf3, hs3⟩ := ih.quicksort_sorted (by omega) (fun a ha => by cases ha) h
    have hp3 := (permutes cfg fuel).quicksort_perm h
    have hL : ∀ x ∈ slice w lo mid, Before cfg.less x pivot ∧ Before cfg.less pivot x := by
      intro x hx
      rw [hf3.slice_eq (by omega)] at hx
      obtain ⟨i, hix, hi⟩ := hleft2 x hx
      refine ⟨?_, ?_⟩
      · split_ifs at hi with hip
        · rw [eq_get_of_getElem?_slice hix, hip, hv1]
          exact hw.before_refl _
        · simpa [Before] using hi
      · have hx' : x ∈ slice v1 (lo + m) (len - m) := by
          rw [hm0, Nat.add_zero, Nat.sub_zero]
          exact List.mem_of_getElem? hix
        exact hge1 x hx'
    have hR : ∀ x ∈ slice w (lo + mid) (len - mid), cfg.less pivot x = true := by
      intro x hx
      obtain ⟨i, -, hi⟩ := hright2 x ((hf3.slice_perm hp3).mem_iff.1 hx)
      split_ifs at hi
      simpa using hi
    refine ⟨hf1.trans (hf2.trans (hf3.widen (by omega) (by omega))), ?_⟩
    refine sorted_slice_of_parts hm2 ?_ hs3 ?_
    · exact List.pairwise_of_forall_mem_list fun a ha b hb =>
        hw.before_trans (hL a ha).1 (hL b hb).2
    · intro a ha b hb
      exact hw.before_of_less (hw.less_of_before_of_less (hL a ha).1 (hR b hb))
  · -- The right side first, above the pivot, then the left side, below it.
    rename_i hnz
    obtain ⟨u, hu, h⟩ := Option.bind_eq_some_iff.1 h
    obtain ⟨hfu, hsu⟩ := ih.quicksort_sorted (by omega)
      (fun a ha x hx => by cases ha; exact hge1 x hx) hu
    have hpu := (permutes cfg fuel).quicksort_perm hu
    -- The left side is still the partition's, so it lies above the ancestor's pivot.
    have hancu : AboveAncestor cfg.less ancestor (slice u lo m) := by
      intro a ha x hx
      rw [hfu.slice_eq (by omega), slice_take hm1] at hx
      exact hanc a ha x ((hf1.slice_perm hp1).mem_iff.1 (List.mem_of_mem_take hx))
    obtain ⟨hfw, hsw⟩ := ih.quicksort_sorted (by rw [hfu.1]; omega) hancu h
    have hpw := (permutes cfg fuel).quicksort_perm h
    have hright : slice w (lo + m) (len - m) = slice u (lo + m) (len - m) := hfw.slice_eq (by omega)
    refine ⟨hf1.trans ((hfu.widen (by omega) (by omega)).trans (hfw.widen (by omega) (by omega))), ?_⟩
    refine sorted_slice_of_parts hm1 hsw (by rw [hright]; exact hsu) ?_
    intro a ha b hb
    have ha' : a ∈ slice v1 lo m := by
      have := (hfw.slice_perm hpw).mem_iff.1 ha
      rwa [hfu.slice_eq (by omega)] at this
    have hb' : b ∈ slice v1 (lo + m) (len - m) := by
      rw [hright] at hb
      exact (hfu.slice_perm hpu).mem_iff.1 hb
    exact hw.before_of_less (hw.less_of_less_of_before (hlt1 a ha') (hge1 b hb'))

theorem Sorts.stableQuicksort_succ (ih : Sorts cfg fuel) {v w : Array α} {lo len : Nat}
    (hb : lo + len ≤ v.size) (h : stableQuicksort cfg (fuel + 1) v lo len = some w) :
    Frame v w lo len ∧ Sorted cfg.less (slice w lo len) := by
  simp only [stableQuicksort] at h
  exact ih.quicksort_sorted hb (fun a ha => by cases ha) h

theorem Sorts.createRun_succ (hw : StrictWeakOrder cfg.less) (ih : Sorts cfg fuel) {v w : Array α}
    {lo len minGood : Nat} {eager : Bool} {r : Run} (hb : lo + len ≤ v.size)
    (h : createRun cfg (fuel + 1) v lo len minGood eager = some (w, r)) :
    r.len ≤ len ∧ Frame v w lo r.len ∧ (r.sorted = true → Sorted cfg.less (slice w lo r.len)) := by
  rw [createRun] at h
  split at h
  rename_i runLen descending hrun
  dsimp only at h
  split at h
  · -- An existing run, turned around when it descends.
    rename_i hgood
    simp only [Bool.and_eq_true, decide_eq_true_eq] at hgood
    simp only [Option.some.injEq, Prod.mk.injEq] at h
    obtain ⟨rfl, rfl⟩ := h
    rw [if_pos hgood.1] at hrun
    obtain ⟨hle, hsorted⟩ := existingRun_sorted hw (slice v lo len)
    rw [hrun] at hle hsorted
    rw [length_slice hb] at hle
    rw [← slice_take hle] at hsorted
    have hrev : lo + (slice v lo runLen).reverse.length ≤ v.size := by
      rw [List.length_reverse, length_slice (by omega)]
      omega
    have hrl : (slice v lo runLen).reverse.length = runLen := by
      rw [List.length_reverse, length_slice (by omega)]
    refine ⟨hle, ?_, fun _ => ?_⟩
    · split
      · simpa [hrl] using frame_writeAt hrev
      · exact Frame.refl _ _ _
    · split
      · rename_i hd
        rw [if_pos hd] at hsorted
        have hs := slice_writeAt hrev
        rw [hrl] at hs
        rw [hs]
        exact hsorted
      · rename_i hd
        rwa [if_neg hd] at hsorted
  split at h
  · obtain ⟨u, hu, hw'⟩ := Option.map_eq_some_iff.1 h
    cases hw'
    obtain ⟨hf, hs⟩ := ih.quicksort_sorted (by omega) (fun a ha => by cases ha) hu
    exact ⟨Nat.min_le_right _ _, hf, fun _ => hs⟩
  · cases h
    exact ⟨Nat.min_le_right _ _, Frame.refl _ _ _, fun h => by simp at h⟩

theorem Sorts.logicalMerge_succ (hw : StrictWeakOrder cfg.less) (ih : Sorts cfg fuel) {v w : Array α}
    {lo len : Nat} {left right r : Run} (hb : lo + len ≤ v.size) (hlen : left.len + right.len = len)
    (hl : left.sorted = true → Sorted cfg.less (slice v lo left.len))
    (hr : right.sorted = true → Sorted cfg.less (slice v (lo + left.len) right.len))
    (h : logicalMerge cfg (fuel + 1) v lo len left right = some (w, r)) :
    r.len = len ∧ Frame v w lo len ∧ (r.sorted = true → Sorted cfg.less (slice w lo len)) := by
  rw [logicalMerge] at h
  split at h
  · cases h
    exact ⟨rfl, Frame.refl _ _ _, fun h => by simp at h⟩
  obtain ⟨u, hu, h⟩ := Option.bind_eq_some_iff.1 h
  obtain ⟨u', hu', h⟩ := Option.bind_eq_some_iff.1 h
  simp only [pure, Option.some.injEq, Prod.mk.injEq] at h
  obtain ⟨rfl, rfl⟩ := h
  -- Each unsorted run is sorted in place; the other run stays as it was.
  obtain ⟨hfu, hsu⟩ := ih.sortRun left.sorted (by omega) hl hu
  have hr' : right.sorted = true → Sorted cfg.less (slice u (lo + left.len) right.len) := fun hs => by
    rw [hfu.slice_eq (by omega)]
    exact hr hs
  obtain ⟨hfu', hsu'⟩ := ih.sortRun right.sorted (by rw [hfu.1]; omega) hr' hu'
  have hl' : Sorted cfg.less (slice u' lo left.len) := by
    rw [hfu'.slice_eq (by omega)]
    exact hsu
  obtain ⟨hfm, hsm⟩ := mergeAt_sorts hw (by rw [hfu'.1, hfu.1]; omega) (by omega) hl'
    (by rwa [show len - left.len = right.len by omega])
  exact ⟨rfl, (hfu.widen (by omega) (by omega)).trans ((hfu'.widen (by omega) (by omega)).trans hfm),
    fun _ => hsm⟩

theorem Sorts.collapse_succ (ih : Sorts cfg fuel) {v w : Array α} {lo scan depth : Nat}
    {prev prev' : Run} {stack stack' : List (Run × Nat)} (hb : lo + scan ≤ v.size)
    (hinv : StackInv cfg.less v lo scan prev stack)
    (h : collapse cfg (fuel + 1) v lo scan prev stack depth = some (w, prev', stack')) :
    Frame v w lo scan ∧ StackInv cfg.less w lo scan prev' stack' ∧ (depth = 0 → stack'.length ≤ 1) := by
  unfold collapse at h
  split at h
  · rename_i left d e rest
    split at h
    · -- The nearest run of the stack merges into the current one.
      obtain ⟨⟨u, run⟩, hu, h⟩ := Option.bind_eq_some_iff.1 h
      obtain ⟨hle, hls, hrest⟩ := hinv.runs
      have hp := hinv.prev_le
      obtain ⟨hrl, hfu, hsu⟩ := ih.logicalMerge_sorted (by omega) rfl
        (fun hs => by
          rw [show lo + scan - (left.len + prev.len) = lo + scan - prev.len - left.len by omega]
          exact hls hs)
        (fun hs => by
          rw [show lo + scan - (left.len + prev.len) + left.len = lo + scan - prev.len by omega]
          exact hinv.prev_sorted hs) hu
      have hinv' : StackInv cfg.less u lo scan run (e :: rest) := {
        prev_le := by omega
        prev_sorted := fun hs => by
          rw [show lo + scan - run.len = lo + scan - (left.len + prev.len) by omega, hrl]
          exact hsu hs
        runs := by
          rw [show lo + scan - run.len = lo + scan - prev.len - left.len by omega]
          exact hrest.frame hfu (by omega)
        bottom := fun x hx => hinv.bottom x (by rwa [List.getLast?_cons_cons])
        empty := fun hnil => absurd hnil (List.cons_ne_nil e rest) }
      obtain ⟨hfw, hinvw, hone⟩ := ih.collapse_sorted (by rw [hfu.1]; exact hb) hinv' h
      exact ⟨(hfu.widen (by omega) (by omega)).trans hfw, hinvw, hone⟩
    · cases h
      exact ⟨Frame.refl _ _ _, hinv, fun hd => by omega⟩
  · -- Fewer than two runs on the stack: nothing to merge.
    rename_i hshort
    cases h
    refine ⟨Frame.refl _ _ _, hinv, fun _ => ?_⟩
    rcases stack with _ | ⟨⟨l, d⟩, _ | ⟨e, rest⟩⟩
    · simp
    · simp
    · exact absurd rfl (hshort l d e rest)

theorem Sorts.runLoop_succ (ih : Sorts cfg fuel) {v w : Array α}
    {lo len scale minGood scan : Nat} {eager : Bool} {prev : Run} {stack : List (Run × Nat)}
    (hb : lo + len ≤ v.size) (hscan : scan ≤ len) (hinv : StackInv cfg.less v lo scan prev stack)
    (h : runLoop cfg (fuel + 1) v lo len scale minGood eager scan prev stack = some w) :
    Frame v w lo len ∧ Sorted cfg.less (slice w lo len) := by
  rw [runLoop] at h
  obtain ⟨⟨u, next, depth⟩, hu, h⟩ := Option.bind_eq_some_iff.1 h
  -- The next run, created at the scan position.
  have hnext : Frame v u (lo + scan) next.len ∧ scan + next.len ≤ len ∧
      (next.sorted = true → Sorted cfg.less (slice u (lo + scan) next.len)) ∧
      (len ≤ scan → depth = 0) := by
    split at hu
    · obtain ⟨⟨u', run⟩, hrun, hu⟩ := Option.bind_eq_some_iff.1 hu
      cases hu
      obtain ⟨hlen, hf, hs⟩ := ih.createRun_sorted (by omega) hrun
      exact ⟨hf, by omega, hs, fun hle => by omega⟩
    · cases hu
      exact ⟨Frame.refl _ _ _, by simp; omega, fun _ => by simp [slice_eq], fun _ => rfl⟩
  obtain ⟨hfu, hnlen, hns, hdepth⟩ := hnext
  have hbu : lo + len ≤ u.size := by rw [hfu.1]; exact hb
  obtain ⟨⟨u', prev', stack'⟩, hc, h⟩ := Option.bind_eq_some_iff.1 h
  obtain ⟨hfc, hinvc, hone⟩ := ih.collapse_sorted (by omega) (hinv.frame hfu (le_refl _)) hc
  have hbu' : lo + len ≤ u'.size := by rw [hfc.1]; exact hbu
  have hframe : Frame v u' lo len :=
    (hfu.widen (by omega) (by omega)).trans (hfc.widen (le_refl _) (by omega))
  dsimp only at h
  split at h
  · -- All scanned: the last merges leave one run over the whole slice.
    rename_i hdone
    have hcover := hinvc.covers (hone (hdepth hdone))
    have hs : prev'.sorted = true → Sorted cfg.less (slice u' lo len) := fun hs => by
      have := hinvc.prev_sorted hs
      rwa [hcover, Nat.add_sub_cancel, show scan = len by omega] at this
    obtain ⟨hfw, hsw⟩ := ih.sortRun prev'.sorted hbu' hs h
    exact ⟨hframe.trans hfw, hsw⟩
  · -- The current run goes onto the stack and the next one becomes current.
    have hp := hinvc.prev_le
    have hinv' : StackInv cfg.less u' lo (scan + next.len) next ((prev', depth) :: stack') := {
      prev_le := Nat.le_add_left _ _
      prev_sorted := fun hs => by
        rw [show lo + (scan + next.len) - next.len = lo + scan by omega, hfc.slice_eq (by omega)]
        exact hns hs
      runs := by
        rw [show lo + (scan + next.len) - next.len = lo + scan by omega]
        exact ⟨by omega, hinvc.prev_sorted, hinvc.runs⟩
      bottom := fun x hx => by
        cases stack' with
        | nil =>
          simp only [List.getLast?_singleton, Option.mem_def, Option.some.injEq] at hx
          rw [← hx]
          exact hinvc.empty rfl
        | cons e rest =>
          exact hinvc.bottom x (by rwa [List.getLast?_cons_cons] at hx)
      empty := fun hnil => absurd hnil (List.cons_ne_nil _ _) }
    obtain ⟨hfw, hsw⟩ := ih.runLoop_sorted hbu' hnlen hinv' h
    exact ⟨hframe.trans hfw, hsw⟩

theorem Sorts.runSort_succ (ih : Sorts cfg fuel) {v w : Array α} {lo len : Nat} {eager : Bool}
    (hb : lo + len ≤ v.size) (h : runSort cfg (fuel + 1) v lo len eager = some w) :
    Frame v w lo len ∧ Sorted cfg.less (slice w lo len) := by
  rw [runSort] at h
  split at h
  · cases h
    exact ⟨Frame.refl _ _ _, sorted_of_length_le_one (by rw [length_slice hb]; omega)⟩
  · exact ih.runLoop_sorted hb (Nat.zero_le _) (stackInv_start v lo) h

theorem Sorts.succ (hw : StrictWeakOrder cfg.less) (ih : Sorts cfg fuel) : Sorts cfg (fuel + 1) :=
  ⟨ih.quicksort_succ hw, ih.stableQuicksort_succ, ih.createRun_succ hw, ih.logicalMerge_succ hw,
    ih.collapse_succ, ih.runLoop_succ, ih.runSort_succ⟩

/-- **Every part of the run-merging sort sorts its slice**, for a strict weak order. -/
theorem sorts (hw : StrictWeakOrder cfg.less) : ∀ fuel, Sorts cfg fuel
  | 0 => sorts_zero
  | fuel + 1 => (sorts hw fuel).succ hw

end Parts

/-- **The stable sort sorts**: for a strict weak order, whatever it returns is
sorted. -/
theorem sort_sorted [Inhabited α] {less : α → α → Bool} (hw : StrictWeakOrder less) (bytes : Nat)
    {xs ys : List α} (h : sort bytes less xs = some ys) : Sorted less ys := by
  unfold sort at h
  dsimp only at h
  split at h
  · cases h
    exact insertionSort_sorted hw xs
  · obtain ⟨w, hw', rfl⟩ := Option.map_eq_some_iff.1 h
    obtain ⟨hf, hs⟩ := (sorts hw _).runSort_sorted (by simp) hw'
    have hsize : xs.length = w.size := by rw [hf.1, List.size_toArray]
    rwa [hsize, slice_all] at hs

end StableSort

end SparqlBag
