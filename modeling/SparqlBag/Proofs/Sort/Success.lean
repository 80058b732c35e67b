import SparqlBag.Proofs.Sort.Sorted

/-!
# The stable sort answers for a strict weak order

The sort fails when the merge from both ends finds that its sides do not meet, or
when a stage runs out of fuel; for a strict weak order neither happens
(`sort_isSome`).  The sides meet because neither ever passes the other
(`MergeState.Meeting`): what a side took is in order with all that side has left
of the other half.  The fuel bounds the depth of the calls: one level per run, per
merge of the stack, and per partition quicksort may still make, at most `6 n + 12`
levels for `n` elements, far less than the sort is given (`succeeds`).
-/

namespace SparqlBag

namespace StableSort

variable {α : Type} [Inhabited α] {less : α → α → Bool}

/-! ## The merge from both ends -/

namespace MergeState

/-- The invariant of the merge from both ends of two sorted halves after `k`
steps: each step took one element at each end, neither side passed the other,
and an element a side took is in order with all that side has left of the
other half. -/
structure Meeting (less : α → α → Bool) (src : Array α) (k : Nat) (s : MergeState α) : Prop where
  front_count : s.left + s.right = src.size / 2 + k
  back_count : s.leftEnd + s.rightEnd + k = src.size / 2 + src.size
  left_le : s.left ≤ s.leftEnd
  right_le : s.right ≤ s.rightEnd
  leftEnd_le : s.leftEnd ≤ src.size / 2
  rightEnd_le : s.rightEnd ≤ src.size
  half_le_right : src.size / 2 ≤ s.right
  /-- The back took of the left half only elements above all it has left of the right half. -/
  back_left : ∀ j i, s.leftEnd ≤ j → j < src.size / 2 → src.size / 2 ≤ i → i < s.rightEnd →
    less (get src i) (get src j) = true
  /-- The back took of the right half only elements that may stand after all it has left of the left half. -/
  back_right : ∀ j i, s.rightEnd ≤ j → j < src.size → i < s.leftEnd → Before less (get src i) (get src j)
  /-- The front took of the left half only elements that may stand before all it has left of the right half. -/
  front_left : ∀ j i, j < s.left → s.right ≤ i → i < src.size → Before less (get src j) (get src i)
  /-- The front took of the right half only elements below all it has left of the left half. -/
  front_right : ∀ j i, src.size / 2 ≤ j → j < s.right → s.left ≤ i → i < src.size / 2 →
    less (get src j) (get src i) = true

theorem meeting_start (less : α → α → Bool) (src : Array α) :
    Meeting less src 0 ⟨0, src.size / 2, src.size / 2, src.size, src⟩ where
  front_count := by simp
  back_count := rfl
  left_le := Nat.zero_le _
  right_le := Nat.div_le_self _ _
  leftEnd_le := le_refl _
  rightEnd_le := le_refl _
  half_le_right := le_refl _
  back_left _ _ hj hj' := absurd hj' (Nat.not_lt.2 hj)
  back_right _ _ hj hj' := absurd hj' (Nat.not_lt.2 hj)
  front_left _ _ hj := absurd hj (Nat.not_lt_zero _)
  front_right _ _ hj hj' := absurd hj' (Nat.not_lt.2 hj)

variable {src : Array α}

section Step

variable (hw : StrictWeakOrder less) (hA : SortedOn less src 0 (src.size / 2))
  (hB : SortedOn less src (src.size / 2) src.size) {k : Nat} {s : MergeState α}
  (hk : k < src.size / 2) (h : Meeting less src k s)
include hk h

/-- While steps remain, the front pointers are inside their halves, the end
pointers are past their starts, and at least two elements are left. -/
theorem Meeting.pointers :
    s.left < src.size / 2 ∧ s.right < src.size ∧ 0 < s.leftEnd ∧ src.size / 2 < s.rightEnd ∧
      2 ≤ (s.leftEnd - s.left) + (s.rightEnd - s.right) := by
  have := h.front_count
  have := h.back_count
  have := h.left_le
  have := h.right_le
  have := h.leftEnd_le
  have := h.rightEnd_le
  have := h.half_le_right
  omega

/-- The front takes from the left half only an element the back has not taken. -/
theorem Meeting.front_left_lt (hfl : less (get src s.right) (get src s.left) = false) :
    s.left < s.leftEnd := by
  obtain ⟨hl, hr, -, -, hrest⟩ := h.pointers hk
  by_contra hle
  have heq : s.left = s.leftEnd := by have := h.left_le; omega
  have := h.back_left s.left s.right (by omega) hl h.half_le_right (by omega)
  simp [hfl] at this

/-- The front takes from the right half only an element the back has not taken. -/
theorem Meeting.front_right_lt (hfr : less (get src s.right) (get src s.left) = true) :
    s.right < s.rightEnd := by
  obtain ⟨-, hr, -, -, hrest⟩ := h.pointers hk
  by_contra hle
  have heq : s.right = s.rightEnd := by have := h.right_le; omega
  have := h.back_right s.right s.left (by omega) hr (by omega)
  simp [Before, hfr] at this

/-- The back takes from the left half only an element the front has not taken. -/
theorem Meeting.back_left_lt (hbl : less (get src (s.rightEnd - 1)) (get src (s.leftEnd - 1)) = true) :
    s.left < s.leftEnd := by
  obtain ⟨-, -, hle, -, hrest⟩ := h.pointers hk
  by_contra hge
  have heq : s.left = s.leftEnd := by have := h.left_le; omega
  have := h.front_left (s.leftEnd - 1) (s.rightEnd - 1) (by omega) (by omega)
    (by have := h.rightEnd_le; omega)
  simp [Before, hbl] at this

/-- The back takes from the right half only an element the front has not taken. -/
theorem Meeting.back_right_lt (hbr : less (get src (s.rightEnd - 1)) (get src (s.leftEnd - 1)) = false) :
    s.right < s.rightEnd := by
  obtain ⟨-, -, -, hre, hrest⟩ := h.pointers hk
  by_contra hge
  have heq : s.right = s.rightEnd := by have := h.right_le; omega
  have := h.front_right (s.rightEnd - 1) (s.leftEnd - 1) (by omega) (by omega) (by omega)
    (by have := h.leftEnd_le; omega)
  simp [hbr] at this

include hw hB in
/-- Front and back do not both take the last element left of the left half. -/
theorem Meeting.left_two (hfl : less (get src s.right) (get src s.left) = false)
    (hbl : less (get src (s.rightEnd - 1)) (get src (s.leftEnd - 1)) = true) :
    s.left + 1 < s.leftEnd := by
  have hlt := h.front_left_lt hk hfl
  obtain ⟨-, -, -, -, hrest⟩ := h.pointers hk
  by_contra hge
  have heq : s.leftEnd - 1 = s.left := by omega
  -- The next of the right half is no greater than its last, which is below the element.
  have hright : Before less (get src s.right) (get src (s.rightEnd - 1)) :=
    hB _ _ h.half_le_right (by omega) (by have := h.rightEnd_le; omega)
  rw [heq] at hbl
  simp [hw.less_of_before_of_less hright hbl] at hfl

include hw hA in
/-- Front and back do not both take the last element left of the right half. -/
theorem Meeting.right_two (hfr : less (get src s.right) (get src s.left) = true)
    (hbr : less (get src (s.rightEnd - 1)) (get src (s.leftEnd - 1)) = false) :
    s.right + 1 < s.rightEnd := by
  have hlt := h.front_right_lt hk hfr
  obtain ⟨-, -, -, -, hrest⟩ := h.pointers hk
  by_contra hge
  have heq : s.rightEnd - 1 = s.right := by omega
  -- The next of the left half is no greater than its last, which the element is not below.
  have hleft : Before less (get src s.left) (get src (s.leftEnd - 1)) :=
    hA _ _ (Nat.zero_le _) (by omega) (by have := h.leftEnd_le; omega)
  rw [heq] at hbr
  simp [hw.less_of_less_of_before hfr hleft] at hbr

include hw hA hB in
/-- **One step keeps the sides from passing each other.** -/
theorem Meeting.step : Meeting less src (k + 1) (s.step less src k) := by
  obtain ⟨x, y, -, hf, hb⟩ := step_picks less src s k
  obtain ⟨hl, hr, hle, hre, -⟩ := h.pointers hk
  have hfc := h.front_count
  have hbc := h.back_count
  have hleE := h.leftEnd_le
  have hreE := h.rightEnd_le
  have hhr := h.half_le_right
  have hlE := h.left_le
  have hrE := h.right_le
  unfold FrontPick at hf
  unfold BackPick at hb
  -- The pointers after the step, by the side each end took from.
  have horder : (s.step less src k).left ≤ (s.step less src k).leftEnd ∧
      (s.step less src k).right ≤ (s.step less src k).rightEnd := by
    rcases hf with ⟨hl', hr', -, hfl⟩ | ⟨hl', hr', -, hfr⟩ <;>
      rcases hb with ⟨hle', hre', -, hbr⟩ | ⟨hle', hre', -, hbl⟩
    · have := h.front_left_lt hk hfl
      have := h.back_right_lt hk hbr
      omega
    · have := h.left_two hw hB hk hfl hbl
      omega
    · have := h.right_two hw hA hk hfr hbr
      omega
    · have := h.front_right_lt hk hfr
      have := h.back_left_lt hk hbl
      omega
  refine ⟨?_, ?_, horder.1, horder.2, ?_, ?_, ?_, ?_, ?_, ?_, ?_⟩
  · rcases hf with ⟨hl', hr', -⟩ | ⟨hl', hr', -⟩ <;> omega
  · rcases hb with ⟨hle', hre', -⟩ | ⟨hle', hre', -⟩ <;> omega
  · rcases hb with ⟨hle', hre', -⟩ | ⟨hle', hre', -⟩ <;> omega
  · rcases hb with ⟨hle', hre', -⟩ | ⟨hle', hre', -⟩ <;> omega
  · rcases hf with ⟨hl', hr', -⟩ | ⟨hl', hr', -⟩ <;> omega
  · -- The back's new element of the left half is above the last of the right half.
    intro j i hj hj' hi hi'
    rcases hb with ⟨hle', hre', -, -⟩ | ⟨hle', hre', -, hbl⟩
    · exact h.back_left j i (by omega) hj' hi (by omega)
    · rcases Nat.lt_or_ge j s.leftEnd with hjl | hjl
      · have hji : j = s.leftEnd - 1 := by omega
        rw [hji]
        exact hw.less_of_before_of_less (hB _ _ hi (by omega) (by omega)) hbl
      · exact h.back_left j i hjl hj' hi (by omega)
  · -- The back's new element of the right half may stand after the last of the left half.
    intro j i hj hj' hi
    rcases hb with ⟨hle', hre', -, hbr⟩ | ⟨hle', hre', -, -⟩
    · rcases Nat.lt_or_ge j s.rightEnd with hjr | hjr
      · have hji : j = s.rightEnd - 1 := by omega
        rw [hji]
        exact hw.before_trans (hA _ _ (Nat.zero_le _) (by omega) (by omega)) hbr
      · exact h.back_right j i hjr hj' (by omega)
    · exact h.back_right j i (by omega) hj' (by omega)
  · -- The front's new element of the left half may stand before the next of the right half.
    intro j i hj hi hi'
    rcases hf with ⟨hl', hr', -, hfl⟩ | ⟨hl', hr', -, -⟩
    · rcases Nat.lt_or_ge j s.left with hjl | hjl
      · exact h.front_left j i hjl (by omega) hi'
      · have hji : j = s.left := by omega
        rw [hji]
        exact hw.before_trans hfl (hB _ _ hhr (by omega) hi')
    · exact h.front_left j i (by omega) (by omega) hi'
  · -- The front's new element of the right half is below the next of the left half.
    intro j i hj hj' hi hi'
    rcases hf with ⟨hl', hr', -, -⟩ | ⟨hl', hr', -, hfr⟩
    · exact h.front_right j i hj (by omega) (by omega) hi'
    · rcases Nat.lt_or_ge j s.right with hjr | hjr
      · exact h.front_right j i hj hjr (by omega) hi'
      · have hji : j = s.right := by omega
        rw [hji]
        exact hw.less_of_less_of_before hfr (hA _ _ (Nat.zero_le _) (by omega) hi')

end Step

theorem meeting_run (hw : StrictWeakOrder less) (hA : SortedOn less src 0 (src.size / 2))
    (hB : SortedOn less src (src.size / 2) src.size) :
    ∀ n, n ≤ src.size / 2 → Meeting less src n ((List.range n).foldl (step less src)
      ⟨0, src.size / 2, src.size / 2, src.size, src⟩)
  | 0, _ => meeting_start less src
  | n + 1, hn => by
    rw [List.range_succ, List.foldl_append, List.foldl_cons, List.foldl_nil]
    exact (meeting_run hw hA hB n (by omega)).step hw hA hB (by omega)

end MergeState

/-- **The merge from both ends of two sorted halves answers** for a strict weak
order: after half as many steps as elements, the two sides have met. -/
theorem bidirectionalMerge_isSome (hw : StrictWeakOrder less) {src : Array α}
    (hA : Sorted less (slice src 0 (src.size / 2)))
    (hB : Sorted less (slice src (src.size / 2) (src.size - src.size / 2))) :
    ∃ out, bidirectionalMerge less src = some out := by
  have hA' : SortedOn less src 0 (src.size / 2) := by
    simpa using sortedOn_of_sorted hw (by omega) hA
  have hB' : SortedOn less src (src.size / 2) src.size := by
    have hs := sortedOn_of_sorted hw (show src.size / 2 + (src.size - src.size / 2) ≤ src.size by omega) hB
    rwa [Nat.add_sub_cancel' (Nat.div_le_self _ _)] at hs
  have hmeet := MergeState.meeting_run hw hA' hB' (src.size / 2) le_rfl
  unfold bidirectionalMerge
  dsimp only
  generalize (List.range (src.size / 2)).foldl (MergeState.step less src)
    ⟨0, src.size / 2, src.size / 2, src.size, src⟩ = s at hmeet ⊢
  have hfc := hmeet.front_count
  have hbc := hmeet.back_count
  have hl := hmeet.left_le
  have hr := hmeet.right_le
  by_cases hodd : src.size % 2 = 0
  · -- Both sides took half of the elements, so they took all.
    have hne : (src.size % 2 != 0) = false := by simp [hodd]
    simp only [hne, Bool.false_eq_true, if_false]
    exact ⟨_, if_pos (by simp only [Bool.and_eq_true, beq_iff_eq]; omega)⟩
  · -- One element is left between the sides, and the middle takes it.
    have hne : (src.size % 2 != 0) = true := by simpa using hodd
    simp only [hne, if_true]
    unfold MergeState.middle
    split
    · exact ⟨_, if_pos (by simp only [Bool.and_eq_true, beq_iff_eq]; omega)⟩
    · exact ⟨_, if_pos (by simp only [Bool.and_eq_true, beq_iff_eq]; omega)⟩

/-! ## The small sort -/

/-- The merge from both ends of two sorted lists, the first holding half of
the elements, answers. -/
theorem bidirectionalMerge_append_isSome (hw : StrictWeakOrder less) {xs ys : List α}
    (hlen : xs.length = (xs.length + ys.length) / 2) (hx : Sorted less xs) (hy : Sorted less ys) :
    ∃ out, bidirectionalMerge less (xs ++ ys).toArray = some out := by
  have hsize : (xs ++ ys).toArray.size = xs.length + ys.length := by simp
  refine bidirectionalMerge_isSome hw ?_ ?_
  · rw [hsize, ← hlen, slice_eq, List.toList_toArray, List.drop_zero, List.take_left' rfl]
    exact hx
  · rw [hsize, ← hlen, slice_eq, List.toList_toArray, List.drop_left' rfl,
      show xs.length + ys.length - xs.length = ys.length by omega, List.take_length]
    exact hy

theorem sort8_isSome (hw : StrictWeakOrder less) (v : Array α) : ∃ out, sort8 less v = some out := by
  obtain ⟨w, hm⟩ := bidirectionalMerge_append_isSome hw (by simp [sort4])
    (sort4_sorted hw (v.extract 0 4)) (sort4_sorted hw (v.extract 4 8))
  exact ⟨w.toList, by simp only [sort8, hm, Option.map_some]⟩

/-- **The small sort answers**, whatever the size of its array. -/
theorem smallSort_isSome {cfg : Config α} (hw : StrictWeakOrder cfg.less) (v : Array α) :
    ∃ w, smallSort cfg v = some w := by
  -- Whatever the presorted length, both halves are sorted and the first holds
  -- half of the elements.
  have hmerge : ∀ (first second : List α) (p : Nat), Sorted cfg.less first →
      Sorted cfg.less second → first.length = p → second.length = p →
      p + (v.size / 2 - p) = (p + (v.size / 2 - p) + (p + (v.size - (v.size / 2 + p)))) / 2 →
      ∃ w, bidirectionalMerge cfg.less (insertAll cfg.less first (v.extract p (v.size / 2)).toList ++
        insertAll cfg.less second (v.extract (v.size / 2 + p) v.size).toList).toArray = some w := by
    intro first second p hf hs hfl hsl hhalf
    refine bidirectionalMerge_append_isSome hw ?_ (insertAll_sorted hw hf _) (insertAll_sorted hw hs _)
    rw [(insertAll_perm _ _ _).length_eq, (insertAll_perm _ _ _).length_eq]
    simp only [List.length_append, Array.length_toList, Array.size_extract, hfl, hsl]
    omega
  unfold smallSort
  simp only []
  split_ifs with hbig hmid
  · have h16 : 16 ≤ v.size := by
      simp only [Bool.and_eq_true, decide_eq_true_eq] at hbig
      exact hbig.2
    obtain ⟨first, hfirst⟩ := sort8_isSome hw (v.extract 0 8)
    obtain ⟨second, hsecond⟩ := sort8_isSome hw (v.extract (v.size / 2) (v.size / 2 + 8))
    have hfl := (sort8_perm cfg.less (by simp; omega) hfirst).length_eq
    have hsl := (sort8_perm cfg.less (by simp; omega) hsecond).length_eq
    simp only [Array.length_toList, Array.size_extract] at hfl hsl
    simp only [hfirst, hsecond, pure, Option.bind_eq_bind, Option.bind_some]
    exact hmerge first second 8 (sort8_sorted hw hfirst) (sort8_sorted hw hsecond) (by omega)
      (by omega) (by omega)
  · simp only [pure, Option.bind_eq_bind, Option.bind_some]
    exact hmerge _ _ 4 (sort4_sorted hw _) (sort4_sorted hw _) (by simp [sort4]) (by simp [sort4])
      (by omega)
  · simp only [pure, Option.bind_eq_bind, Option.bind_some]
    exact hmerge _ _ 1 (List.pairwise_singleton _ _) (List.pairwise_singleton _ _) rfl rfl (by omega)

theorem smallSortAt_isSome {cfg : Config α} (hw : StrictWeakOrder cfg.less) (v : Array α) (lo len : Nat) :
    ∃ w, smallSortAt cfg v lo len = some w := by
  unfold smallSortAt
  split
  · exact ⟨v, rfl⟩
  · obtain ⟨w, hs⟩ := smallSort_isSome hw (v.extract lo (lo + len))
    exact ⟨_, by rw [hs]; rfl⟩

/-! ## Sizes of slices and runs -/

omit [Inhabited α] in
theorem length_slice_le (v : Array α) (lo len : Nat) : (slice v lo len).length ≤ len := by
  rw [slice_eq, List.length_take]
  exact Nat.min_le_left _ _

omit [Inhabited α] in
theorem stablePartition_snd_le (v : Array α) (lo len pivot : Nat) (pivotLeft : Bool) (toLeft : α → Bool) :
    (stablePartition v lo len pivot pivotLeft toLeft).2 ≤ len := by
  unfold stablePartition
  dsimp only
  rw [List.length_map]
  calc _ ≤ ((slice v lo len).zipIdx).length := List.length_filter_le _ _
    _ = (slice v lo len).length := List.length_zipIdx
    _ ≤ len := length_slice_le v lo len

theorem partitionBelow_snd_le (cfg : Config α) (v : Array α) (lo len p : Nat) (ancestor : Option α) :
    (partitionBelow cfg v lo len p ancestor).2 ≤ len := by
  unfold partitionBelow
  dsimp only
  -- With an ancestor the pivot may repeat it; then nothing goes left.
  split <;> split
  · exact Nat.zero_le _
  · exact stablePartition_snd_le _ _ _ _ _ _
  · exact Nat.zero_le _
  · exact stablePartition_snd_le _ _ _ _ _ _

omit [Inhabited α] in
theorem log2_or_one_le (m : Nat) : Nat.log2 (m ||| 1) ≤ m := by
  have hlt := Nat.or_lt_two_pow
    (Nat.lt_of_lt_of_le (Nat.lt_two_pow_self (n := m)) (Nat.pow_le_pow_right (by decide) (Nat.le_succ m)))
    (Nat.one_lt_two_pow (Nat.succ_ne_zero m))
  have hne : m ||| 1 ≠ 0 := by simp [Nat.or_eq_zero_iff]
  have := (Nat.log2_lt hne).2 hlt
  omega

omit [Inhabited α] in
/-- The minimal length of a run is positive. -/
theorem sqrtApprox_pos {m : Nat} (hm : 2 ≤ m) : 0 < sqrtApprox m := by
  unfold sqrtApprox
  dsimp only
  rw [Nat.one_shiftLeft]
  have hor : 2 ≤ m ||| 1 := Nat.le_trans hm Nat.left_le_or
  have hlog : 1 ≤ Nat.log2 (m ||| 1) := (Nat.le_log2 (by omega)).2 (by simpa using hor)
  have hpow := Nat.pow_le_pow_right (show 0 < 2 by decide)
    (show 1 ≤ (1 + Nat.log2 (m ||| 1)) / 2 by omega)
  rw [Nat.pow_one] at hpow
  exact Nat.div_pos (Nat.le_trans hpow (Nat.le_add_right _ _)) (by decide)

/-- The elements covered by the runs on the stack. -/
def stackLength : List (Run × Nat) → Nat
  | [] => 0
  | e :: rest => e.1.len + stackLength rest

/-- The elements covered by a run and the runs on the stack. -/
def runsLength (prev : Run) (stack : List (Run × Nat)) : Nat := prev.len + stackLength stack

/-- A run and all runs on the stack are sorted. -/
def AllSorted (prev : Run) (stack : List (Run × Nat)) : Prop :=
  prev.sorted = true ∧ ∀ e ∈ stack, e.1.sorted = true

theorem runsLength_cons (next prev : Run) (depth : Nat) (stack : List (Run × Nat)) :
    runsLength next ((prev, depth) :: stack) = next.len + runsLength prev stack := by
  simp only [runsLength, stackLength]

/-! ## Fuel -/

/-- The fuel the run-merging sort of at most `n` elements needs when the
small sort makes its runs: a level per run and one per run on the stack,
beyond the two levels of making a run. -/
def eagerNeed (n : Nat) : Nat := 2 * n + 4

/-- The fuel quicksort needs with `limit` partitions left: one level for a
small slice, otherwise one per partition and then the run-merging sort. -/
def quickNeed (n len limit : Nat) : Nat :=
  if len ≤ smallSortThreshold then 1 else limit + eagerNeed n + 1

/-- The fuel quicksort from the start needs: its limit is at most `2 n + 2`. -/
def stableNeed (n : Nat) : Nat := 2 * n + eagerNeed n + 4

/-- The fuel a merge of two runs needs: one level, and quicksort for a run
that is not sorted. -/
def mergeNeed (n : Nat) (sorted : Bool) : Nat := if sorted then 1 else stableNeed n + 1

/-- The fuel one level of the run-merging loop passes to the stages it calls. -/
def loopNeed (n : Nat) (eager : Bool) : Nat := if eager then 2 else stableNeed n + 2

/-- The fuel the run-merging sort needs. -/
def runNeed (n : Nat) (eager : Bool) : Nat := 2 * n + loopNeed n eager + 2

/-- Every stage of the run-merging sort answers for slices of at most `n`
elements when `fuel` covers its need. -/
structure Succeeds (cfg : Config α) (n fuel : Nat) : Prop where
  quicksort : ∀ v lo len limit ancestor, len ≤ n → quickNeed n len limit ≤ fuel →
    ∃ w, quicksort cfg fuel v lo len limit ancestor = some w
  stableQuicksort : ∀ v lo len, len ≤ n → stableNeed n ≤ fuel →
    ∃ w, stableQuicksort cfg fuel v lo len = some w
  createRun : ∀ v lo len minGood (eager : Bool), len ≤ n → 0 < minGood →
    (if eager then 2 else 1) ≤ fuel →
    ∃ w r, createRun cfg fuel v lo len minGood eager = some (w, r) ∧ r.len ≤ len ∧
      (0 < len → 0 < r.len) ∧ (eager = true → r.sorted = true)
  logicalMerge : ∀ v lo len (left right : Run), left.len ≤ n → right.len ≤ n →
    mergeNeed n (left.sorted && right.sorted) ≤ fuel →
    ∃ w r, logicalMerge cfg fuel v lo len left right = some (w, r) ∧ r.len = len ∧
      (left.sorted = true → right.sorted = true → r.sorted = true)
  collapse : ∀ v lo scan prev stack depth (sorted : Bool), runsLength prev stack ≤ n →
    (sorted = true → AllSorted prev stack) → stack.length + mergeNeed n sorted + 1 ≤ fuel →
    ∃ w prev' stack', collapse cfg fuel v lo scan prev stack depth = some (w, prev', stack') ∧
      stack'.length ≤ stack.length ∧ runsLength prev' stack' = runsLength prev stack ∧
      (sorted = true → AllSorted prev' stack')
  runLoop : ∀ v lo len scale minGood (eager : Bool) scan prev stack, len ≤ n → scan ≤ len →
    0 < minGood → runsLength prev stack ≤ scan → (eager = true → AllSorted prev stack) →
    2 * (len - scan) + stack.length + loopNeed n eager + 1 ≤ fuel →
    ∃ w, runLoop cfg fuel v lo len scale minGood eager scan prev stack = some w
  runSort : ∀ v lo len eager, len ≤ n → runNeed n eager ≤ fuel →
    ∃ w, runSort cfg fuel v lo len eager = some w

variable {cfg : Config α} {n fuel : Nat}

/-- No need is zero, so without fuel there is nothing to show. -/
theorem succeeds_zero (cfg : Config α) (n : Nat) : Succeeds cfg n 0 where
  quicksort _ _ _ _ _ _ h := absurd h (by unfold quickNeed; split <;> omega)
  stableQuicksort _ _ _ _ h := absurd h (by unfold stableNeed; omega)
  createRun _ _ _ _ _ _ _ h := absurd h (by split <;> omega)
  logicalMerge _ _ _ _ _ _ _ h := absurd h (by unfold mergeNeed; split <;> omega)
  collapse _ _ _ _ _ _ _ _ _ h := absurd h (by omega)
  runLoop _ _ _ _ _ _ _ _ _ _ _ _ _ _ h := absurd h (by omega)
  runSort _ _ _ _ _ h := absurd h (by unfold runNeed; omega)

theorem Succeeds.quicksort_succ (hw : StrictWeakOrder cfg.less) (ih : Succeeds cfg n fuel)
    (v : Array α) (lo len limit : Nat) (ancestor : Option α) (hlen : len ≤ n)
    (hfuel : quickNeed n len limit ≤ fuel + 1) :
    ∃ w, StableSort.quicksort cfg (fuel + 1) v lo len limit ancestor = some w := by
  simp only [StableSort.quicksort]
  split
  · exact smallSortAt_isSome hw v lo len
  rename_i hbig
  have hneed : limit + eagerNeed n + 1 ≤ fuel + 1 := by simpa [quickNeed, hbig] using hfuel
  split
  · -- No partition left: the run-merging sort, whose runs the small sort makes.
    exact ih.runSort v lo len true hlen (by simp only [runNeed, loopNeed, if_true, eagerNeed] at hneed ⊢; omega)
  rename_i hlimit
  have hlim : 0 < limit := by simp only [beq_iff_eq] at hlimit; omega
  -- Each side is sorted with one partition less.
  have hside : ∀ u lo' len' anc, len' ≤ len → ∃ w, StableSort.quicksort cfg fuel u lo' len' (limit - 1) anc = some w :=
    fun u lo' len' anc hl => ih.quicksort u lo' len' (limit - 1) anc (by omega)
      (by unfold quickNeed; split <;> omega)
  set p := choosePivot cfg.less v lo len
  set pivot := get v (lo + p)
  have hm := partitionBelow_snd_le cfg v lo len p ancestor
  rcases hpart : partitionBelow cfg v lo len p ancestor with ⟨v1, m⟩
  rw [hpart] at hm
  dsimp only
  split
  · rcases hpart2 : stablePartition v1 lo len p true (fun x => !cfg.less pivot x) with ⟨v2, mid⟩
    dsimp only
    exact hside v2 (lo + mid) (len - mid) none (Nat.sub_le _ _)
  · obtain ⟨u, hu⟩ := hside v1 (lo + m) (len - m) (some pivot) (Nat.sub_le _ _)
    obtain ⟨w, hw'⟩ := hside u lo m ancestor hm
    exact ⟨w, by rw [hu]; exact hw'⟩

theorem Succeeds.stableQuicksort_succ (ih : Succeeds cfg n fuel) (v : Array α) (lo len : Nat)
    (hlen : len ≤ n) (hfuel : stableNeed n ≤ fuel + 1) :
    ∃ w, StableSort.stableQuicksort cfg (fuel + 1) v lo len = some w := by
  simp only [StableSort.stableQuicksort]
  refine ih.quicksort v lo len _ none hlen ?_
  have hlog := log2_or_one_le len
  unfold quickNeed
  unfold stableNeed at hfuel
  split <;> omega

theorem Succeeds.createRun_succ (hw : StrictWeakOrder cfg.less) (ih : Succeeds cfg n fuel)
    (v : Array α) (lo len minGood : Nat) (eager : Bool) (hlen : len ≤ n) (hgood : 0 < minGood)
    (hfuel : (if eager then 2 else 1) ≤ fuel + 1) :
    ∃ w r, StableSort.createRun cfg (fuel + 1) v lo len minGood eager = some (w, r) ∧ r.len ≤ len ∧
      (0 < len → 0 < r.len) ∧ (eager = true → r.sorted = true) := by
  rw [StableSort.createRun]
  split
  rename_i runLen descending hrun
  dsimp only
  split
  · -- An existing run, at least as long as asked for.
    rename_i hlong
    simp only [Bool.and_eq_true, decide_eq_true_eq] at hlong
    rw [if_pos hlong.1] at hrun
    have hle := (existingRun_sorted hw (slice v lo len)).1
    rw [hrun] at hle
    exact ⟨_, _, rfl, Nat.le_trans hle (length_slice_le v lo len),
      fun _ => Nat.lt_of_lt_of_le hgood hlong.2, fun _ => rfl⟩
  split
  · -- A run of at most the threshold, sorted by the small sort.
    rename_i heager
    obtain ⟨u, hu⟩ := ih.quicksort v lo (min smallSortThreshold len) 0 none (by omega)
      (by simp only [quickNeed, Nat.min_le_left, if_true]; simp [heager] at hfuel; omega)
    exact ⟨u, _, by rw [hu]; rfl, Nat.min_le_right _ _, fun h => by simp [smallSortThreshold]; omega,
      fun _ => rfl⟩
  · exact ⟨v, _, rfl, Nat.min_le_right _ _, fun h => by simp; omega, fun h => by simp_all⟩

/-- A run that is sorted stays; one that is not is quicksorted. -/
theorem Succeeds.sortRun (ih : Succeeds cfg n fuel) (sorted : Bool) (v : Array α) (lo len : Nat)
    (hlen : len ≤ n) (hfuel : sorted = false → stableNeed n ≤ fuel) :
    ∃ w, (if sorted = true then pure v else StableSort.stableQuicksort cfg fuel v lo len) = some w := by
  cases sorted with
  | true => exact ⟨v, rfl⟩
  | false => exact ih.stableQuicksort v lo len hlen (hfuel rfl)

theorem Succeeds.logicalMerge_succ (ih : Succeeds cfg n fuel) (v : Array α) (lo len : Nat)
    (left right : Run) (hl : left.len ≤ n) (hr : right.len ≤ n)
    (hfuel : mergeNeed n (left.sorted && right.sorted) ≤ fuel + 1) :
    ∃ w r, StableSort.logicalMerge cfg (fuel + 1) v lo len left right = some (w, r) ∧ r.len = len ∧
      (left.sorted = true → right.sorted = true → r.sorted = true) := by
  rw [StableSort.logicalMerge]
  split
  · -- Two unsorted runs merge lazily.
    rename_i hlazy
    refine ⟨v, ⟨len, false⟩, rfl, rfl, fun hls _ => ?_⟩
    simp [hls] at hlazy
  · -- An unsorted run is quicksorted first, then the two are merged.
    have hsort : ∀ b : Bool, (b = left.sorted ∨ b = right.sorted) → b = false → stableNeed n ≤ fuel := by
      rintro b (rfl | rfl) hb <;> simp [mergeNeed, hb] at hfuel <;> omega
    obtain ⟨u, hu⟩ := ih.sortRun left.sorted v lo left.len hl (hsort _ (.inl rfl))
    obtain ⟨u', hu'⟩ := ih.sortRun right.sorted u (lo + left.len) right.len hr (hsort _ (.inr rfl))
    exact ⟨_, _, by rw [hu]; dsimp only [bind, Option.bind]; rw [hu']; rfl, rfl, fun _ _ => rfl⟩

theorem mergeNeed_le (n : Nat) (b : Bool) : mergeNeed n b ≤ mergeNeed n false := by
  cases b <;> simp [mergeNeed]

theorem Succeeds.collapse_succ (ih : Succeeds cfg n fuel) (v : Array α) (lo scan : Nat) (prev : Run)
    (stack : List (Run × Nat)) (depth : Nat) (sorted : Bool) (hlen : runsLength prev stack ≤ n)
    (hs : sorted = true → AllSorted prev stack) (hfuel : stack.length + mergeNeed n sorted + 1 ≤ fuel + 1) :
    ∃ w prev' stack', StableSort.collapse cfg (fuel + 1) v lo scan prev stack depth = some (w, prev', stack') ∧
      stack'.length ≤ stack.length ∧ runsLength prev' stack' = runsLength prev stack ∧
      (sorted = true → AllSorted prev' stack') := by
  unfold StableSort.collapse
  split
  · rename_i left d next rest
    split
    · -- The nearest run merges into `prev`, and the rest of the stack follows.
      have hlenl : left.len + prev.len ≤ n := by
        simp only [runsLength, stackLength] at hlen
        omega
      have hmerge : mergeNeed n (left.sorted && prev.sorted) ≤ fuel := by
        cases sorted with
        | true =>
          obtain ⟨hp, hst⟩ := hs rfl
          rw [hp, hst (left, d) List.mem_cons_self]
          simp [mergeNeed] at hfuel ⊢
          omega
        | false =>
          have := mergeNeed_le n (left.sorted && prev.sorted)
          simp only [List.length_cons] at hfuel
          omega
      obtain ⟨u, r, hu, hr, hrs⟩ :=
        ih.logicalMerge v (lo + scan - (left.len + prev.len)) (left.len + prev.len) left prev
          (by omega) (by omega) hmerge
      have hrlen : runsLength r (next :: rest) = runsLength prev ((left, d) :: next :: rest) := by
        simp only [runsLength, stackLength, hr]
        omega
      have hrsorted : sorted = true → AllSorted r (next :: rest) := by
        intro hsorted
        obtain ⟨hp, hst⟩ := hs hsorted
        exact ⟨hrs (hst (left, d) List.mem_cons_self) hp, fun e he => hst e (List.mem_cons_of_mem _ he)⟩
      obtain ⟨w, prev', stack', hc, hlen', hsum, hsorted'⟩ :=
        ih.collapse u lo scan r (next :: rest) depth sorted (by omega) hrsorted
          (by simp only [List.length_cons] at hfuel ⊢; omega)
      refine ⟨w, prev', stack', ?_, by simp only [List.length_cons] at hlen' ⊢; omega,
        by rw [hsum, hrlen], hsorted'⟩
      dsimp only
      rw [hu]
      exact hc
    · exact ⟨v, prev, _, rfl, le_refl _, rfl, hs⟩
  · exact ⟨v, prev, stack, rfl, le_refl _, rfl, hs⟩

theorem loopNeed_createRun (n : Nat) (eager : Bool) : (if eager then 2 else 1) ≤ loopNeed n eager := by
  cases eager <;> simp [loopNeed]

theorem Succeeds.runLoop_succ (ih : Succeeds cfg n fuel) (v : Array α) (lo len scale minGood : Nat)
    (eager : Bool) (scan : Nat) (prev : Run) (stack : List (Run × Nat)) (hlen : len ≤ n) (hscan : scan ≤ len)
    (hgood : 0 < minGood) (hruns : runsLength prev stack ≤ scan) (hs : eager = true → AllSorted prev stack)
    (hfuel : 2 * (len - scan) + stack.length + loopNeed n eager + 1 ≤ fuel + 1) :
    ∃ w, StableSort.runLoop cfg (fuel + 1) v lo len scale minGood eager scan prev stack = some w := by
  -- The fuel the stages of this level get.
  have hcreate : (if eager then 2 else 1) ≤ fuel := Nat.le_trans (loopNeed_createRun n eager) (by omega)
  have hcollapse : stack.length + mergeNeed n eager + 1 ≤ fuel := by
    cases eager <;> simp [loopNeed, mergeNeed] at hfuel ⊢ <;> omega
  have hfinal : eager = false → stableNeed n ≤ fuel := by
    rintro rfl
    simp [loopNeed] at hfuel
    omega
  rw [StableSort.runLoop]
  by_cases hlt : scan < len
  · -- A new run at the scan position, the stack merged down to its depth, and the loop goes on.
    obtain ⟨u, next, hu, hnlen, hnpos, hnsorted⟩ :=
      ih.createRun v (lo + scan) (len - scan) minGood eager (by omega) hgood hcreate
    have hnext := hnpos (by omega)
    set depth := mergeTreeDepth (scan - prev.len) scan (scan + next.len) scale
    obtain ⟨w, prev', stack', hc, hlen', hsum, hsorted'⟩ :=
      ih.collapse u lo scan prev stack depth eager (by omega) hs hcollapse
    obtain ⟨w', hw'⟩ := ih.runLoop w lo len scale minGood eager (scan + next.len) next
      ((prev', depth) :: stack') hlen (by omega) hgood (by rw [runsLength_cons, hsum]; omega)
      (fun he => ⟨hnsorted he, fun e he' => by
        rcases List.mem_cons.1 he' with rfl | he'
        · exact (hsorted' he).1
        · exact (hsorted' he).2 e he'⟩)
      (by simp only [List.length_cons]; omega)
    refine ⟨w', ?_⟩
    rw [if_pos hlt, hu]
    dsimp only [bind, Option.bind, pure]
    rw [hc]
    dsimp only
    rw [if_neg (by omega)]
    exact hw'
  · -- The end: the stack is merged down, and the last run sorted if it is not yet.
    obtain ⟨w, prev', stack', hc, -, -, hsorted'⟩ := ih.collapse v lo scan prev stack 0 eager (by omega) hs hcollapse
    obtain ⟨w', hw'⟩ := ih.sortRun prev'.sorted w lo len hlen (fun hp => by
      cases eager with
      | true => simp [(hsorted' rfl).1] at hp
      | false => exact hfinal rfl)
    refine ⟨w', ?_⟩
    rw [if_neg hlt]
    dsimp only [bind, Option.bind, pure]
    rw [hc]
    dsimp only
    rw [if_pos (by omega)]
    exact hw'

theorem Succeeds.runSort_succ (ih : Succeeds cfg n fuel) (v : Array α) (lo len : Nat) (eager : Bool)
    (hlen : len ≤ n) (hfuel : runNeed n eager ≤ fuel + 1) :
    ∃ w, StableSort.runSort cfg (fuel + 1) v lo len eager = some w := by
  rw [StableSort.runSort]
  split
  · exact ⟨v, rfl⟩
  · rename_i h2
    dsimp only
    refine ih.runLoop v lo len _ _ eager 0 ⟨0, true⟩ [] hlen (Nat.zero_le _) ?_ (by simp [runsLength, stackLength])
      (fun _ => ⟨rfl, by simp⟩) (by simp only [runNeed] at hfuel; simp; omega)
    -- Runs are asked to be at least one element long.
    split
    · omega
    · exact sqrtApprox_pos (by omega)

theorem Succeeds.succ (hw : StrictWeakOrder cfg.less) (ih : Succeeds cfg n fuel) :
    Succeeds cfg n (fuel + 1) :=
  ⟨ih.quicksort_succ hw, ih.stableQuicksort_succ, ih.createRun_succ hw, ih.logicalMerge_succ,
    ih.collapse_succ, ih.runLoop_succ, ih.runSort_succ⟩

/-- **Every stage answers when its fuel covers its need**, for a strict weak order. -/
theorem succeeds (cfg : Config α) (hw : StrictWeakOrder cfg.less) (n : Nat) : ∀ fuel, Succeeds cfg n fuel
  | 0 => succeeds_zero cfg n
  | fuel + 1 => (succeeds cfg hw n fuel).succ hw

/-- **The stable sort answers for a strict weak order**: the order never looks
inconsistent, and the fuel it is given, `16 n (log n + 2) + 256` for `n`
elements, covers the `6 n + 12` levels it needs. -/
theorem sort_isSome (hw : StrictWeakOrder less) (bytes : Nat) (xs : List α) :
    ∃ ys, sort bytes less xs = some ys := by
  unfold sort
  dsimp only
  split
  · exact ⟨_, rfl⟩
  · have hlog : 32 * xs.length ≤ 16 * xs.length * (Nat.log2 xs.length + 2) := by
      have := Nat.mul_le_mul_left (16 * xs.length) (show 2 ≤ Nat.log2 xs.length + 2 by omega)
      omega
    obtain ⟨w, hw'⟩ := (succeeds ⟨less, scratchLength bytes xs.length, decide (bytes ≤ 16)⟩ hw
      xs.length (16 * xs.length * (Nat.log2 xs.length + 2) + 256)).runSort xs.toArray 0 xs.length
      (decide (xs.length ≤ 2 * smallSortThreshold)) le_rfl
      (by cases decide (xs.length ≤ 2 * smallSortThreshold) <;>
        simp only [runNeed, loopNeed, stableNeed, eagerNeed] <;> simp <;> omega)
    exact ⟨w.toList, by rw [hw']; rfl⟩

end StableSort

end SparqlBag
