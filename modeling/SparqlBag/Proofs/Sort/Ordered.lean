import SparqlBag.Proofs.Sort.Perm

/-!
# Sorted lists, and the pieces of the small sort that sort them

The sort is meant for strict weak orders `less`; for them `a` may stand before
`b` when `b` is not less than `a` (`Before`), and a list is sorted when every
element may stand before every later one (`Sorted`).  Each piece of the small sort
sorts: insertion, the merges from the front and from the back, an existing run,
the network of four elements (`sort4_sorted`) and the merge from both ends
(`bidirectionalMerge_sorted`).  That merge writes front and back at once; its
invariant (`MergeState.Ordered`) makes the two parts fit together when the final
check passes.
-/

namespace SparqlBag

namespace StableSort

variable {α : Type}

/-- The orders the sort is meant for: irreflexive and transitive, and with
"not less" transitive too (equivalently, incomparability is transitive). -/
structure StrictWeakOrder (less : α → α → Bool) : Prop where
  irrefl : ∀ a, less a a = false
  trans : ∀ {a b c}, less a b = true → less b c = true → less a c = true
  not_less_trans : ∀ {a b c}, less b a = false → less c b = false → less c a = false

/-- `a` may stand before `b`: `b` is not less than `a`. -/
def Before (less : α → α → Bool) (a b : α) : Prop := less b a = false

/-- Sorted by `less`: every element may stand before every later one. -/
def Sorted (less : α → α → Bool) (xs : List α) : Prop := xs.Pairwise (Before less)

/-! ## Sorted lists -/

section Lists

variable {less : α → α → Bool}

@[simp] theorem sorted_nil : Sorted less ([] : List α) := List.Pairwise.nil

theorem sorted_cons {a : α} {l : List α} :
    Sorted less (a :: l) ↔ (∀ b ∈ l, Before less a b) ∧ Sorted less l :=
  List.pairwise_cons

theorem sorted_append {l₁ l₂ : List α} :
    Sorted less (l₁ ++ l₂) ↔ Sorted less l₁ ∧ Sorted less l₂ ∧ ∀ a ∈ l₁, ∀ b ∈ l₂, Before less a b :=
  List.pairwise_append

theorem Sorted.sublist {l₁ l₂ : List α} (h : l₁.Sublist l₂) (hs : Sorted less l₂) : Sorted less l₁ :=
  List.Pairwise.sublist h hs

theorem sorted_of_length_le_one {l : List α} (h : l.length ≤ 1) : Sorted less l := by
  match l, h with
  | [], _ => exact List.Pairwise.nil
  | [_], _ => exact List.pairwise_singleton _ _

/-- The last element of a sorted list may stand after every other one. -/
theorem before_last_of_sorted {l : List α} {z : α} (h : Sorted less (l ++ [z])) :
    ∀ a ∈ l, Before less a z :=
  fun a ha => (sorted_append.1 h).2.2 a ha z (List.mem_singleton_self z)

end Lists

namespace StrictWeakOrder

variable {less : α → α → Bool} (hw : StrictWeakOrder less)
include hw

theorem before_refl (a : α) : Before less a a := hw.irrefl a

theorem before_trans {a b c : α} (hab : Before less a b) (hbc : Before less b c) : Before less a c :=
  hw.not_less_trans hab hbc

theorem before_of_less {a b : α} (h : less a b = true) : Before less a b :=
  Bool.eq_false_iff.2 fun hba => by simpa [hw.irrefl a] using hw.trans h hba

theorem less_of_less_of_before {a b c : α} (hab : less a b = true) (hbc : Before less b c) :
    less a c = true := by
  by_contra hac
  have hab' : less a b = false := hw.not_less_trans hbc (Bool.eq_false_iff.2 hac)
  simp [hab] at hab'

theorem less_of_before_of_less {a b c : α} (hab : Before less a b) (hbc : less b c = true) :
    less a c = true := by
  by_contra hac
  have hcb : Before less c b := hw.before_trans (Bool.eq_false_iff.2 hac) hab
  simp [Before, hbc] at hcb

/-- Of two elements, the one that `less` picks may stand before the other. -/
theorem before_select (x y : α) :
    Before less (if less y x then y else x) (if less y x then x else y) := by
  split
  · exact hw.before_of_less ‹_›
  · exact Bool.eq_false_iff.2 ‹_›

theorem select_before_left (x y : α) : Before less (if less y x then y else x) x := by
  split
  · exact hw.before_of_less ‹_›
  · exact hw.before_refl x

theorem select_before_right (x y : α) : Before less (if less y x then y else x) y := by
  split
  · exact hw.before_refl y
  · exact Bool.eq_false_iff.2 ‹_›

theorem before_select_left (x y : α) : Before less x (if less y x then x else y) := by
  split
  · exact hw.before_refl x
  · exact Bool.eq_false_iff.2 ‹_›

theorem before_select_right (x y : α) : Before less y (if less y x then x else y) := by
  split
  · exact hw.before_of_less ‹_›
  · exact hw.before_refl y

end StrictWeakOrder

section Pieces

variable {less : α → α → Bool} (hw : StrictWeakOrder less)
include hw

/-! ## Insertion -/

/-- Inserting into a list that is sorted backwards keeps it sorted backwards. -/
theorem insertBackwards_descends (x : α) : ∀ ys : List α,
    ys.Pairwise (fun a b => Before less b a) →
      (insertBackwards less x ys).Pairwise (fun a b => Before less b a)
  | [], _ => List.pairwise_singleton _ _
  | y :: ys, h => by
    rw [List.pairwise_cons] at h
    unfold insertBackwards
    split
    · rename_i hxy
      refine List.pairwise_cons.2 ⟨fun b hb => ?_, insertBackwards_descends x ys h.2⟩
      rcases List.mem_cons.1 ((insertBackwards_perm less x ys).mem_iff.1 hb) with rfl | hb
      · exact hw.before_of_less hxy
      · exact h.1 b hb
    · rename_i hxy
      have hyx : Before less y x := Bool.eq_false_iff.2 hxy
      refine List.pairwise_cons.2 ⟨fun b hb => ?_, List.pairwise_cons.2 h⟩
      rcases List.mem_cons.1 hb with rfl | hb
      · exact hyx
      · exact hw.before_trans (h.1 b hb) hyx

theorem insertAll_sorted {sorted : List α} (h : Sorted less sorted) (rest : List α) :
    Sorted less (insertAll less sorted rest) := by
  -- The fold keeps its accumulator sorted backwards.
  have hfold : ∀ (xs acc : List α), acc.Pairwise (fun a b => Before less b a) →
      (xs.foldl (fun backwards x => insertBackwards less x backwards) acc).Pairwise
        (fun a b => Before less b a) := by
    intro xs
    induction xs with
    | nil => exact fun _ h => h
    | cons x xs ih => exact fun acc h => ih _ (insertBackwards_descends hw x acc h)
  unfold insertAll Sorted
  exact List.pairwise_reverse.2 (hfold rest _ (List.pairwise_reverse.2 h))

theorem insertionSort_sorted (xs : List α) : Sorted less (insertionSort less xs) :=
  insertAll_sorted hw sorted_nil xs

/-! ## Merges -/

theorem mergeForward_sorted {xs ys : List α} (hxs : Sorted less xs) (hys : Sorted less ys) :
    Sorted less (mergeForward less xs ys) := by
  fun_induction mergeForward less xs ys with
  | case1 ys => exact hys
  | case2 xs => exact hxs
  | case3 x xs y ys hlt ih =>
    -- The right element is less than the left one, so it may stand before both lists.
    have hx := sorted_cons.1 hxs
    have hy := sorted_cons.1 hys
    refine sorted_cons.2 ⟨fun b hb => ?_, ih hxs hy.2⟩
    rcases List.mem_append.1 ((mergeForward_perm less _ _).mem_iff.1 hb) with hb | hb
    · rcases List.mem_cons.1 hb with rfl | hb
      · exact hw.before_of_less hlt
      · exact hw.before_trans (hw.before_of_less hlt) (hx.1 b hb)
    · exact hy.1 b hb
  | case4 x xs y ys hnlt ih =>
    have hxy : Before less x y := Bool.eq_false_iff.2 hnlt
    have hx := sorted_cons.1 hxs
    have hy := sorted_cons.1 hys
    refine sorted_cons.2 ⟨fun b hb => ?_, ih hx.2 hys⟩
    rcases List.mem_append.1 ((mergeForward_perm less _ _).mem_iff.1 hb) with hb | hb
    · exact hx.1 b hb
    · rcases List.mem_cons.1 hb with rfl | hb
      · exact hxy
      · exact hw.before_trans hxy (hy.1 b hb)

/-- Merging from the back lists, given backwards, that may all stand before the
sorted accumulator gives a sorted list. -/
theorem mergeBackward_sorted {xs ys acc : List α} (hxs : Sorted less xs.reverse)
    (hys : Sorted less ys.reverse) (hacc : Sorted less acc)
    (hle : ∀ a ∈ xs ++ ys, ∀ b ∈ acc, Before less a b) :
    Sorted less (mergeBackward less xs ys acc) := by
  fun_induction mergeBackward less xs ys acc with
  | case1 ys acc =>
    exact sorted_append.2 ⟨hys, hacc, fun a ha b hb => hle a (by simpa using ha) b hb⟩
  | case2 xs acc =>
    exact sorted_append.2 ⟨hxs, hacc, fun a ha b hb => hle a (by simpa using ha) b hb⟩
  | case3 x xs y ys acc hlt ih =>
    -- The last left element is the greatest of all that remain.
    rw [List.reverse_cons] at hxs hys
    have hax := before_last_of_sorted hxs
    have hay := before_last_of_sorted hys
    have hyx : Before less y x := hw.before_of_less hlt
    refine ih (sorted_append.1 hxs).1 (by rwa [List.reverse_cons]) ?_ ?_
    · exact sorted_cons.2 ⟨fun b hb => hle x (by simp) b hb, hacc⟩
    · intro a ha b hb
      rcases List.mem_cons.1 hb with rfl | hb
      · rcases List.mem_append.1 ha with ha | ha
        · exact hax a (List.mem_reverse.2 ha)
        · rcases List.mem_cons.1 ha with rfl | ha
          · exact hyx
          · exact hw.before_trans (hay a (List.mem_reverse.2 ha)) hyx
      · exact hle a (List.mem_cons_of_mem x ha) b hb
  | case4 x xs y ys acc hnlt ih =>
    rw [List.reverse_cons] at hxs hys
    have hax := before_last_of_sorted hxs
    have hay := before_last_of_sorted hys
    have hxy : Before less x y := Bool.eq_false_iff.2 hnlt
    refine ih (by rwa [List.reverse_cons]) (sorted_append.1 hys).1 ?_ ?_
    · exact sorted_cons.2 ⟨fun b hb => hle y (by simp) b hb, hacc⟩
    · intro a ha b hb
      rcases List.mem_cons.1 hb with rfl | hb
      · rcases List.mem_append.1 ha with ha | ha
        · rcases List.mem_cons.1 ha with rfl | ha
          · exact hxy
          · exact hw.before_trans (hax a (List.mem_reverse.2 ha)) hxy
        · exact hay a (List.mem_reverse.2 ha)
      · exact hle a (List.mem_append.2 ((List.mem_append.1 ha).imp id (List.mem_cons_of_mem y))) b hb

/-! ## Existing runs -/

omit hw in
/-- The elements that the count of a run covers follow each other as the run
goes: not descending, or strictly descending. -/
theorem existingRun_count_chain (descending : Bool) :
    ∀ (prev : α) (l : List α), existingRun.count less descending prev l ≤ l.length ∧
      (prev :: l.take (existingRun.count less descending prev l)).IsChain
        (fun a b => (less b a == descending) = true)
  | prev, [] => ⟨Nat.le_refl _, .singleton prev⟩
  | prev, x :: xs => by
    unfold existingRun.count
    split
    · rename_i hx
      obtain ⟨hle, hchain⟩ := existingRun_count_chain descending x xs
      exact ⟨by simp; omega, .cons_cons hx hchain⟩
    · exact ⟨Nat.zero_le _, .singleton prev⟩

theorem existingRun_sorted : ∀ xs : List α,
    (existingRun less xs).1 ≤ xs.length ∧
      Sorted less (if (existingRun less xs).2 then (xs.take (existingRun less xs).1).reverse
        else xs.take (existingRun less xs).1)
  | [] => by simp [existingRun]
  | [x] => by simpa [existingRun] using (show Sorted less [x] from sorted_of_length_le_one (by simp))
  | x0 :: x1 :: rest => by
    obtain ⟨hle, hchain⟩ := @existingRun_count_chain _ less (less x1 x0) x1 rest
    refine ⟨by simp [existingRun]; omega, ?_⟩
    have hrun : (x0 :: x1 :: rest).take (existingRun.count less (less x1 x0) x1 rest + 2) =
        x0 :: x1 :: rest.take (existingRun.count less (less x1 x0) x1 rest) := rfl
    have hfull : (x0 :: x1 :: rest.take (existingRun.count less (less x1 x0) x1 rest)).IsChain
        (fun a b => (less b a == less x1 x0) = true) := .cons_cons (by simp) hchain
    show Sorted less (if less x1 x0 = true
      then ((x0 :: x1 :: rest).take (existingRun.count less (less x1 x0) x1 rest + 2)).reverse
      else (x0 :: x1 :: rest).take (existingRun.count less (less x1 x0) x1 rest + 2))
    rw [hrun]
    by_cases hd : less x1 x0 = true
    · -- Strictly descending: backwards, each element is less than the next.
      have : Trans (fun a b => less b a = true) (fun a b => less b a = true)
          (fun a b => less b a = true) := ⟨fun h₁ h₂ => hw.trans h₂ h₁⟩
      rw [if_pos hd]
      have hpair := List.isChain_iff_pairwise.1 (hfull.imp fun _ _ h => by simpa [hd] using h)
      exact (List.pairwise_reverse.2 hpair).imp (hw.before_of_less ·)
    · -- Not descending: each element may stand before the next.
      have : Trans (Before less) (Before less) (Before less) := ⟨hw.before_trans⟩
      rw [if_neg hd]
      exact List.isChain_iff_pairwise.1 (hfull.imp fun _ _ h => by unfold Before; simpa [hd] using h)

/-! ## The network of four elements -/

theorem sort4_sorted [Inhabited α] (v : Array α) : Sorted less (sort4 less v) := by
  unfold sort4
  dsimp only
  -- The first two and the last two elements in order, then the least and the
  -- greatest of the four, then the two in between.
  set a := if less (get v 1) (get v 0) then get v 1 else get v 0
  set b := if less (get v 1) (get v 0) then get v 0 else get v 1
  set c := if less (get v 3) (get v 2) then get v 3 else get v 2
  set d := if less (get v 3) (get v 2) then get v 2 else get v 3
  have hab : Before less a b := hw.before_select _ _
  have hcd : Before less c d := hw.before_select _ _
  set least := if less c a then c else a
  set greatest := if less d b then b else d
  set uL := if less c a then a else if less d b then c else b with huL
  set uR := if less d b then d else if less c a then b else c with huR
  have hbound : ∀ e, e = a ∨ e = b ∨ e = c ∨ e = d →
      Before less least e ∧ Before less e greatest := by
    have hla := hw.select_before_left a c
    have hlc := hw.select_before_right a c
    have hbg := hw.before_select_left b d
    have hdg := hw.before_select_right b d
    rintro e (rfl | rfl | rfl | rfl)
    · exact ⟨hla, hw.before_trans hab hbg⟩
    · exact ⟨hw.before_trans hla hab, hbg⟩
    · exact ⟨hlc, hw.before_trans hcd hdg⟩
    · exact ⟨hw.before_trans hlc hcd, hdg⟩
  have hL : uL = a ∨ uL = b ∨ uL = c ∨ uL = d := by
    rw [huL]
    split_ifs <;> simp
  have hR : uR = a ∨ uR = b ∨ uR = c ∨ uR = d := by
    rw [huR]
    split_ifs <;> simp
  have hbL := hbound uL hL
  have hbR := hbound uR hR
  have hin₁ : Before less least (if less uR uL then uR else uL) ∧
      Before less (if less uR uL then uR else uL) greatest := by
    split_ifs <;> assumption
  have hin₂ : Before less least (if less uR uL then uL else uR) ∧
      Before less (if less uR uL then uL else uR) greatest := by
    split_ifs <;> assumption
  refine sorted_cons.2 ⟨?_, sorted_cons.2 ⟨?_, sorted_cons.2 ⟨?_, sorted_of_length_le_one (by simp)⟩⟩⟩
  · intro e he
    simp only [List.mem_cons, List.not_mem_nil, or_false] at he
    rcases he with rfl | rfl | rfl
    exacts [hin₁.1, hin₂.1, hw.before_trans hin₁.1 hin₁.2]
  · intro e he
    simp only [List.mem_cons, List.not_mem_nil, or_false] at he
    rcases he with rfl | rfl
    exacts [hw.before_select uL uR, hin₁.2]
  · intro e he
    simp only [List.mem_cons, List.not_mem_nil, or_false] at he
    rw [he]
    exact hin₂.2

end Pieces

/-! ## The merge from both ends -/

section Merge

variable [Inhabited α] {less : α → α → Bool}

/-- The elements at the positions `[lo, hi)` of `v` are in order. -/
def SortedOn (less : α → α → Bool) (v : Array α) (lo hi : Nat) : Prop :=
  ∀ i j, lo ≤ i → i ≤ j → j < hi → Before less (get v i) (get v j)

theorem getElem_slice {v : Array α} {lo len t : Nat} (h : t < (slice v lo len).length) :
    (slice v lo len)[t] = get v (lo + t) := by
  have ht : lo + t < v.toList.length := by
    simp only [slice_eq, List.length_take, List.length_drop, Array.length_toList] at h
    simp only [Array.length_toList]
    omega
  simp only [slice_eq, List.getElem_take, List.getElem_drop]
  exact (get_eq_getElem v ht).symm

theorem sortedOn_of_sorted (hw : StrictWeakOrder less) {v : Array α} {lo len : Nat}
    (hb : lo + len ≤ v.size) (h : Sorted less (slice v lo len)) : SortedOn less v lo (lo + len) := by
  intro i j hi hij hj
  have hlen : (slice v lo len).length = len := by
    simp only [slice_eq, List.length_take, List.length_drop, Array.length_toList]
    omega
  rcases Nat.lt_or_eq_of_le hij with hlt | rfl
  · have hpair := List.pairwise_iff_getElem.1 h (i - lo) (j - lo) (by omega) (by omega) (by omega)
    rwa [getElem_slice, getElem_slice, Nat.add_sub_cancel' hi, Nat.add_sub_cancel' (by omega)] at hpair
  · exact hw.before_refl _

namespace MergeState

/-- The positions the front has still to take after `s`. -/
def FrontRest (src : Array α) (s : MergeState α) (j : Nat) : Prop :=
  s.left ≤ j ∧ j < src.size / 2 ∨ s.right ≤ j ∧ j < src.size

/-- The positions the back has still to take after `s`. -/
def BackRest (src : Array α) (s : MergeState α) (j : Nat) : Prop :=
  j < s.leftEnd ∨ src.size / 2 ≤ j ∧ j < s.rightEnd

/-- The positions the back has taken after `s`. -/
def BackTaken (src : Array α) (s : MergeState α) (j : Nat) : Prop :=
  s.leftEnd ≤ j ∧ j < src.size / 2 ∨ s.rightEnd ≤ j ∧ j < src.size

/-- The invariant of the merge of two sorted halves after `k` steps: the front
written so far is sorted and may stand before all the front has still to take;
the back written so far is sorted, may stand after all the back has still to
take, and holds elements the back has taken. -/
structure Ordered (less : α → α → Bool) (src : Array α) (k : Nat) (s : MergeState α) : Prop where
  size : s.out.size = src.size
  front : Sorted less (s.out.toList.take k)
  front_before : ∀ a ∈ s.out.toList.take k, ∀ j, FrontRest src s j → Before less a (get src j)
  back : Sorted less (s.out.toList.drop (src.size - k))
  back_after : ∀ b ∈ s.out.toList.drop (src.size - k), ∀ j, BackRest src s j →
    Before less (get src j) b
  back_taken : ∀ b ∈ s.out.toList.drop (src.size - k), ∃ j, BackTaken src s j ∧ b = get src j

theorem ordered_start (less : α → α → Bool) (src : Array α) :
    Ordered less src 0 ⟨0, src.size / 2, src.size / 2, src.size, src⟩ where
  size := rfl
  front := by simp
  front_before := by simp
  back := by rw [List.drop_eq_nil_of_le (by simp)]; exact sorted_nil
  back_after := by rw [List.drop_eq_nil_of_le (by simp)]; simp
  back_taken := by rw [List.drop_eq_nil_of_le (by simp)]; simp

/-- The front of one step took the next element of the left half, which may
stand before the next of the right half, or the next of the right half, which
is less than the next of the left half. -/
def FrontPick (less : α → α → Bool) (src : Array α) (s s' : MergeState α) (x : α) : Prop :=
  (s'.left = s.left + 1 ∧ s'.right = s.right ∧ x = get src s.left ∧
    Before less (get src s.left) (get src s.right)) ∨
  (s'.left = s.left ∧ s'.right = s.right + 1 ∧ x = get src s.right ∧
    less (get src s.right) (get src s.left) = true)

/-- The back of one step took the last remaining element of the right half,
which the last of the left half may stand before, or the last of the left
half, which the last of the right half is less than. -/
def BackPick (less : α → α → Bool) (src : Array α) (s s' : MergeState α) (y : α) : Prop :=
  (s'.leftEnd = s.leftEnd ∧ s'.rightEnd = s.rightEnd - 1 ∧ y = get src (s.rightEnd - 1) ∧
    Before less (get src (s.leftEnd - 1)) (get src (s.rightEnd - 1))) ∨
  (s'.leftEnd = s.leftEnd - 1 ∧ s'.rightEnd = s.rightEnd ∧ y = get src (s.leftEnd - 1) ∧
    less (get src (s.rightEnd - 1)) (get src (s.leftEnd - 1)) = true)

/-- One step of the merge, with the comparisons that decided it. -/
theorem step_picks (less : α → α → Bool) (src : Array α) (s : MergeState α) (k : Nat) :
    ∃ x y, (s.step less src k).out = (s.out.set! k x).set! (src.size - 1 - k) y ∧
      FrontPick less src s (s.step less src k) x ∧ BackPick less src s (s.step less src k) y := by
  dsimp only [step]
  refine ⟨_, _, rfl, ?_, ?_⟩
  · unfold FrontPick Before
    cases h : less (get src s.right) (get src s.left) <;> simp
  · unfold BackPick Before
    cases h : less (get src (s.rightEnd - 1)) (get src (s.leftEnd - 1)) <;> simp

variable {src : Array α}

omit [Inhabited α] in
/-- One step writes its front element after the front written so far and its back
element before the back written so far. -/
theorem take_drop_set_set {out : Array α} {k : Nat} (hpq : k < out.size - 1 - k) (x y : α) :
    ((out.set! k x).set! (out.size - 1 - k) y).toList.take (k + 1) = out.toList.take k ++ [x] ∧
      ((out.set! k x).set! (out.size - 1 - k) y).toList.drop (out.size - (k + 1)) =
        y :: out.toList.drop (out.size - k) := by
  simp only [Array.set!_eq_setIfInBounds, Array.toList_setIfInBounds]
  have hq : out.size - 1 - k < out.toList.length := by
    rw [Array.length_toList]
    omega
  refine ⟨take_set_set hpq hq x y, ?_⟩
  rw [show out.size - (k + 1) = out.size - 1 - k by omega, drop_set_set hpq hq x y,
    show out.size - 1 - k + 1 = out.size - k by omega]

/-- The front of one step took a position it still had to take, with an element
that may stand before every position it has left, and it has no new position
left. -/
theorem FrontPick.spec (hw : StrictWeakOrder less) (hA : SortedOn less src 0 (src.size / 2))
    (hB : SortedOn less src (src.size / 2) src.size) {s s' : MergeState α} {x : α}
    (hhr : src.size / 2 ≤ s.right) (hleft : s.left < src.size / 2) (hright : s.right < src.size)
    (hf : FrontPick less src s s' x) :
    (∃ j, FrontRest src s j ∧ x = get src j) ∧
      (∀ j, FrontRest src s' j → Before less x (get src j)) ∧
      ∀ j, FrontRest src s' j → FrontRest src s j := by
  refine ⟨?_, ?_, ?_⟩
  · rcases hf with ⟨-, -, rfl, -⟩ | ⟨-, -, rfl, -⟩
    · exact ⟨s.left, .inl ⟨le_refl _, hleft⟩, rfl⟩
    · exact ⟨s.right, .inr ⟨le_refl _, hright⟩, rfl⟩
  · -- The element taken is the least of the next of each half.
    rcases hf with ⟨hl, hr, rfl, hlr⟩ | ⟨hl, hr, rfl, hlt⟩
    · rintro j (⟨hj, hj'⟩ | ⟨hj, hj'⟩)
      · exact hA _ _ (Nat.zero_le _) (by omega) hj'
      · exact hw.before_trans hlr (hB _ _ hhr (by omega) hj')
    · rintro j (⟨hj, hj'⟩ | ⟨hj, hj'⟩)
      · exact hw.before_trans (hw.before_of_less hlt) (hA _ _ (Nat.zero_le _) (by omega) hj')
      · exact hB _ _ hhr (by omega) hj'
  · unfold FrontRest
    rcases hf with ⟨hl, hr, -⟩ | ⟨hl, hr, -⟩ <;> intro j hj <;> omega

/-- The back of one step took a position it still had to take, with an element
that may stand after every position it has left; it has no new position left,
and keeps every position it had taken. -/
theorem BackPick.spec (hw : StrictWeakOrder less) (hA : SortedOn less src 0 (src.size / 2))
    (hB : SortedOn less src (src.size / 2) src.size) {s s' : MergeState α} {y : α}
    (hle : s.leftEnd ≤ src.size / 2) (hre : s.rightEnd ≤ src.size) (hlend : 0 < s.leftEnd)
    (hrend : src.size / 2 < s.rightEnd) (hb : BackPick less src s s' y) :
    (∃ j, BackRest src s j ∧ BackTaken src s' j ∧ y = get src j) ∧
      (∀ j, BackRest src s' j → Before less (get src j) y) ∧
      (∀ j, BackRest src s' j → BackRest src s j) ∧
      ∀ j, BackTaken src s j → BackTaken src s' j := by
  refine ⟨?_, ?_, ?_, ?_⟩
  · unfold BackRest BackTaken
    rcases hb with ⟨hl, hr, rfl, -⟩ | ⟨hl, hr, rfl, -⟩
    · exact ⟨s.rightEnd - 1, by omega, by omega, rfl⟩
    · exact ⟨s.leftEnd - 1, by omega, by omega, rfl⟩
  · -- The element taken is the greatest of the last of each half.
    rcases hb with ⟨hl, hr, rfl, hlr⟩ | ⟨hl, hr, rfl, hlt⟩
    · rintro j (hj | ⟨hj, hj'⟩)
      · exact hw.before_trans (hA _ _ (Nat.zero_le _) (by omega) (by omega)) hlr
      · exact hB _ _ hj (by omega) (by omega)
    · rintro j (hj | ⟨hj, hj'⟩)
      · exact hA _ _ (Nat.zero_le _) (by omega) (by omega)
      · exact hw.before_trans (hB _ _ hj (by omega) (by omega)) (hw.before_of_less hlt)
  · unfold BackRest
    rcases hb with ⟨hl, hr, -⟩ | ⟨hl, hr, -⟩ <;> intro j hj <;> omega
  · unfold BackTaken
    rcases hb with ⟨hl, hr, -⟩ | ⟨hl, hr, -⟩ <;> intro j hj <;> omega

/-- One step keeps the invariant while the halves are sorted and steps remain. -/
theorem Ordered.step (hw : StrictWeakOrder less) (hA : SortedOn less src 0 (src.size / 2))
    (hB : SortedOn less src (src.size / 2) src.size) {k : Nat} {s : MergeState α}
    (hp : Progress src k s) (hk : k < src.size / 2) (h : Ordered less src k s) :
    Ordered less src (k + 1) (s.step less src k) := by
  obtain ⟨x, y, hout, hf, hb⟩ := step_picks less src s k
  have hfront := hp.front_count
  have hback := hp.back_count
  have hle := hp.leftEnd_le
  have hre := hp.rightEnd_le
  have hhr := hp.half_le_right
  -- Before the step, every pointer still points into its half.
  obtain ⟨⟨jx, hjx, rfl⟩, hxbefore, hfrontRest⟩ := hf.spec hw hA hB hhr (by omega) (by omega)
  obtain ⟨⟨jy, hjy, hjy', rfl⟩, hyafter, hbackRest, hbackTaken⟩ :=
    hb.spec hw hA hB hle hre (by omega) (by omega)
  obtain ⟨htake, hdrop⟩ :=
    take_drop_set_set (show k < s.out.size - 1 - k by rw [h.size]; omega) (get src jx) (get src jy)
  rw [h.size, ← hout] at htake hdrop
  refine ⟨by simp [hout, h.size], ?_, ?_, ?_, ?_, ?_⟩
  · rw [htake]
    exact sorted_append.2 ⟨h.front, List.pairwise_singleton _ _, fun a ha b hb => by
      rw [List.mem_singleton.1 hb]
      exact h.front_before a ha jx hjx⟩
  · rw [htake]
    intro a ha j hj
    rcases List.mem_append.1 ha with ha | ha
    · exact h.front_before a ha j (hfrontRest j hj)
    · rw [List.mem_singleton.1 ha]
      exact hxbefore j hj
  · rw [hdrop]
    exact sorted_cons.2 ⟨fun b hb => h.back_after b hb jy hjy, h.back⟩
  · rw [hdrop]
    intro b hb j hj
    rcases List.mem_cons.1 hb with rfl | hb
    · exact hyafter j hj
    · exact h.back_after b hb j (hbackRest j hj)
  · rw [hdrop]
    intro b hb
    rcases List.mem_cons.1 hb with rfl | hb
    · exact ⟨jy, hjy', rfl⟩
    · obtain ⟨j, hj, rfl⟩ := h.back_taken b hb
      exact ⟨j, hbackTaken j hj, rfl⟩

theorem ordered_run (hw : StrictWeakOrder less) (hA : SortedOn less src 0 (src.size / 2))
    (hB : SortedOn less src (src.size / 2) src.size) :
    ∀ n, n ≤ src.size / 2 → Ordered less src n ((List.range n).foldl (step less src)
      ⟨0, src.size / 2, src.size / 2, src.size, src⟩)
  | 0, _ => ordered_start less src
  | n + 1, hn => by
    rw [List.range_succ, List.foldl_append, List.foldl_cons, List.foldl_nil]
    exact (ordered_run hw hA hB n (by omega)).step hw hA hB (progress_run src less n) (by omega)

/-- When the back took exactly what the front left, the front, a middle element
that both sides still had, and the back are in order. -/
theorem Ordered.sorted_meet {k : Nat} {s : MergeState α}
    (h : Ordered less src k s) (hmeet : ∀ j, BackTaken src s j → FrontRest src s j)
    {mid : List α} (hmid : ∀ m ∈ mid, ∃ j, FrontRest src s j ∧ BackRest src s j ∧ m = get src j)
    (hmid₁ : mid.length ≤ 1) :
    Sorted less (s.out.toList.take k ++ mid ++ s.out.toList.drop (src.size - k)) := by
  refine sorted_append.2 ⟨sorted_append.2 ⟨h.front, sorted_of_length_le_one hmid₁, ?_⟩, h.back, ?_⟩
  · intro a ha m hm
    obtain ⟨j, hj, -, rfl⟩ := hmid m hm
    exact h.front_before a ha j hj
  · intro a ha b hb
    rcases List.mem_append.1 ha with ha | ha
    · obtain ⟨j, hj, rfl⟩ := h.back_taken b hb
      exact h.front_before a ha j (hmeet j hj)
    · obtain ⟨j, -, hj, rfl⟩ := hmid a ha
      exact h.back_after b hb j hj

end MergeState

/-- **The merge from both ends of two sorted halves is sorted** whenever its
final check passes. -/
theorem bidirectionalMerge_sorted (hw : StrictWeakOrder less) {src out : Array α}
    (hA : Sorted less (slice src 0 (src.size / 2)))
    (hB : Sorted less (slice src (src.size / 2) (src.size - src.size / 2)))
    (h : bidirectionalMerge less src = some out) : Sorted less out.toList := by
  have hA' : SortedOn less src 0 (src.size / 2) := by
    simpa using sortedOn_of_sorted hw (by omega) hA
  have hB' : SortedOn less src (src.size / 2) src.size := by
    have hs := sortedOn_of_sorted hw (show src.size / 2 + (src.size - src.size / 2) ≤ src.size by omega) hB
    rwa [Nat.add_sub_cancel' (Nat.div_le_self _ _)] at hs
  have hord := MergeState.ordered_run hw hA' hB' (src.size / 2) le_rfl
  have hrun := MergeState.progress_run src less (src.size / 2)
  unfold bidirectionalMerge at h
  dsimp only at h
  generalize (List.range (src.size / 2)).foldl (MergeState.step less src)
    ⟨0, src.size / 2, src.size / 2, src.size, src⟩ = s at hord hrun h
  have hfront := hrun.front_count
  have hle := hrun.leftEnd_le
  have hhr := hrun.half_le_right
  have hsize : s.out.toList.length = src.size := by simp [hord.size]
  by_cases hodd : src.size % 2 = 0
  · -- An even number of elements: the two sides meet in the middle.
    simp [hodd] at h
    obtain ⟨⟨hl, hr⟩, rfl⟩ := h
    have hmeet : ∀ j, MergeState.BackTaken src s j → MergeState.FrontRest src s j := by
      unfold MergeState.BackTaken MergeState.FrontRest
      omega
    have hs := hord.sorted_meet hmeet (List.forall_mem_nil _) (by simp)
    rwa [List.append_nil, show src.size - src.size / 2 = src.size / 2 by omega,
      List.take_append_drop] at hs
  · -- An odd number: the middle element is one that both sides still had.
    have hne : (src.size % 2 != 0) = true := by simpa using hodd
    simp only [hne, if_true] at h
    unfold MergeState.middle at h
    have hmid : ∀ m j, m = get src j → (s.left ≤ j ∧ j < src.size / 2 ∨ s.right ≤ j ∧ j < src.size) →
        (j < s.leftEnd ∨ src.size / 2 ≤ j ∧ j < s.rightEnd) →
        (∀ j, s.leftEnd ≤ j ∧ j < src.size / 2 ∨ s.rightEnd ≤ j ∧ j < src.size →
          s.left ≤ j ∧ j < src.size / 2 ∨ s.right ≤ j ∧ j < src.size) →
        Sorted less (s.out.set! (src.size / 2) m).toList := by
      intro m j hm hf hb hmeet
      have hs := hord.sorted_meet hmeet
        (fun m' (hm' : m' ∈ [m]) => ⟨j, hf, hb, (List.mem_singleton.1 hm').trans hm⟩) (by simp)
      rw [show src.size - src.size / 2 = src.size / 2 + 1 by omega, List.append_assoc,
        List.singleton_append] at hs
      rwa [Array.set!_eq_setIfInBounds, Array.toList_setIfInBounds, List.set_eq_take_append_cons_drop,
        if_pos (by omega)]
    split at h
    · rename_i hlt
      simp at h
      obtain ⟨⟨hl, hr⟩, rfl⟩ := h
      exact hmid _ s.left rfl (by omega) (by omega) (fun j hj => by omega)
    · rename_i hge
      simp at h
      obtain ⟨⟨hl, hr⟩, rfl⟩ := h
      exact hmid _ s.right rfl (by omega) (by omega) (fun j hj => by omega)

/-- The merge from both ends of two sorted lists, the first holding half of the
elements, is sorted. -/
theorem bidirectionalMerge_append_sorted (hw : StrictWeakOrder less) {xs ys : List α} {out : Array α}
    (hlen : xs.length = (xs.length + ys.length) / 2) (hx : Sorted less xs) (hy : Sorted less ys)
    (h : bidirectionalMerge less (xs ++ ys).toArray = some out) : Sorted less out.toList := by
  have hsize : (xs ++ ys).toArray.size = xs.length + ys.length := by simp
  refine bidirectionalMerge_sorted hw ?_ ?_ h
  · rw [hsize, ← hlen, slice_eq, List.toList_toArray, List.drop_zero, List.take_left' rfl]
    exact hx
  · rw [hsize, ← hlen, slice_eq, List.toList_toArray, List.drop_left' rfl,
      show xs.length + ys.length - xs.length = ys.length by omega, List.take_length]
    exact hy

theorem sort8_sorted (hw : StrictWeakOrder less) {v : Array α} {out : List α}
    (h : sort8 less v = some out) : Sorted less out := by
  unfold sort8 at h
  obtain ⟨w, hm, rfl⟩ := Option.map_eq_some_iff.1 h
  exact bidirectionalMerge_append_sorted hw (by simp [sort4]) (sort4_sorted hw _) (sort4_sorted hw _) hm

theorem smallSort_sorted {cfg : Config α} (hw : StrictWeakOrder cfg.less) {v w : Array α}
    (h2 : 2 ≤ v.size) (h : smallSort cfg v = some w) : Sorted cfg.less w.toList := by
  -- Whatever the presorted length, both halves end up sorted, and the first
  -- holds half of the elements.
  have hmerge : ∀ (first second : List α) (p : Nat), Sorted cfg.less first →
      Sorted cfg.less second → first.length = p → second.length = p → p ≤ v.size / 2 →
      bidirectionalMerge cfg.less (insertAll cfg.less first (v.extract p (v.size / 2)).toList ++
        insertAll cfg.less second (v.extract (v.size / 2 + p) v.size).toList).toArray = some w →
      Sorted cfg.less w.toList := by
    intro first second p hf hs hfl hsl hp hm
    refine bidirectionalMerge_append_sorted hw ?_ (insertAll_sorted hw hf _)
      (insertAll_sorted hw hs _) hm
    rw [(insertAll_perm _ _ _).length_eq, (insertAll_perm _ _ _).length_eq]
    simp only [List.length_append, Array.length_toList, Array.size_extract, hfl, hsl]
    omega
  unfold smallSort at h
  simp only [] at h
  split_ifs at h with hbig hmid
  · obtain ⟨first, hfirst, h⟩ := Option.bind_eq_some_iff.1 h
    obtain ⟨second, hsecond, h⟩ := Option.bind_eq_some_iff.1 h
    simp only [pure, Option.bind_eq_bind, Option.bind_some] at h
    have h16 : 16 ≤ v.size := by
      simp only [Bool.and_eq_true, decide_eq_true_eq] at hbig
      exact hbig.2
    have hfl := (sort8_perm cfg.less (by simp; omega) hfirst).length_eq
    have hsl := (sort8_perm cfg.less (by simp; omega) hsecond).length_eq
    simp only [Array.length_toList, Array.size_extract] at hfl hsl
    exact hmerge first second 8 (sort8_sorted hw hfirst) (sort8_sorted hw hsecond) (by omega)
      (by omega) (by omega) h
  · simp only [pure, Option.bind_eq_bind, Option.bind_some] at h
    exact hmerge _ _ 4 (sort4_sorted hw _) (sort4_sorted hw _) (by simp [sort4]) (by simp [sort4])
      (by omega) h
  · simp only [pure, Option.bind_eq_bind, Option.bind_some] at h
    exact hmerge _ _ 1 (List.pairwise_singleton _ _) (List.pairwise_singleton _ _) rfl rfl
      (by omega) h

end Merge

end StableSort

end SparqlBag
