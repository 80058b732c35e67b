import Mathlib.Data.List.Induction
import Mathlib.Data.List.Nodup
import SparqlBag.Store.Content

/-!
# Slot indexes

An index maps a key to the slots of the stored quads that hold it.  The content
relies on three facts about such a list: it is sorted, so binary search finds a
slot (`binarySearch_of_getElem?`); it holds exactly the live slots of its key; and
it is never empty.  `IndexExact` states the last two as one equation per key.
Storing a quad in a new slot and emptying a slot keep an index exact
(`IndexExact.pushSlot`, `IndexExact.removeSlot`).  The four indexes are one
definition over four key functions, so every lemma is stated once for any key.
-/

namespace SparqlBag

/-! ## Binary search -/

section BinarySearch

variable {xs : List Nat} {x : Nat}

/-- In a strictly increasing list, positions compare as their elements do. -/
theorem lt_of_getElem?_lt (hs : xs.Pairwise (· < ·)) {i j a b : Nat} (hi : xs[i]? = some a)
    (hj : xs[j]? = some b) (hab : a < b) : i < j := by
  obtain ⟨hi', rfl⟩ := List.getElem?_eq_some_iff.1 hi
  obtain ⟨hj', rfl⟩ := List.getElem?_eq_some_iff.1 hj
  rcases Nat.lt_trichotomy i j with h | rfl | h
  · exact h
  · exact absurd hab (Nat.lt_irrefl _)
  · exact absurd (List.pairwise_iff_getElem.1 hs j i hj' hi' h) (Nat.lt_asymm hab)

/-- The halving loop keeps the position of `x` inside its window, so it ends on it. -/
theorem binarySearchBase_eq (hs : xs.Pairwise (· < ·)) {j : Nat} (hj : xs[j]? = some x) :
    ∀ base size, base ≤ j → j < base + size → base + size ≤ xs.length →
      binarySearchBase xs x base size = j := by
  intro base size
  fun_induction binarySearchBase xs x base size with
  | case1 base size hsize =>
    intro hlo hhi _
    omega
  | case2 base size hsize half ih =>
    intro hlo hhi hlen
    have hmid : base + half < xs.length := by omega
    have hprobe : xs[base + half]? = some (xs.getD (base + half) 0) := by
      simp [List.getD_eq_getElem?_getD, List.getElem?_eq_getElem hmid]
    by_cases hlt : x < xs.getD (base + half) 0
    · -- `x` lies below the probe, so its position does too.
      have hj_lt : j < base + half := lt_of_getElem?_lt hs hj hprobe hlt
      rw [dif_pos hlt] at ih
      rw [if_pos hlt]
      exact ih hlo (by omega) (by omega)
    · -- The probe is not above `x`, so the position of `x` is not below it.
      have hmid_le : base + half ≤ j := by
        rcases Nat.lt_or_ge j (base + half) with h | h
        · have hle : xs.getD (base + half) 0 ≤ x := Nat.le_of_not_lt hlt
          obtain ⟨hj', rfl⟩ := List.getElem?_eq_some_iff.1 hj
          have := List.pairwise_iff_getElem.1 hs j (base + half) hj' hmid h
          simp [List.getD_eq_getElem?_getD, List.getElem?_eq_getElem hmid] at hle
          omega
        · exact h
      rw [dif_neg hlt] at ih
      rw [if_neg hlt]
      exact ih hmid_le (by omega) (by omega)

/-- **On a strictly increasing list, binary search finds every element at its
position.** -/
theorem binarySearch_of_getElem? (hs : xs.Pairwise (· < ·)) {j : Nat} (hj : xs[j]? = some x) :
    binarySearch xs x = .ok j := by
  have hlen : j < xs.length := (List.getElem?_eq_some_iff.1 hj).1
  have hbase : binarySearchBase xs x 0 xs.length = j :=
    binarySearchBase_eq hs hj 0 xs.length (Nat.zero_le _) (by omega) (by omega)
  have hne : xs.isEmpty = false := by
    cases xs with
    | nil => simp at hlen
    | cons _ _ => rfl
  simp [binarySearch, hne, hbase, hj]

end BinarySearch

/-! ## Exact indexes -/

section Index

variable {κ : Type} [DecidableEq κ] {key : Quad → κ} {slots : List (Option Quad)}

/-- The slots, in increasing order, of the stored quads whose `key` is `k`. -/
def slotsWith (slots : List (Option Quad)) (key : Quad → κ) (k : κ) : List Nat :=
  (List.range slots.length).filter fun i => (slots[i]?.join).any (key · == k)

theorem mem_slotsWith {k : κ} {i : Nat} :
    i ∈ slotsWith slots key k ↔ ∃ q, slots[i]? = some (some q) ∧ key q = k := by
  simp only [slotsWith, List.mem_filter, List.mem_range]
  constructor
  · rintro ⟨hi, hany⟩
    rw [List.getElem?_eq_getElem hi] at hany ⊢
    cases hs : slots[i] with
    | none => simp [hs] at hany
    | some q => exact ⟨q, rfl, by simpa [hs] using hany⟩
  · rintro ⟨q, hq, rfl⟩
    exact ⟨(List.getElem?_eq_some_iff.1 hq).1, by simp [hq]⟩

theorem slotsWith_pairwise (k : κ) : (slotsWith slots key k).Pairwise (· < ·) :=
  List.pairwise_lt_range.filter _

theorem slotsWith_nil (k : κ) : slotsWith [] key k = [] := rfl

/-- A slot added at the end holds a quad with key `k` or not. -/
theorem slotsWith_append (x : Option Quad) (k : κ) :
    slotsWith (slots ++ [x]) key k =
      slotsWith slots key k ++ if x.any (key · == k) then [slots.length] else [] := by
  simp only [slotsWith, List.length_append, List.length_singleton, List.range_succ,
    List.filter_append]
  congr 1
  · refine List.filter_congr fun i hi => ?_
    rw [List.getElem?_append_left (List.mem_range.1 hi)]
  · by_cases hx : x.any (key · == k) <;> simp [hx]

/-- Emptying slot `i` drops it from every key. -/
theorem slotsWith_set_none {i : Nat} (k : κ) :
    slotsWith (slots.set i none) key k = (slotsWith slots key k).filter (· != i) := by
  simp only [slotsWith, List.length_set, List.filter_filter]
  refine List.filter_congr fun j _ => ?_
  rw [List.getElem?_set]
  by_cases hij : i = j
  · subst hij
    by_cases hlt : i < slots.length <;> simp [hlt]
  · simp [hij, Ne.symm hij]

/-- Scanning the slots of `k` finds the stored quads with key `k`, in slot order. -/
theorem filterMap_slotsWith (k : κ) :
    (slotsWith slots key k).filterMap (fun i => slots[i]?.join) =
      (slots.filterMap id).filter (key · == k) := by
  induction slots using List.reverseRecOn with
  | nil => rfl
  | append_singleton init x ih =>
    rw [slotsWith_append, List.filterMap_append, List.filterMap_append, List.filter_append]
    have hinit : (slotsWith init key k).filterMap (fun i => (init ++ [x])[i]?.join) =
        (slotsWith init key k).filterMap (fun i => init[i]?.join) := by
      refine List.filterMap_congr fun i hi => ?_
      obtain ⟨q, hq, _⟩ := mem_slotsWith.1 hi
      rw [List.getElem?_append_left (List.getElem?_eq_some_iff.1 hq).1]
    rw [hinit, ih]
    congr 1
    cases x with
    | none => simp
    | some q => by_cases hk : key q = k <;> simp [hk]

/-- Binary search finds the slot of a stored quad in the list of its key. -/
theorem binarySearch_slotsWith {i : Nat} {q : Quad}
    (hq : slots[i]? = some (some q)) :
    binarySearch (slotsWith slots key (key q)) i =
      .ok ((slotsWith slots key (key q)).idxOf i) := by
  have hmem : i ∈ slotsWith slots key (key q) := mem_slotsWith.2 ⟨q, hq, rfl⟩
  refine binarySearch_of_getElem? (slotsWith_pairwise _) ?_
  rw [List.getElem?_eq_getElem (List.idxOf_lt_length_of_mem hmem), List.getElem_idxOf]

variable [Hashable κ] {index : QuadIndex κ}

/-- The index holds, for every key, exactly the slots of the stored quads with
that key, and does not hold a key without any. -/
def IndexExact (index : QuadIndex κ) (slots : List (Option Quad)) (key : Quad → κ) : Prop :=
  ∀ k, index[k]? = if slotsWith slots key k = [] then none else some (slotsWith slots key k)

theorem IndexExact.empty : IndexExact ({} : QuadIndex κ) [] key := by
  intro k
  simp [slotsWith_nil]

theorem IndexExact.lookup_eq (h : IndexExact index slots key) (k : κ) :
    index.lookup k = slotsWith slots key k := by
  rw [QuadIndex.lookup, Std.HashMap.getD_eq_getD_getElem?, h k]
  split <;> simp [*]

/-- Every list an exact index holds is strictly increasing and not empty. -/
theorem IndexExact.pairwise_ne_nil (h : IndexExact index slots key) {k : κ} {l : List Nat}
    (hl : index[k]? = some l) : l.Pairwise (· < ·) ∧ l ≠ [] := by
  rw [h k] at hl
  split at hl
  · cases hl
  · cases hl
    exact ⟨slotsWith_pairwise k, ‹_›⟩

/-- What the content asks of one index: every list it holds is strictly
increasing and not empty, and the list of a key (empty when the key is not
indexed) holds exactly the slots of the stored quads with that key. -/
structure IndexSound (index : QuadIndex κ) (slots : List (Option Quad)) (key : Quad → κ) :
    Prop where
  increasing : ∀ (k : κ) (l : List Nat), index[k]? = some l → l.Pairwise (· < ·)
  nonempty : ∀ (k : κ) (l : List Nat), index[k]? = some l → l ≠ []
  exact : ∀ (k : κ) (i : Nat), i ∈ index.lookup k ↔ ∃ q, slots[i]? = some (some q) ∧ key q = k

theorem IndexExact.sound (h : IndexExact index slots key) : IndexSound index slots key where
  increasing _ _ hl := (h.pairwise_ne_nil hl).1
  nonempty _ _ hl := (h.pairwise_ne_nil hl).2
  exact k i := by rw [h.lookup_eq]; exact mem_slotsWith

/-- An exact index holds the slot of a stored quad under its key. -/
theorem IndexExact.getElem?_key (h : IndexExact index slots key) {i : Nat} {q : Quad}
    (hq : slots[i]? = some (some q)) : index[key q]? = some (slotsWith slots key (key q)) := by
  have hmem : i ∈ slotsWith slots key (key q) := mem_slotsWith.2 ⟨q, hq, rfl⟩
  rw [h (key q), if_neg (List.ne_nil_of_mem hmem)]

theorem IndexExact.containsSlot (h : IndexExact index slots key) {i : Nat} {q : Quad}
    (hq : slots[i]? = some (some q)) : index.containsSlot (key q) i = true := by
  simp [QuadIndex.containsSlot, h.getElem?_key hq, binarySearch_slotsWith hq, Except.toBool]

/-- **Storing a quad in a new last slot keeps an index exact.** -/
theorem IndexExact.pushSlot (h : IndexExact index slots key) (q : Quad) :
    IndexExact (index.pushSlot (key q) slots.length) (slots ++ [some q]) key := by
  intro k
  rw [QuadIndex.pushSlot, Std.HashMap.getElem?_insert, slotsWith_append]
  by_cases hk : key q = k
  · subst hk
    have hget : index.getD (key q) [] = slotsWith slots key (key q) := h.lookup_eq (key q)
    simp [hget]
  · simp [hk, h k]

/-- **Emptying the slot of a stored quad keeps an index exact.**  Binary search
finds the slot because the list is sorted, and the list of the quad's key loses
exactly that slot. -/
theorem IndexExact.removeSlot (h : IndexExact index slots key) {i : Nat} {q : Quad}
    (hq : slots[i]? = some (some q)) :
    IndexExact (index.removeSlot (key q) i) (slots.set i none) key := by
  set l := slotsWith slots key (key q) with hl
  have hrem : index.removeSlot (key q) i =
      if (l.filter (· != i)).isEmpty then index.erase (key q)
      else index.insert (key q) (l.filter (· != i)) := by
    have herase : l.eraseIdx (l.idxOf i) = l.filter (· != i) := by
      rw [← List.erase_eq_eraseIdx_of_idxOf rfl, (slotsWith_pairwise _).nodup.erase_eq_filter]
    simp only [QuadIndex.removeSlot, h.getElem?_key hq, binarySearch_slotsWith hq]
    rw [herase]
  intro k
  rw [slotsWith_set_none, hrem]
  by_cases hk : key q = k
  · subst hk
    by_cases hnil : l.filter (· != i) = [] <;> simp [hnil, ← hl]
  · -- Another key never held slot `i`, so neither its list nor its entry changes.
    have hkeep : (slotsWith slots key k).filter (· != i) = slotsWith slots key k := by
      refine List.filter_eq_self.2 fun j hj => ?_
      obtain ⟨q', hq', hk'⟩ := mem_slotsWith.1 hj
      have hji : j ≠ i := fun hji => hk (by rw [hji, hq] at hq'; cases hq'; exact hk')
      simpa using hji
    rw [hkeep, ← h k]
    split <;> simp [Std.HashMap.getElem?_erase, Std.HashMap.getElem?_insert, hk]

end Index

end SparqlBag
