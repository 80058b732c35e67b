import Mathlib.Data.List.Induction
import Mathlib.Data.List.Nodup
import Mathlib.Data.List.Perm.Basic
import SparqlBag.Solution.Group

/-!
# Bucketing solutions by their class under one key

A key of `GROUP BY` gives every solution a class: its bound term, an error, or
unbound.  One key splits a list of solutions into buckets, one per bound term in
the order first met, then the errors, then the unbound, each keeping the order of
its solutions.  Read through the classes that occur (`classesIn`), the key's
bucketing by `addToBucket` is one group per class (`GroupKey.groupsOf_eq`); the
classes occur once each in increasing `classRank` (`classesIn_sorted`), and
buckets by distinct classes partition the solutions (`perm_flatMap_filter`).
-/

namespace SparqlBag

/-- Puts a solution, paired with its class, into its bucket: that of its bound
term, or the errors, or the unbound. -/
def bucketStep (acc : List (Term × List Nat) × List Nat × List Nat) (p : Nat × ExprValue) :
    List (Term × List Nat) × List Nat × List Nat :=
  match p.2 with
  | .bound t => (addToBucket t p.1 acc.1, acc.2)
  | .error => (acc.1, acc.2.1 ++ [p.1], acc.2.2)
  | .unbound => (acc.1, acc.2.1, acc.2.2 ++ [p.1])

/-- The distinct bound terms of the solutions `L`, in the order they are first met. -/
def firstTerms (c : Nat → ExprValue) (L : List Nat) : List Term :=
  L.foldl (fun ts id => match c id with
    | .bound t => pushNew ts t
    | _ => ts) []

/-- The classes that occur among the solutions `L`: the bound terms in the order
they are first met, then the error class, then the unbound class. -/
def classesIn (c : Nat → ExprValue) (L : List Nat) : List ExprValue :=
  (firstTerms c L).map .bound ++ (if L.any (c · == .error) then [.error] else []) ++
    (if L.any (c · == .unbound) then [.unbound] else [])

/-- The rank of a class among the solutions `L`: a bound term ranks by the place
where it first occurs, after all of them come the errors, then the unbound. -/
def classRank (c : Nat → ExprValue) (L : List Nat) : ExprValue → Nat
  | .bound t => L.findIdx (c · == .bound t)
  | .error => L.length
  | .unbound => L.length + 1

namespace GroupKey

/-- The groups of a key over solutions paired with their classes, bucketed one
solution after another. -/
def groupsOf (k : GroupKey) (pairs : List (Nat × ExprValue)) : List BindingGroup :=
  let (keyed, errors, nulls) := pairs.foldl bucketStep ([], [], [])
  keyed.map (fun (t, xs) => k.group xs (some t)) ++
    (if errors.isEmpty then [] else [k.group errors none]) ++
    (if nulls.isEmpty then [] else [k.group nulls none])

end GroupKey

/-! ## Buckets of bound terms -/

section Buckets

variable {κ : Type} [DecidableEq κ]

theorem pushNew_of_mem {ks : List κ} {k : κ} (h : k ∈ ks) : pushNew ks k = ks := by
  simp [pushNew, h]

theorem pushNew_of_not_mem {ks : List κ} {k : κ} (h : k ∉ ks) : pushNew ks k = ks ++ [k] := by
  simp [pushNew, h]

theorem mem_pushNew {ks : List κ} {k k' : κ} : k' ∈ pushNew ks k ↔ k' ∈ ks ∨ k' = k := by
  by_cases h : k ∈ ks
  · rw [pushNew_of_mem h]
    constructor
    · exact .inl
    · rintro (h' | rfl)
      · exact h'
      · exact h
  · simp [pushNew_of_not_mem h]

theorem nodup_pushNew {ks : List κ} (hnd : ks.Nodup) (k : κ) : (pushNew ks k).Nodup := by
  by_cases h : k ∈ ks
  · rwa [pushNew_of_mem h]
  · rw [pushNew_of_not_mem h]
    exact hnd.append (List.nodup_singleton k) (by simpa using h)

/-- Adding to the bucket of `k` over buckets listed by distinct keys: a known
key's bucket grows, a new key opens an empty bucket grown by the one element. -/
theorem addToBucket_map (k : κ) (x : Nat) (G : κ → List Nat) :
    ∀ {ks : List κ}, ks.Nodup → (k ∉ ks → G k = []) →
      addToBucket k x (ks.map fun k' => (k', G k')) =
        (pushNew ks k).map fun k' => (k', if k' = k then G k' ++ [x] else G k')
  | [], _, hnew => by simp [addToBucket, pushNew, hnew List.not_mem_nil]
  | k' :: ks, hnd, hnew => by
    obtain ⟨hk', hks⟩ := List.nodup_cons.1 hnd
    by_cases h : k' = k
    · subst h
      rw [pushNew_of_mem List.mem_cons_self]
      simp only [List.map_cons, addToBucket, beq_self_eq_true, if_true]
      congr 1
      refine List.map_congr_left fun k'' hk'' => ?_
      rw [if_neg (by rintro rfl; exact hk' hk'')]
    · have hnot : k ∉ ks → G k = [] := fun hk => hnew (by simp [hk, Ne.symm h])
      have hpush : pushNew (k' :: ks) k = k' :: pushNew ks k := by
        by_cases hk : k ∈ ks
        · rw [pushNew_of_mem (List.mem_cons_of_mem _ hk), pushNew_of_mem hk]
        · rw [pushNew_of_not_mem (by simp [hk, Ne.symm h]), pushNew_of_not_mem hk]
          rfl
      rw [hpush, List.map_cons, List.map_cons, addToBucket, if_neg (by simpa using h),
        addToBucket_map k x G hks hnot, if_neg h]

end Buckets

/-! ## The first terms and the classes that occur -/

section Classes

variable (c : Nat → ExprValue)

theorem firstTerms_append_singleton (L : List Nat) (x : Nat) :
    firstTerms c (L ++ [x]) = match c x with
      | .bound t => pushNew (firstTerms c L) t
      | _ => firstTerms c L := by
  simp only [firstTerms, List.foldl_append, List.foldl_cons, List.foldl_nil]

theorem nodup_firstTerms (L : List Nat) : (firstTerms c L).Nodup := by
  induction L using List.reverseRecOn with
  | nil => exact List.nodup_nil
  | append_singleton L x ih =>
    rw [firstTerms_append_singleton]
    split
    · exact nodup_pushNew ih _
    · exact ih

theorem mem_firstTerms {L : List Nat} {t : Term} :
    t ∈ firstTerms c L ↔ ∃ id ∈ L, c id = .bound t := by
  induction L using List.reverseRecOn with
  | nil => simp [firstTerms]
  | append_singleton L x ih =>
    rw [firstTerms_append_singleton]
    split
    · next u hu => simp [mem_pushNew, ih, hu, or_comm, eq_comm]
    · next hb =>
      simp only [ih, List.mem_append, List.mem_singleton]
      constructor
      · rintro ⟨id, hid, h⟩
        exact ⟨id, .inl hid, h⟩
      · rintro ⟨id, hid | rfl, h⟩
        · exact ⟨id, hid, h⟩
        · exact absurd h (hb t)

/-- A bound term first met later ranks later. -/
theorem firstTerms_sorted (L : List Nat) :
    (firstTerms c L).Pairwise fun t u =>
      L.findIdx (c · == .bound t) < L.findIdx (c · == .bound u) := by
  induction L using List.reverseRecOn with
  | nil => exact List.Pairwise.nil
  | append_singleton L x ih =>
    -- A term of `L` keeps the place of its first occurrence in `L ++ [x]`.
    have hkeep : ∀ t ∈ firstTerms c L,
        (L ++ [x]).findIdx (c · == .bound t) = L.findIdx (c · == .bound t) := by
      intro t ht
      obtain ⟨id, hid, hc⟩ := (mem_firstTerms c).1 ht
      have hlt : L.findIdx (c · == .bound t) < L.length :=
        List.findIdx_lt_length_of_exists ⟨id, hid, by simp [hc]⟩
      rw [List.findIdx_append, if_pos hlt]
    have hold : (firstTerms c L).Pairwise fun t u =>
        (L ++ [x]).findIdx (c · == .bound t) < (L ++ [x]).findIdx (c · == .bound u) :=
      List.Pairwise.imp_of_mem (fun ht hu h => by rwa [hkeep _ ht, hkeep _ hu]) ih
    rw [firstTerms_append_singleton]
    split
    · next u hu =>
      by_cases hmem : u ∈ firstTerms c L
      · rwa [pushNew_of_mem hmem]
      · -- A new term first occurs at the end, after every earlier term.
        rw [pushNew_of_not_mem hmem]
        refine List.pairwise_append.2 ⟨hold, List.pairwise_singleton _ _, fun t ht u' hu' => ?_⟩
        rw [List.mem_singleton.1 hu', hkeep t ht]
        have hnot : ¬ L.findIdx (c · == .bound u) < L.length := by
          intro hlt
          obtain ⟨id, hid, hc⟩ := List.findIdx_lt_length.1 hlt
          exact hmem ((mem_firstTerms c).2 ⟨id, hid, by simpa using hc⟩)
        obtain ⟨id, hid, hc⟩ := (mem_firstTerms c).1 ht
        have hlt : L.findIdx (c · == .bound t) < L.length :=
          List.findIdx_lt_length_of_exists ⟨id, hid, by simp [hc]⟩
        rw [List.findIdx_append, if_neg hnot]
        omega
    · exact hold

theorem mem_classesIn {L : List Nat} {cl : ExprValue} :
    cl ∈ classesIn c L ↔ ∃ id ∈ L, c id = cl := by
  cases cl with
  | bound t => simp [classesIn, mem_firstTerms]
  | error => simp [classesIn, List.any_eq_true]
  | unbound => simp [classesIn, List.any_eq_true]

theorem nodup_classesIn (L : List Nat) : (classesIn c L).Nodup := by
  refine List.Nodup.append (List.Nodup.append ?_ ?_ ?_) ?_ ?_
  · exact (nodup_firstTerms c L).map fun _ _ h => ExprValue.bound.inj h
  · split <;> simp
  · split <;> simp
  · split <;> simp
  · intro a ha hb
    split at hb
    · rw [List.mem_singleton.1 hb] at ha
      split at ha <;> simp at ha
    · cases hb

/-- **The classes that occur are listed in increasing rank.** -/
theorem classesIn_sorted (L : List Nat) :
    (classesIn c L).Pairwise fun a b => classRank c L a < classRank c L b := by
  -- Every bound term that occurs ranks below the length of `L`.
  have hbound : ∀ t ∈ firstTerms c L, L.findIdx (c · == .bound t) < L.length := by
    intro t ht
    obtain ⟨id, hid, hc⟩ := (mem_firstTerms c).1 ht
    exact List.findIdx_lt_length_of_exists ⟨id, hid, by simp [hc]⟩
  refine List.pairwise_append.2 ⟨List.pairwise_append.2 ⟨?_, ?_, ?_⟩, ?_, ?_⟩
  · exact List.pairwise_map.2 (firstTerms_sorted c L)
  · split <;> simp
  · intro a ha b hb
    obtain ⟨t, ht, rfl⟩ := List.mem_map.1 ha
    split at hb
    · rw [List.mem_singleton.1 hb]
      exact hbound t ht
    · cases hb
  · split <;> simp
  · intro a ha b hb
    split at hb
    · rw [List.mem_singleton.1 hb]
      rcases List.mem_append.1 ha with ha | ha
      · obtain ⟨t, ht, rfl⟩ := List.mem_map.1 ha
        exact Nat.lt_succ_of_lt (hbound t ht)
      · split at ha
        · rw [List.mem_singleton.1 ha]
          exact Nat.lt_succ_self _
        · cases ha
    · cases hb

end Classes

/-! ## The groups of one key -/

/-- The buckets after some solutions: bound terms with their solutions, the
errors and the unbound, each in order. -/
def bucketsOf (c : Nat → ExprValue) (L : List Nat) : List (Term × List Nat) × List Nat × List Nat :=
  ((firstTerms c L).map fun t => (t, L.filter (c · == .bound t)),
    L.filter (c · == .error), L.filter (c · == .unbound))

theorem bucketStep_bucketsOf (c : Nat → ExprValue) (L : List Nat) (x : Nat) :
    bucketStep (bucketsOf c L) (x, c x) = bucketsOf c (L ++ [x]) := by
  unfold bucketsOf
  rcases ht : c x with t | _ | _
  · -- A term with no solution so far has an empty bucket.
    have hnew : t ∉ firstTerms c L → L.filter (c · == .bound t) = [] := by
      intro hnot
      refine List.filter_eq_nil_iff.2 fun id hid hc => hnot ((mem_firstTerms c).2 ⟨id, hid, ?_⟩)
      simpa using hc
    simp only [bucketStep]
    rw [addToBucket_map t x _ (nodup_firstTerms c L) hnew, firstTerms_append_singleton, ht]
    simp only [List.filter_append, List.filter_singleton, ht]
    refine Prod.ext (List.map_congr_left fun u _ => ?_) (by simp [Bool.cond_eq_ite])
    by_cases hu : u = t
    · simp [hu]
    · simp [hu, Bool.cond_eq_ite, Ne.symm hu]
  · simp [bucketStep, firstTerms_append_singleton, ht, List.filter_append]
  · simp [bucketStep, firstTerms_append_singleton, ht, List.filter_append]

theorem foldl_bucketStep (c : Nat → ExprValue) (L : List Nat) :
    (L.map fun id => (id, c id)).foldl bucketStep ([], [], []) = bucketsOf c L := by
  induction L using List.reverseRecOn with
  | nil => rfl
  | append_singleton L x ih =>
    rw [List.map_append, List.foldl_append, ih, List.map_singleton, List.foldl_cons, List.foldl_nil,
      bucketStep_bucketsOf]

/-- The bucket of a class is empty exactly when no solution has the class. -/
theorem isEmpty_filter_beq (c : Nat → ExprValue) (L : List Nat) (cl : ExprValue) :
    (L.filter (c · == cl)).isEmpty = !L.any (c · == cl) := by
  cases h : L.any (c · == cl)
  · simpa [List.isEmpty_iff, List.filter_eq_nil_iff] using h
  · simpa [List.isEmpty_iff, List.filter_eq_nil_iff, List.any_eq_true] using h

/-- **One key's groups**: a group for each class that occurs among the
solutions, in the order of `classesIn`, holding the solutions of that class in
their order and assigning the term of the class. -/
theorem GroupKey.groupsOf_eq (k : GroupKey) (c : Nat → ExprValue) (L : List Nat) :
    k.groupsOf (L.map fun id => (id, c id)) =
      (classesIn c L).map fun cl => k.group (L.filter (c · == cl)) cl.term? := by
  simp only [groupsOf, foldl_bucketStep, bucketsOf, classesIn, List.map_append, List.map_map,
    isEmpty_filter_beq]
  by_cases he : L.any (c · == .error) <;> by_cases hu : L.any (c · == .unbound) <;>
    simp [he, hu, ExprValue.term?]

/-- Buckets by distinct classes that cover every solution partition the
solutions. -/
theorem perm_flatMap_filter {f : Nat → ExprValue} {K : List ExprValue} {L : List Nat}
    (hK : K.Nodup) (hL : L.Nodup) (hcover : ∀ x ∈ L, f x ∈ K) :
    (K.flatMap fun k => L.filter (f · == k)).Perm L := by
  refine (List.perm_ext_iff_of_nodup ?_ hL).2 fun x => ?_
  · refine List.nodup_flatMap.2 ⟨fun k _ => hL.filter _, hK.imp fun {a b} hab => ?_⟩
    refine List.disjoint_left.2 fun {x} hxa hxb => hab ?_
    simp only [List.mem_filter, beq_iff_eq] at hxa hxb
    exact hxa.2.symm.trans hxb.2
  · simp only [List.mem_flatMap, List.mem_filter, beq_iff_eq]
    constructor
    · rintro ⟨k, -, hx, -⟩
      exact hx
    · intro hx
      exact ⟨f x, hcover x hx, hx, rfl⟩

end SparqlBag
