import SparqlBag.Proofs.Solution.Operations
import SparqlBag.Proofs.Engine.Outcome

/-!
# Numbering of solutions

A bag is `Numbered` when the numbers of its rows grow in row order, stay below
the number it hands out next, and every row holds one value per variable.  Every
operation keeps a multiset numbered (`Multiset.Numbered.step`) and none lowers
the next number, except that the identity, losing its solution by `remove`,
`filter` or `slice`, becomes the empty multiset whose next number is `0`
(`Multiset.Step.nextId_le`).  So along a run every number handed out is fresh
(`Multiset.Run.numbered_and_fresh`), but the number `0` of a removed identity
solution may come again (`Multiset.add_after_dropping_identity`).
-/

namespace SparqlBag

/-- The first components of a zip are a sublist of the left list. -/
theorem map_fst_zip_sublist {α β : Type} : ∀ (l₁ : List α) (l₂ : List β),
    ((l₁.zip l₂).map Prod.fst).Sublist l₁
  | [], _ => by simp
  | _ :: _, [] => by simp
  | a :: l₁, _ :: l₂ => by simpa using (map_fst_zip_sublist l₁ l₂).cons_cons a

namespace Bag

/-- The numbers of the rows grow and stay below the next number, and each row
holds one value per variable. -/
structure Numbered (b : Bag) : Prop where
  sorted : b.rows.Pairwise (·.1 < ·.1)
  lt_nextId : ∀ e ∈ b.rows, e.1 < b.nextId
  width : ∀ e ∈ b.rows, e.2.length = b.vars.length

variable {b : Bag}

theorem numbered_empty (vars : List Variable) : (empty vars).Numbered :=
  ⟨List.Pairwise.nil, fun _ h => absurd h List.not_mem_nil, fun _ h => absurd h List.not_mem_nil⟩

/-- Keeping some of the rows, in order, keeps a bag numbered. -/
theorem Numbered.sublist (h : b.Numbered) {rows : List (Nat × Row)} (hs : rows.Sublist b.rows) :
    Numbered { b with rows := rows } :=
  ⟨h.sorted.sublist hs, fun e he => h.lt_nextId e (hs.subset he),
    fun e he => h.width e (hs.subset he)⟩

theorem add_fst (b : Bag) (values : Row) : (b.add values).1 = b.nextId := rfl

@[simp] theorem nextId_add (b : Bag) (values : Row) : (b.add values).2.nextId = b.nextId + 1 := rfl

@[simp] theorem vars_add (b : Bag) (values : Row) : (b.add values).2.vars = b.vars := rfl

/-- The added row takes the next number, above all others. -/
theorem Numbered.add (h : b.Numbered) (values : Row) : (b.add values).2.Numbered := by
  refine ⟨?_, fun e he => ?_, fun e he => ?_⟩
  · refine List.pairwise_append.2 ⟨h.sorted, List.pairwise_singleton _ _, fun e he f hf => ?_⟩
    rw [List.mem_singleton.1 hf]
    exact h.lt_nextId e he
  · rcases List.mem_append.1 he with he | he
    · exact Nat.lt_succ_of_lt (h.lt_nextId e he)
    · rw [List.mem_singleton.1 he]
      exact Nat.lt_succ_self _
  · rcases List.mem_append.1 he with he | he
    · exact h.width e he
    · rw [List.mem_singleton.1 he]
      exact Row.length_fit _ _

@[simp] theorem nextId_positionOrInsert (b : Bag) (v : Variable) :
    (b.positionOrInsert v).2.nextId = b.nextId := by
  unfold positionOrInsert
  split <;> rfl

/-- A new variable is unbound in every row: the numbers stay, each row grows by one. -/
theorem Numbered.positionOrInsert (h : b.Numbered) (v : Variable) :
    (b.positionOrInsert v).2.Numbered := by
  unfold Bag.positionOrInsert
  split
  · exact h
  · refine ⟨?_, fun e he => ?_, fun e he => ?_⟩
    · exact List.pairwise_map.2 (h.sorted.imp id)
    · obtain ⟨f, hf, rfl⟩ := List.mem_map.1 he
      exact h.lt_nextId f hf
    · obtain ⟨f, hf, rfl⟩ := List.mem_map.1 he
      simp [h.width f hf]

/-- Rewriting each row with a value of its own keeps the numbers, and keeps the
bag numbered when each row keeps its length. -/
theorem Numbered.map_zip {γ : Type} (h : b.Numbered) (c : List γ) (f : Row → γ → Row)
    (hf : ∀ r x, (f r x).length = r.length) :
    Numbered { b with rows := (b.rows.zip c).map fun p => (p.1.1, f p.1.2 p.2) } := by
  have hsub := map_fst_zip_sublist b.rows c
  refine ⟨?_, fun e he => ?_, fun e he => ?_⟩
  · have hfst : ((b.rows.zip c).map Prod.fst).Pairwise (·.1 < ·.1) := h.sorted.sublist hsub
    have hz := List.pairwise_map.1 hfst
    exact List.pairwise_map.2 hz
  · obtain ⟨p, hp, rfl⟩ := List.mem_map.1 he
    exact h.lt_nextId p.1 (hsub.subset (List.mem_map.2 ⟨p, hp, rfl⟩))
  · obtain ⟨p, hp, rfl⟩ := List.mem_map.1 he
    rw [hf]
    exact h.width p.1 (hsub.subset (List.mem_map.2 ⟨p, hp, rfl⟩))

end Bag

namespace Multiset

/-- The number the next added solution receives. -/
def nextId (m : Multiset) : Nat := m.toBag.nextId

/-- A multiset is numbered as the bag it turns into. -/
def Numbered (m : Multiset) : Prop := m.toBag.Numbered

variable {m m' : Multiset}

@[simp] theorem nextId_identity : Multiset.identity.nextId = 1 := rfl

@[simp] theorem nextId_null : Multiset.null.nextId = 0 := rfl

@[simp] theorem nextId_bag (b : Bag) : (Multiset.bag b).nextId = b.nextId := rfl

@[simp] theorem numbered_bag (b : Bag) : (Multiset.bag b).Numbered ↔ b.Numbered := Iff.rfl

theorem numbered_identity : Multiset.identity.Numbered := by
  refine ⟨List.pairwise_singleton _ _, fun e he => ?_, fun e he => ?_⟩ <;> rw [List.mem_singleton.1 he]
  · exact Nat.zero_lt_one
  · rfl

theorem numbered_null : Multiset.null.Numbered := Bag.numbered_empty []

theorem entries_eq_toBag_rows (m : Multiset) : m.entries = m.toBag.rows := by
  cases m <;> rfl

/-- The numbers in the order of the solutions grow. -/
theorem Numbered.ids_sorted (h : m.Numbered) : m.ids.Pairwise (· < ·) := by
  rw [ids, entries_eq_toBag_rows, List.pairwise_map]
  exact h.sorted

theorem Numbered.mem_ids_lt (h : m.Numbered) {i : Nat} (hi : i ∈ m.ids) : i < m.nextId := by
  rw [ids, entries_eq_toBag_rows] at hi
  obtain ⟨e, he, rfl⟩ := List.mem_map.1 hi
  exact Bag.Numbered.lt_nextId h e he

/-- Every solution holds one value per variable. -/
theorem Numbered.length_values (h : m.Numbered) : ∀ e ∈ m.entries, e.2.length = m.vars.length := by
  rw [entries_eq_toBag_rows, ← vars_toBag]
  exact Bag.Numbered.width h

theorem numbered_ofRows (vars : List Variable) (rows : List Row) : (ofRows vars rows).Numbered := by
  refine ⟨?_, fun e he => ?_, fun e he => ?_⟩ <;>
    simp only [ofRows, toBag, Bag.addAll, Bag.empty, List.nil_append, Nat.zero_add] at *
  · have hlt := List.zipIdx_map_snd 0 rows ▸ List.pairwise_lt_range'
    exact List.pairwise_map.2 (List.pairwise_map.1 hlt)
  · obtain ⟨⟨r, i⟩, hri, rfl⟩ := List.mem_map.1 he
    exact List.snd_lt_of_mem_zipIdx hri
  · obtain ⟨⟨r, i⟩, -, rfl⟩ := List.mem_map.1 he
    exact Row.length_fit _ _

/-! ## The operations -/

/-- The multiset `filterM` returns once the verdicts on the solutions are known. -/
def keepByVerdicts (m : Multiset) (verdicts : List Bool) : Multiset :=
  match m with
  | .bag b => .bag { b with rows := ((b.rows.zip verdicts).filter (·.2)).map (·.1) }
  | .identity => if verdicts == [true] then .identity else .null
  | .null => .null

/-- The multiset `extendM` returns once the values of the solutions are known. -/
def extendByValues (m : Multiset) (v : Variable) (computed : List (Option Term)) : Multiset :=
  let (pos, b) := m.toBag.positionOrInsert v
  .bag { b with rows := (b.rows.zip computed).map fun ((id, r), x) => (id, r.set pos x) }

theorem filterM_eq_bind (keep : Solution → EvalM Bool) :
    m.filterM keep = m.entries.mapM (fun e => keep ⟨m.vars, e.2⟩) >>= fun verdicts =>
      pure (m.keepByVerdicts verdicts) := by
  cases m <;> rfl

theorem extendM_eq_bind (v : Variable) (value : Solution → EvalM (Option Term)) :
    m.extendM v value = m.entries.mapM (fun e => value ⟨m.vars, e.2⟩) >>= fun computed =>
      pure (m.extendByValues v computed) := rfl

/-- A computation that ends by returning `f a` returned `f` of something. -/
theorem exists_of_run'_bind_pure {α β : Type} {x : EvalM α} {f : α → β} {s : Nat} {b : β}
    (h : (x >>= fun a => pure (f a)).run' s = .ok b) : ∃ a, b = f a := by
  rw [StateT.run'_eq, run_bind] at h
  cases hx : x.run s with
  | error e => rw [hx] at h; cases h
  | ok p =>
    rw [hx] at h
    cases h
    exact ⟨p.1, rfl⟩

theorem Numbered.keepByVerdicts (h : m.Numbered) (verdicts : List Bool) :
    (m.keepByVerdicts verdicts).Numbered := by
  cases m with
  | bag b =>
    exact Bag.Numbered.sublist h ((List.filter_sublist.map _).trans (map_fst_zip_sublist _ _))
  | identity =>
    show (if verdicts == [true] then Multiset.identity else .null).Numbered
    split
    · exact numbered_identity
    · exact numbered_null
  | null => exact numbered_null

theorem Numbered.extendByValues (h : m.Numbered) (v : Variable) (computed : List (Option Term)) :
    (m.extendByValues v computed).Numbered := by
  have hb := Bag.Numbered.positionOrInsert h v
  rcases hq : m.toBag.positionOrInsert v with ⟨pos, b⟩
  rw [hq] at hb
  simp only [Multiset.extendByValues, hq, numbered_bag]
  exact hb.map_zip computed (fun r x => r.set pos x) fun r x => List.length_set

@[simp] theorem nextId_extendByValues (v : Variable) (computed : List (Option Term)) :
    (m.extendByValues v computed).nextId = m.nextId := by
  simp [Multiset.extendByValues, nextId, toBag]

/-- One binding of `addBindings`: its variable is placed, its value written into the row. -/
def bindingStep (acc : Row × Bag) (x : Variable × Term) : Row × Bag :=
  let p := acc.2.positionOrInsert x.1
  ((acc.1.fit (max acc.1.length (p.1 + 1))).set p.1 (some x.2), p.2)

theorem addBindings_eq (m : Multiset) (bindings : List (Variable × Term)) :
    m.addBindings bindings =
      let acc := bindings.foldl bindingStep ([], m.toBag)
      ((acc.2.add acc.1).1, .bag (acc.2.add acc.1).2) := rfl

/-- Placing the variables of bindings keeps the next number of a bag. -/
theorem nextId_foldl_bindingStep : ∀ (bindings : List (Variable × Term)) (acc : Row × Bag),
    (bindings.foldl bindingStep acc).2.nextId = acc.2.nextId
  | [], _ => rfl
  | x :: xs, acc =>
    (nextId_foldl_bindingStep xs (bindingStep acc x)).trans (Bag.nextId_positionOrInsert _ _)

/-- Placing the variables of bindings keeps a bag numbered. -/
theorem Numbered.foldl_bindingStep : ∀ (bindings : List (Variable × Term)) (acc : Row × Bag),
    acc.2.Numbered → (bindings.foldl bindingStep acc).2.Numbered
  | [], _, h => h
  | x :: xs, acc, h =>
    Numbered.foldl_bindingStep xs (bindingStep acc x) (Bag.Numbered.positionOrInsert h x.1)

theorem Numbered.remove (h : m.Numbered) (id : Nat) : (m.remove id).2.Numbered := by
  cases m with
  | identity =>
    by_cases h0 : id = 0
    · simpa [Multiset.remove, h0] using numbered_null
    · simpa [Multiset.remove, h0] using numbered_identity
  | null => exact numbered_null
  | bag b =>
    simp only [Multiset.remove]
    split
    · exact Bag.Numbered.sublist h List.filter_sublist
    · exact h

theorem nextId_remove (m : Multiset) (id : Nat) :
    m.nextId ≤ (m.remove id).2.nextId ∨ (m = .identity ∧ (m.remove id).2 = .null) := by
  cases m with
  | identity =>
    by_cases h0 : id = 0
    · simp [Multiset.remove, h0]
    · simp [Multiset.remove, h0]
  | null => exact .inl (Nat.le_refl _)
  | bag b =>
    left
    simp only [Multiset.remove]
    split <;> exact (Nat.le_refl _)

theorem nextId_keepByVerdicts (m : Multiset) (verdicts : List Bool) :
    m.nextId ≤ (m.keepByVerdicts verdicts).nextId ∨
      (m = .identity ∧ m.keepByVerdicts verdicts = .null) := by
  cases m with
  | identity =>
    show _ ≤ (if verdicts == [true] then Multiset.identity else .null).nextId ∨
      (_ ∧ (if verdicts == [true] then Multiset.identity else .null) = .null)
    split
    · exact .inl (Nat.le_refl _)
    · exact .inr ⟨rfl, rfl⟩
  | null => exact .inl (Nat.le_refl _)
  | bag b => exact .inl (Nat.le_refl _)

theorem Numbered.project (h : m.Numbered) (vars : List Variable) : (m.project vars).Numbered := by
  by_cases hnull : m = .null
  · subst hnull
    exact numbered_null
  rw [project_of_ne_null hnull]
  refine ⟨?_, fun e he => ?_, fun e he => ?_⟩
  · exact List.pairwise_map.2 (h.sorted.imp id)
  · obtain ⟨f, hf, rfl⟩ := List.mem_map.1 he
    exact Bag.Numbered.lt_nextId h f hf
  · obtain ⟨f, -, rfl⟩ := List.mem_map.1 he
    simp

theorem nextId_project (m : Multiset) (vars : List Variable) : (m.project vars).nextId = m.nextId := by
  by_cases hnull : m = .null
  · subst hnull
    rfl
  rw [project_of_ne_null hnull]
  rfl

/-- `distinct` keeps the first of equal solutions: the kept ones, in order. -/
theorem foldl_keepNew_sublist : ∀ (xs K : List (Nat × Row)) (S : List Row),
    ((xs.foldl keepNew (K, S)).1.reverse).Sublist (K.reverse ++ xs)
  | [], K, _ => by simp
  | x :: xs, K, S => by
    rw [List.foldl_cons]
    by_cases hx : S.contains x.2 = true
    · rw [show keepNew (K, S) x = (K, S) from if_pos hx]
      exact (foldl_keepNew_sublist xs K S).trans
        (List.Sublist.append_left (List.sublist_cons_self x xs) _)
    · rw [show keepNew (K, S) x = (x :: K, x.2 :: S) from if_neg hx]
      simpa using foldl_keepNew_sublist xs (x :: K) (x.2 :: S)

theorem Numbered.distinct (h : m.Numbered) : m.distinct.Numbered := by
  cases m with
  | bag b =>
    have hb : b.Numbered := h
    rw [distinct_bag]
    exact hb.sublist (by simpa using foldl_keepNew_sublist b.rows [] [])
  | _ => exact h

theorem nextId_distinct (m : Multiset) : m.distinct.nextId = m.nextId := by
  cases m <;> rfl

theorem Numbered.slice (h : m.Numbered) (start : Nat) (length : Option Nat) :
    (m.slice start length).Numbered := by
  cases m with
  | identity =>
    simp only [Multiset.slice]
    split
    · exact numbered_identity
    · exact numbered_null
  | null => exact numbered_null
  | bag b =>
    have hrows : (b.rows.zipIdx.map Prod.fst).Sublist b.rows := by
      rw [List.zipIdx_map_fst]
    exact Bag.Numbered.sublist h ((List.filter_sublist.map _).trans hrows)

theorem nextId_slice (m : Multiset) (start : Nat) (length : Option Nat) :
    m.nextId ≤ (m.slice start length).nextId ∨
      (m = .identity ∧ m.slice start length = .null) := by
  cases m with
  | identity =>
    simp only [Multiset.slice]
    split <;> simp
  | null => exact .inl (Nat.le_refl _)
  | bag b => exact .inl (Nat.le_refl _)

/-! ## Runs of operations -/

/-- The operations that keep the numbers of the solutions; `orderBy`, which
numbers the solutions anew, is not one of them.  Filtering and extending run
their callbacks in the evaluation monad. -/
inductive Op where
  | add (values : Row)
  | addBindings (bindings : List (Variable × Term))
  | remove (id : Nat)
  | filter (keep : Solution → EvalM Bool)
  | extend (v : Variable) (value : Solution → EvalM (Option Term))
  | project (vars : List Variable)
  | distinct
  | slice (start : Nat) (length : Option Nat)

/-- One operation that succeeds: the number it hands out, if any, and the
multiset after it. -/
inductive Step : Multiset → Op → Option Nat → Multiset → Prop
  | add (m : Multiset) (values : Row) : Step m (.add values) (some (m.add values).1) (m.add values).2
  | addBindings (m : Multiset) (bindings : List (Variable × Term)) :
      Step m (.addBindings bindings) (some (m.addBindings bindings).1) (m.addBindings bindings).2
  | remove (m : Multiset) (id : Nat) : Step m (.remove id) none (m.remove id).2
  | filter {m m' : Multiset} {keep : Solution → EvalM Bool} {s : Nat} :
      (m.filterM keep).run' s = .ok m' → Step m (.filter keep) none m'
  | extend {m m' : Multiset} {v : Variable} {value : Solution → EvalM (Option Term)} {s : Nat} :
      (m.extendM v value).run' s = .ok m' → Step m (.extend v value) none m'
  | project (m : Multiset) (vars : List Variable) : Step m (.project vars) none (m.project vars)
  | distinct (m : Multiset) : Step m .distinct none m.distinct
  | slice (m : Multiset) (start : Nat) (length : Option Nat) :
      Step m (.slice start length) none (m.slice start length)

variable {op : Op} {r : Option Nat} {i : Nat}

theorem Step.filter_result {keep : Solution → EvalM Bool} (hs : Step m (.filter keep) r m') :
    ∃ verdicts, m' = m.keepByVerdicts verdicts := by
  cases hs with
  | filter h =>
    rw [filterM_eq_bind] at h
    exact exists_of_run'_bind_pure h

theorem Step.extend_result {v : Variable} {value : Solution → EvalM (Option Term)}
    (hs : Step m (.extend v value) r m') : ∃ computed, m' = m.extendByValues v computed := by
  cases hs with
  | extend h =>
    rw [extendM_eq_bind] at h
    exact exists_of_run'_bind_pure h

/-- **Each operation keeps a multiset numbered.** -/
theorem Numbered.step (h : m.Numbered) (hs : Step m op r m') : m'.Numbered := by
  cases op with
  | add values =>
    cases hs
    exact Bag.Numbered.add h values
  | addBindings bindings =>
    cases hs
    rw [addBindings_eq]
    exact Bag.Numbered.add (Numbered.foldl_bindingStep bindings ([], m.toBag) h) _
  | remove id =>
    cases hs
    exact h.remove id
  | filter keep =>
    obtain ⟨verdicts, rfl⟩ := hs.filter_result
    exact h.keepByVerdicts verdicts
  | extend v value =>
    obtain ⟨computed, rfl⟩ := hs.extend_result
    exact h.extendByValues v computed
  | project vars =>
    cases hs
    exact h.project vars
  | distinct =>
    cases hs
    exact h.distinct
  | slice start length =>
    cases hs
    exact h.slice start length

/-- An operation that hands out a number hands out the next one, and moves the
next number on by one. -/
theorem Step.handsOut_nextId (hs : Step m op (some i) m') : i = m.nextId ∧ m'.nextId = i + 1 := by
  cases hs with
  | add => exact ⟨rfl, rfl⟩
  | addBindings bindings =>
    simp only [addBindings_eq, Bag.add_fst, Bag.nextId_add, nextId_bag]
    exact ⟨nextId_foldl_bindingStep bindings ([], m.toBag), trivial⟩

/-- **The next number never decreases**, except when the identity loses its
solution and becomes the empty multiset. -/
theorem Step.nextId_le (hs : Step m op r m') :
    m.nextId ≤ m'.nextId ∨ (m = .identity ∧ m' = .null) := by
  cases hs with
  | add values => exact .inl (Nat.le_succ _)
  | addBindings bindings =>
    left
    simp only [addBindings_eq, Bag.nextId_add, nextId_bag, nextId_foldl_bindingStep]
    exact Nat.le_succ _
  | remove id => exact nextId_remove m id
  | filter h =>
    obtain ⟨verdicts, rfl⟩ := (Step.filter h).filter_result
    exact nextId_keepByVerdicts m verdicts
  | extend h =>
    obtain ⟨computed, rfl⟩ := (Step.extend h).extend_result
    exact .inl (Nat.le_of_eq (nextId_extendByValues _ _).symm)
  | project vars => exact .inl (Nat.le_of_eq (nextId_project m vars).symm)
  | distinct => exact .inl (Nat.le_of_eq (nextId_distinct m).symm)
  | slice start length => exact nextId_slice m start length

/-- The runs from `m₀`: the multiset reached, and the numbers seen on the way,
those of every multiset of the run and those handed out. -/
inductive Run (m₀ : Multiset) : Multiset → List Nat → Prop
  | start : Run m₀ m₀ m₀.ids
  | step {m m' : Multiset} {seen : List Nat} {op : Op} {r : Option Nat} :
      Run m₀ m seen → Step m op r m' → Run m₀ m' (seen ++ r.toList ++ m'.ids)

variable {m₀ : Multiset} {seen : List Nat}

/-- The numbers seen are below `n`, or they are all `0` and `n` is `0`. -/
def FreshBelow (seen : List Nat) (n : Nat) : Prop :=
  (∀ j ∈ seen, j < n) ∨ (n = 0 ∧ ∀ j ∈ seen, j = 0)

/-- A bound that does not decrease stays a bound, with new numbers below it. -/
theorem FreshBelow.append {n n' : Nat} {new : List Nat} (h : FreshBelow seen n) (hle : n ≤ n')
    (hnew : ∀ j ∈ new, j < n') : FreshBelow (seen ++ new) n' := by
  -- A seen `0` stays below a positive bound; below the bound `0` there is nothing new.
  have hseen : (∀ j ∈ seen, j < n') ∨ (n' = 0 ∧ ∀ j ∈ seen, j = 0) := by
    rcases h with hlt | ⟨rfl, hzero⟩
    · exact .inl fun j hj => Nat.lt_of_lt_of_le (hlt j hj) hle
    · rcases Nat.eq_zero_or_pos n' with h0 | hpos
      · exact .inr ⟨h0, hzero⟩
      · exact .inl fun j hj => (hzero j hj).symm ▸ hpos
  rcases hseen with hlt | ⟨rfl, hzero⟩
  · exact .inl fun j hj => (List.mem_append.1 hj).elim (hlt j) (hnew j)
  · refine .inr ⟨rfl, fun j hj => (List.mem_append.1 hj).elim (hzero j) fun hj => ?_⟩
    exact absurd (hnew j hj) (Nat.not_lt_zero j)

/-- Below `1` every number is `0`. -/
theorem FreshBelow.zero_of_one (h : FreshBelow seen 1) : FreshBelow seen 0 := by
  refine .inr ⟨rfl, fun j hj => ?_⟩
  rcases h with hlt | ⟨h0, -⟩
  · exact Nat.lt_one_iff.1 (hlt j hj)
  · exact absurd h0 Nat.one_ne_zero

/-- What every run keeps: the multiset is numbered, and the numbers seen are
below its next number, unless the identity lost its solution and the next
number fell back to `0`, every number seen being `0`. -/
theorem Run.invariant (h₀ : m₀.Numbered) (hrun : Run m₀ m seen) :
    m.Numbered ∧ FreshBelow seen m.nextId := by
  induction hrun with
  | start => exact ⟨h₀, .inl fun j hj => h₀.mem_ids_lt hj⟩
  | @step m m' seen op r _ hs ih =>
    obtain ⟨hm, hseen⟩ := ih
    have hm' := hm.step hs
    have hnew : ∀ j ∈ m'.ids, j < m'.nextId := fun j hj => hm'.mem_ids_lt hj
    refine ⟨hm', ?_⟩
    cases r with
    | some i =>
      -- The number handed out is the old bound, and the new bound is one above it.
      obtain ⟨rfl, hnext⟩ := hs.handsOut_nextId
      have hi : ∀ j ∈ (some m.nextId).toList, j < m.nextId + 1 := by simp
      rw [hnext] at hnew ⊢
      exact (hseen.append (Nat.le_succ _) hi).append (Nat.le_refl _) hnew
    | none =>
      rw [Option.toList_none, List.append_nil]
      rcases hs.nextId_le with hle | ⟨rfl, rfl⟩
      · exact hseen.append hle hnew
      · -- The identity lost its solution: every number seen was below `1`.
        exact hseen.zero_of_one.append (Nat.le_refl 0) hnew

/-- **Numbers along a run.**  Every multiset of a run lists its solutions in
increasing order of number, each with one value per variable, and every number
an operation hands out is greater than every number seen before, those handed
out and those of the multisets of the run, the identity's `0` included, with
one exception: once the identity has lost its solution, `0` may be handed out
again, every number seen then being `0`. -/
theorem Run.numbered_and_fresh (h₀ : m₀.Numbered) (hrun : Run m₀ m seen) :
    m.ids.Pairwise (· < ·) ∧ (∀ e ∈ m.entries, e.2.length = m.vars.length) ∧
      ∀ {op : Op} {i : Nat} {m' : Multiset}, Step m op (some i) m' →
        (∀ j ∈ seen, j < i) ∨ (i = 0 ∧ ∀ j ∈ seen, j = 0) := by
  obtain ⟨hm, hseen⟩ := hrun.invariant h₀
  refine ⟨hm.ids_sorted, hm.length_values, fun hs => ?_⟩
  obtain ⟨rfl, -⟩ := hs.handsOut_nextId
  exact hseen

/-- After a solution is added to the identity, the next solution added takes
the number `2`, above every number seen. -/
theorem Run.fresh_after_two_adds :
    Run .identity (Multiset.identity.add []).2 [0, 1, 0, 1] ∧
      ((∀ j ∈ [0, 1, 0, 1], j < 2) ∨ (2 = 0 ∧ ∀ j ∈ [0, 1, 0, 1], j = 0)) := by
  have hrun : Run .identity (Multiset.identity.add []).2 [0, 1, 0, 1] :=
    .step .start (.add .identity [])
  exact ⟨hrun, (Run.numbered_and_fresh numbered_identity hrun).2.2 (.add _ [])⟩

/-- The exception occurs: the identity loses its solution, numbered `0`, and
the next solution added is numbered `0` again. -/
theorem add_after_dropping_identity :
    Run .identity .null [0] ∧ Step .null (.add []) (some 0) (Multiset.null.add []).2 :=
  ⟨.step .start (.remove .identity 0), .add .null []⟩

end Multiset

end SparqlBag
