import SparqlBag.Proofs.Solution.Layout

/-!
# The operations on multisets, read through their mappings

Each operation is described by what it does to the mappings of the solutions: a
bag lists the mappings of its rows, the join of two bags is the nested-loop join
of their mappings up to order (`Multiset.mappings_join_bag`), a union lists both, a
difference keeps the left mappings compatible with no right mapping sharing a bound
variable, a projection restricts, and `distinct` keeps each mapping once.
Well-formed inputs give well-formed results, and equivalent inputs equivalent
results (`Multiset.Equiv.join` and the others).
-/

namespace SparqlBag

/-- Filtering and then mapping is one `filterMap`. -/
theorem map_filter_eq_filterMap {α β : Type} {p : α → Bool} {f : α → β} {g : α → Option β} :
    ∀ {xs : List α}, (∀ x ∈ xs, g x = if p x then some (f x) else none) →
      (xs.filter p).map f = xs.filterMap g
  | [], _ => rfl
  | x :: xs, h => by
    have ih := map_filter_eq_filterMap fun y hy => h y (List.mem_cons_of_mem _ hy)
    rw [List.filter_cons, List.filterMap_cons, h x (List.mem_cons_self ..)]
    cases p x <;> simp [ih]

/-- A row with one value per variable already is its own fit. -/
theorem Row.fit_of_length {r : Row} {n : Nat} (h : r.length = n) : r.fit n = r := by
  simp [Row.fit, h, List.take_of_length_le (Nat.le_of_eq h)]

namespace Multiset

variable {m m' n n' : Multiset} {b l r : Bag}

/-! ## Building bags -/

@[simp] theorem vars_bag (b : Bag) : (Multiset.bag b).vars = b.vars := rfl

theorem mappings_addAll (b : Bag) (rows : List Row) :
    (Multiset.bag (b.addAll rows)).mappings =
      (Multiset.bag b).mappings ++ rows.map fun r => Solution.get ⟨b.vars, r⟩ := by
  simp only [mappings_bag, Bag.addAll, List.map_append, List.map_map]
  congr 1
  conv_rhs => rw [← List.zipIdx_map_fst 0 rows]
  rw [List.map_map]
  refine List.map_congr_left fun e _ => ?_
  simp [Solution.get_fit]

theorem WF.addAll (h : WF (.bag b)) (rows : List Row) : WF (.bag (b.addAll rows)) := by
  refine ⟨h.1, fun e he => ?_⟩
  simp only [Bag.addAll, List.mem_append, List.mem_map] at he
  rcases he with he | ⟨⟨row, i⟩, -, rfl⟩
  · exact h.2 e he
  · simp [Bag.addAll]

@[simp] theorem vars_ofRows (vars : List Variable) (rows : List Row) :
    (ofRows vars rows).vars = vars := rfl

theorem mappings_ofRows (vars : List Variable) (rows : List Row) :
    (ofRows vars rows).mappings = rows.map fun r => Solution.get ⟨vars, r⟩ := by
  rw [ofRows, mappings_addAll]
  rfl

/-- The rows of a bag built from rows, fitted to its variables. -/
theorem entries_ofRows (vars : List Variable) (rows : List Row) :
    (ofRows vars rows).entries.map (·.2) = rows.map (Row.fit · vars.length) := by
  simp only [ofRows, entries, Bag.addAll, Bag.empty, List.nil_append, List.map_map]
  conv_rhs => rw [← List.zipIdx_map_fst 0 rows, List.map_map]
  rfl

/-- A multiset lists the rows that `P` describes, each once. -/
def ListsOnce (m : Multiset) (P : Row → Prop) : Prop :=
  (m.entries.map (·.2)).Nodup ∧ ∀ row, row ∈ m.entries.map (·.2) ↔ P row

/-- A bag built from rows of full width, without repetition, lists them once. -/
theorem listsOnce_ofRows {vars : List Variable} {rows : List Row}
    (hwidth : ∀ r ∈ rows, r.length = vars.length) (hnd : rows.Nodup) {P : Row → Prop}
    (hP : ∀ row, row ∈ rows ↔ P row) : (ofRows vars rows).ListsOnce P := by
  have hfit : rows.map (Row.fit · vars.length) = rows :=
    (List.map_congr_left fun r hr => Row.fit_of_length (hwidth r hr)).trans (List.map_id _)
  rw [ListsOnce, entries_ofRows, hfit]
  exact ⟨hnd, hP⟩

theorem wf_ofRows {vars : List Variable} (h : vars.Nodup) (rows : List Row) : WF (ofRows vars rows) :=
  WF.addAll (b := Bag.empty vars) ⟨h, fun _ he => by cases he⟩ rows

theorem mappings_toBag (m : Multiset) : (Multiset.bag m.toBag).mappings = m.mappings := by
  cases m with
  | identity =>
    simp only [toBag, List.map_cons, List.map_nil, mappings, List.cons.injEq, and_true]
    funext v
    rfl
  | null => rfl
  | bag b => rfl

@[simp] theorem vars_toBag (m : Multiset) : m.toBag.vars = m.vars := by
  cases m <;> rfl

theorem WF.toBag (h : WF m) : WF (.bag m.toBag) := by
  cases m with
  | identity => exact ⟨List.nodup_nil, by simp [Multiset.toBag]⟩
  | null => exact ⟨List.nodup_nil, by simp [Multiset.toBag, Bag.empty]⟩
  | bag b => exact h

theorem WF.nodup_vars (h : WF m) : m.vars.Nodup := by
  cases m with
  | bag b => exact h.1
  | _ => exact List.nodup_nil

/-! ## Join -/

theorem join_bag_bag (l r : Bag) :
    join (.bag l) (.bag r) =
      .bag ((Bag.empty (Layout.ofVariables l.vars r.vars).vars).addAll (l.rows.flatMap fun (_, left) =>
        ((Layout.ofVariables l.vars r.vars).candidates (r.rows.map (·.2)) left).map
          ((Layout.ofVariables l.vars r.vars).merge left))) := rfl

/-- **The join of two bags joins their mappings**, as a nested loop, up to the
order of the result. -/
theorem mappings_join_bag (hl : WF (.bag l)) (hr : WF (.bag r)) :
    (join (.bag l) (.bag r)).mappings.Perm
      (Mapping.joinAll (Multiset.bag l).mappings (Multiset.bag r).mappings) := by
  rw [join_bag_bag, mappings_addAll]
  simp only [mappings_bag, Bag.empty, List.map_nil, List.nil_append, List.map_flatMap,
    List.map_map, Mapping.joinAll, List.flatMap_map, List.filterMap_map]
  refine List.Perm.flatMap_left _ fun e he => ?_
  refine ((Layout.candidates_perm _ _ _).map _).trans ?_
  rw [List.filter_map, List.map_map]
  refine List.Perm.of_eq (map_filter_eq_filterMap fun e' he' => ?_)
  simp only [Function.comp_apply]
  rw [Layout.get_merge l.vars hr.1 (hl.2 e he) (hr.2 e' he'), Mapping.join?]
  congr 1
  exact propext (Layout.compatible_iff l.vars hr.1 e.2 e'.2).symm

theorem WF.join_bag (hl : WF (.bag l)) (hr : WF (.bag r)) : WF (join (.bag l) (.bag r)) := by
  rw [join_bag_bag]
  exact WF.addAll ⟨Layout.nodup_vars_ofVariables hl.1 hr.1, fun _ he => by cases he⟩ _

theorem mem_vars_join_bag (hr : WF (.bag r)) (v : Variable) :
    v ∈ (join (.bag l) (.bag r)).vars ↔ v ∈ l.vars ∨ v ∈ r.vars := by
  rw [join_bag_bag]
  exact Layout.mem_vars_ofVariables hr.1

@[simp] theorem join_null_left (n : Multiset) : join .null n = .null := rfl

@[simp] theorem join_null_right (m : Multiset) : join m .null = .null := by
  cases m <;> rfl

@[simp] theorem join_identity_left (n : Multiset) : join .identity n = n := by
  cases n <;> rfl

@[simp] theorem join_identity_right (m : Multiset) : join m .identity = m := by
  cases m <;> rfl

theorem WF.join (hm : WF m) (hn : WF n) : WF (join m n) := by
  cases m with
  | identity => simpa using hn
  | null => trivial
  | bag l =>
    cases n with
    | identity => simpa using hm
    | null => trivial
    | bag r => exact WF.join_bag hm hn

/-- **The join respects equivalence.** -/
theorem Equiv.join (hm : Equiv m m') (hn : Equiv n n') (wm : WF m) (wm' : WF m') (wn : WF n)
    (wn' : WF n') : Equiv (m.join n) (m'.join n') := by
  cases m <;> cases m' <;> simp only [Equiv] at hm
  · simpa using hn
  · exact Equiv.refl _
  · rename_i l l'
    cases n <;> cases n' <;> simp only [Equiv] at hn
    · simpa using (show Equiv (.bag l) (.bag l') from hm)
    · simpa using Equiv.refl Multiset.null
    · rename_i r r'
      have hv : ∀ v, v ∈ (join (.bag l) (.bag r)).vars ↔ v ∈ (join (.bag l') (.bag r')).vars :=
        fun v => by rw [mem_vars_join_bag wn, mem_vars_join_bag wn', hm.1 v, hn.1 v]
      have hp : (join (.bag l) (.bag r)).mappings.Perm (join (.bag l') (.bag r')).mappings :=
        (mappings_join_bag wm wn).trans
          ((Mapping.joinAll_perm hm.2 hn.2).trans (mappings_join_bag wm' wn').symm)
      exact ⟨hv, hp⟩

/-! ## Union -/

/-- **A union lists the mappings of the left side, then those of the right side.** -/
theorem mappings_union (hm : WF m) (hn : WF n) : (union m n).mappings = m.mappings ++ n.mappings := by
  have hl := hm.toBag
  have hr := hn.toBag
  rw [union, mappings_addAll, mappings_addAll, ← mappings_toBag m, ← mappings_toBag n]
  simp only [mappings_bag, Bag.empty, List.map_nil, List.nil_append, List.map_map]
  congr 1
  · refine List.map_congr_left fun e he => ?_
    simp only [Function.comp_apply]
    rw [Layout.vars_ofVariables _ hr.1, Solution.get_append_of_length (hl.2 e he)]
  · refine List.map_congr_left fun e he => ?_
    exact Layout.get_merge_nil _ hr.1 (hr.2 e he)

theorem mem_vars_union (hn : WF n) (v : Variable) :
    v ∈ (union m n).vars ↔ v ∈ m.vars ∨ v ∈ n.vars := by
  rw [union, vars_bag, Bag.addAll, Bag.addAll, Bag.empty, ← vars_toBag m, ← vars_toBag n]
  exact Layout.mem_vars_ofVariables hn.toBag.1

theorem WF.union (hm : WF m) (hn : WF n) : WF (union m n) := by
  rw [Multiset.union]
  exact WF.addAll (WF.addAll ⟨Layout.nodup_vars_ofVariables hm.toBag.1 hn.toBag.1,
    fun _ he => by cases he⟩ _) _

/-- **The union respects equivalence.** -/
theorem Equiv.union (hm : Equiv m m') (hn : Equiv n n') (wm : WF m) (wm' : WF m') (wn : WF n)
    (wn' : WF n') : Equiv (m.union n) (m'.union n') := by
  have hv : ∀ v, v ∈ (m.union n).vars ↔ v ∈ (m'.union n').vars :=
    fun v => by rw [mem_vars_union wn, mem_vars_union wn', hm.mem_vars v, hn.mem_vars v]
  have hp : (m.union n).mappings.Perm (m'.union n').mappings := by
    rw [mappings_union wm wn, mappings_union wm' wn']
    exact hm.mappings_perm.append hn.mappings_perm
  exact ⟨hv, hp⟩

/-! ## Difference -/

@[simp] theorem minus_identity (n : Multiset) : minus .identity n = .identity := rfl

@[simp] theorem minus_null (n : Multiset) : minus .null n = .null := rfl

theorem minus_bag_of_not_bag (l : Bag) (h : ∀ r, n ≠ .bag r) : minus (.bag l) n = .bag l := by
  cases n with
  | bag r => exact absurd rfl (h r)
  | _ => rfl

theorem minus_bag_bag (l r : Bag) :
    minus (.bag l) (.bag r) =
      if (Layout.ofVariables l.vars r.vars).shared.isEmpty then .bag l
      else .bag { l with rows := l.rows.filter fun entry => !r.rows.any fun (_, right) =>
        (Layout.ofVariables l.vars r.vars).compatible entry.2 right &&
          (Layout.ofVariables l.vars r.vars).sharesBound entry.2 right } := rfl

/-- The difference of a bag and another is a bag over the same variables. -/
theorem minus_bag (l : Bag) (n : Multiset) : ∃ b, minus (.bag l) n = .bag b ∧ b.vars = l.vars := by
  cases n with
  | bag r =>
    rw [minus_bag_bag]
    split_ifs
    · exact ⟨l, rfl, rfl⟩
    · exact ⟨_, rfl, rfl⟩
  | _ => exact ⟨l, rfl, rfl⟩

open Classical in
/-- **A difference keeps the left mappings that no right mapping is compatible
with while sharing a bound variable with it.** -/
theorem mappings_minus (hm : WF m) (hn : WF n) :
    (minus m n).mappings = m.mappings.filter fun μ =>
      ¬ ∃ ν ∈ n.mappings, Mapping.Compatible μ ν ∧ Mapping.SharesBound μ ν := by
  cases m with
  | identity =>
    -- The empty mapping shares no bound variable.
    simp [mappings, Mapping.SharesBound, Mapping.empty]
  | null => rfl
  | bag l =>
    cases n with
    | identity => simp [mappings, minus, Mapping.SharesBound, Mapping.empty]
    | null => simp [mappings, minus]
    | bag r =>
      rw [minus_bag_bag]
      split_ifs with hempty
      · -- No variable on both sides: nothing is removed.
        have hdisj := (Layout.shared_eq_nil_iff l.vars hn.1).1 (List.isEmpty_iff.1 hempty)
        refine (List.filter_eq_self.2 fun μ hμ => ?_).symm
        simp only [mappings_bag, List.mem_map] at hμ ⊢
        obtain ⟨e, -, rfl⟩ := hμ
        simp only [decide_eq_true_eq, not_exists, not_and]
        rintro ν ⟨e', -, rfl⟩ - ⟨v, hvl, hvr⟩
        exact hdisj v (Solution.mem_of_get_isSome hvr) (Solution.mem_of_get_isSome hvl)
      · simp only [mappings_bag, List.filter_map]
        congr 1
        refine List.filter_congr fun e he => Bool.eq_iff_iff.2 ?_
        simp only [Function.comp_apply, Bool.not_eq_true', List.any_eq_false]
        -- A right row removes the left one exactly when their mappings are compatible and
        -- share a bound variable.
        have hremoves : ∀ e' : Nat × Row, ((Layout.ofVariables l.vars r.vars).compatible e.2 e'.2 &&
            (Layout.ofVariables l.vars r.vars).sharesBound e.2 e'.2) = true ↔
            Mapping.Compatible (Solution.get ⟨l.vars, e.2⟩) (Solution.get ⟨r.vars, e'.2⟩) ∧
              Mapping.SharesBound (Solution.get ⟨l.vars, e.2⟩) (Solution.get ⟨r.vars, e'.2⟩) := by
          intro e'
          rw [Bool.and_eq_true, Layout.compatible_iff l.vars hn.1, Layout.sharesBound_iff l.vars hn.1]
          rfl
        constructor
        · refine fun h => decide_eq_true ?_
          rintro ⟨ν, hν, hboth⟩
          obtain ⟨e', he', rfl⟩ := List.mem_map.1 hν
          exact h e' he' ((hremoves e').2 hboth)
        · rintro h ⟨id', right⟩ he' hboth
          exact of_decide_eq_true h ⟨_, List.mem_map_of_mem he', (hremoves (id', right)).1 hboth⟩

@[simp] theorem vars_minus (m n : Multiset) : (minus m n).vars = m.vars := by
  cases m with
  | bag l =>
    obtain ⟨b, hb, hbv⟩ := minus_bag l n
    rw [hb, vars_bag, hbv, vars_bag]
  | _ => rfl

theorem WF.minus (hm : WF m) (n : Multiset) : WF (minus m n) := by
  cases m with
  | bag l =>
    cases n with
    | bag r =>
      rw [minus_bag_bag]
      split_ifs
      · exact hm
      · exact ⟨hm.1, fun e he => hm.2 e (List.mem_filter.1 he).1⟩
    | _ => exact hm
  | _ => trivial

/-- **The difference respects equivalence.** -/
theorem Equiv.minus (hm : Equiv m m') (hn : Equiv n n') (wm : WF m) (wm' : WF m') (wn : WF n)
    (wn' : WF n') : Equiv (m.minus n) (m'.minus n') := by
  cases m <;> cases m' <;> simp only [Equiv] at hm
  · exact Equiv.refl _
  · exact Equiv.refl _
  · rename_i l l'
    have hp : (Multiset.minus (.bag l) n).mappings.Perm (Multiset.minus (.bag l') n').mappings := by
      rw [mappings_minus wm wn, mappings_minus wm' wn']
      refine (hm.2.filter _).trans (List.Perm.of_eq (List.filter_congr fun μ _ => ?_))
      exact decide_eq_decide.2
        (not_congr (exists_congr fun ν => and_congr_left' hn.mappings_perm.mem_iff))
    obtain ⟨b, hb, hbv⟩ := minus_bag l n
    obtain ⟨b', hb', hbv'⟩ := minus_bag l' n'
    rw [hb, hb'] at hp ⊢
    exact ⟨fun v => by rw [hbv, hbv']; exact hm.1 v, hp⟩

/-! ## Projection -/

theorem project_of_ne_null (h : m ≠ .null) (vars : List Variable) :
    m.project vars = .bag ⟨vars, m.toBag.rows.map (fun (id, r) =>
      (id, (vars.map m.toBag.vars.idxOf?).map fun p => p.bind (Layout.at? r))), m.toBag.nextId⟩ := by
  cases m with
  | null => exact absurd rfl h
  | _ => rfl

/-- **A projection restricts every mapping to the projected variables.** -/
theorem mappings_project (m : Multiset) (vars : List Variable) :
    (m.project vars).mappings = m.mappings.map (Mapping.restrict vars) := by
  by_cases h : m = .null
  · subst h
    rfl
  rw [project_of_ne_null h, ← mappings_toBag m]
  simp only [mappings_bag, List.map_map]
  refine List.map_congr_left fun e _ => ?_
  funext v
  rw [Function.comp_apply, Solution.get_map_self]
  simp only [Mapping.restrict, Function.comp_apply, Solution.get_eq_bind]

theorem WF.project (hm : WF m) {vars : List Variable} (hvars : vars.Nodup) : WF (m.project vars) := by
  by_cases h : m = .null
  · subst h
    trivial
  rw [project_of_ne_null h]
  exact ⟨hvars, fun e he => by
    obtain ⟨e', -, rfl⟩ := List.mem_map.1 he
    simp⟩

/-- **The projection respects equivalence.** -/
theorem Equiv.project (hm : Equiv m m') (vars : List Variable) :
    Equiv (m.project vars) (m'.project vars) := by
  by_cases h : m = .null
  · subst h
    cases m' <;> simp only [Equiv] at hm
    exact Equiv.refl _
  have h' : m' ≠ .null := by
    rintro rfl
    cases m <;> simp_all [Equiv]
  have hp : (m.project vars).mappings.Perm (m'.project vars).mappings := by
    rw [mappings_project, mappings_project]
    exact hm.mappings_perm.map _
  rw [project_of_ne_null h, project_of_ne_null h'] at hp ⊢
  exact ⟨fun v => Iff.rfl, hp⟩

/-! ## Distinct solutions -/

/-- What `distinct` keeps, from kept solutions `K` whose values `S` are all
different: solutions with different values, each kept one or new, and one for
every value seen. -/
theorem foldl_keepNew : ∀ (xs K : List (Nat × Row)) (S : List Row),
    (∀ x, x ∈ S ↔ x ∈ K.map (·.2)) → (K.map (·.2)).Nodup →
      ((xs.foldl keepNew (K, S)).1.map (·.2)).Nodup ∧
        (∀ e ∈ (xs.foldl keepNew (K, S)).1, e ∈ K ∨ e ∈ xs) ∧
        (∀ e ∈ K ++ xs, e.2 ∈ (xs.foldl keepNew (K, S)).1.map (·.2))
  | [], K, S, _, hK => ⟨hK, fun _ he => Or.inl he, fun _ he => List.mem_map_of_mem (List.append_nil K ▸ he)⟩
  | x :: xs, K, S, hS, hK => by
    rw [List.foldl_cons]
    unfold keepNew
    split_ifs with hx
    · -- The values of `x` are kept already.
      obtain ⟨h₁, h₂, h₃⟩ := foldl_keepNew xs K S hS hK
      refine ⟨h₁, fun e he => (h₂ e he).imp_right (List.mem_cons_of_mem x), fun e he => ?_⟩
      rcases List.mem_append.1 he with heK | hex
      · exact h₃ e (List.mem_append_left _ heK)
      · rcases List.mem_cons.1 hex with rfl | hexs
        · obtain ⟨k, hk, hke⟩ := List.mem_map.1 ((hS _).1 (List.contains_iff_mem.1 hx))
          rw [← hke]
          exact h₃ k (List.mem_append_left _ hk)
        · exact h₃ e (List.mem_append_right _ hexs)
    · -- New values: `x` is kept.
      have hxK : x.2 ∉ K.map (·.2) := fun h => hx (List.contains_iff_mem.2 ((hS _).2 h))
      obtain ⟨h₁, h₂, h₃⟩ := foldl_keepNew xs (x :: K) (x.2 :: S)
        (fun y => by simp [hS y]) (List.nodup_cons.2 ⟨hxK, hK⟩)
      refine ⟨h₁, fun e he => ?_, fun e he => h₃ e ?_⟩
      · rcases h₂ e he with hxe | hexs
        · rcases List.mem_cons.1 hxe with rfl | heK
          · exact Or.inr (List.mem_cons_self ..)
          · exact Or.inl heK
        · exact Or.inr (List.mem_cons_of_mem x hexs)
      · simp only [List.mem_append, List.mem_cons] at he ⊢
        tauto

theorem distinct_bag (b : Bag) :
    distinct (.bag b) = .bag { b with rows := (b.rows.foldl keepNew ([], [])).1.reverse } := rfl

/-- `distinct` lists every mapping once, and all the mappings it had. -/
theorem distinct_mappings (hm : WF m) :
    (distinct m).mappings.Nodup ∧ ∀ μ, μ ∈ (distinct m).mappings ↔ μ ∈ m.mappings := by
  cases m with
  | identity => exact ⟨List.nodup_singleton _, fun _ => Iff.rfl⟩
  | null => exact ⟨List.nodup_nil, fun _ => Iff.rfl⟩
  | bag b =>
    obtain ⟨h₁, h₂, h₃⟩ := foldl_keepNew b.rows [] [] (by simp) List.nodup_nil
    rw [distinct_bag]
    simp only [mappings_bag]
    refine ⟨?_, fun μ => ?_⟩
    · -- Rows of full length over variables without repetition differ in their mappings.
      have hrows : ((b.rows.foldl keepNew ([], [])).1.reverse.map fun e => Solution.get ⟨b.vars, e.2⟩) =
          (((b.rows.foldl keepNew ([], [])).1.map (·.2)).reverse.map fun r => Solution.get ⟨b.vars, r⟩) := by
        rw [← List.map_reverse, List.map_map]
        rfl
      rw [hrows]
      refine (List.nodup_reverse.2 h₁).map_on fun r hr r' hr' hget => ?_
      obtain ⟨e, he, rfl⟩ := List.mem_map.1 (List.mem_reverse.1 hr)
      obtain ⟨e', he', rfl⟩ := List.mem_map.1 (List.mem_reverse.1 hr')
      have heb := (h₂ e he).resolve_left List.not_mem_nil
      have heb' := (h₂ e' he').resolve_left List.not_mem_nil
      exact Solution.eq_of_get_eq hm.1 (hm.2 e heb) (hm.2 e' heb') hget
    · simp only [List.mem_map, List.mem_reverse]
      constructor
      · rintro ⟨e, he, rfl⟩
        exact ⟨e, (h₂ e he).resolve_left List.not_mem_nil, rfl⟩
      · rintro ⟨e, he, rfl⟩
        obtain ⟨e', he', hrow⟩ := List.mem_map.1 (h₃ e (by simpa using he))
        exact ⟨e', he', by rw [hrow]⟩

@[simp] theorem vars_distinct (m : Multiset) : (distinct m).vars = m.vars := by
  cases m <;> rfl

theorem WF.distinct (hm : WF m) : WF (distinct m) := by
  cases m with
  | bag b =>
    obtain ⟨-, h₂, -⟩ := foldl_keepNew b.rows [] [] (by simp) List.nodup_nil
    rw [distinct_bag]
    exact ⟨hm.1, fun e he => hm.2 e ((h₂ e (List.mem_reverse.1 he)).resolve_left List.not_mem_nil)⟩
  | _ => exact hm

/-- **`distinct` respects equivalence.** -/
theorem Equiv.distinct (hm : Equiv m m') (wm : WF m) (wm' : WF m') :
    Equiv m.distinct m'.distinct := by
  obtain ⟨hnd, hmem⟩ := distinct_mappings wm
  obtain ⟨hnd', hmem'⟩ := distinct_mappings wm'
  have hp : m.distinct.mappings.Perm m'.distinct.mappings :=
    (List.perm_ext_iff_of_nodup hnd hnd').2 fun μ => by
      rw [hmem, hmem', hm.mappings_perm.mem_iff]
  cases m <;> cases m' <;> simp only [Equiv] at hm
  · exact Equiv.refl _
  · exact Equiv.refl _
  · exact ⟨hm.1, hp⟩

end Multiset

end SparqlBag
