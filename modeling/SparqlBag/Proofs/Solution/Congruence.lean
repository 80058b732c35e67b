import SparqlBag.Proofs.Solution.Combining
import SparqlBag.Proofs.Solution.JoinLaws

/-!
# Twin multisets

Two multisets are twins when both are well formed and hold the same solutions up
to the order of variables and rows (`Multiset.Equiv`).  The operations of the
algebra take twins to twins: the pure ones since they respect equivalence, and the
filter, `extend` and the left join as long as their answers for two solutions
that read the same are related (`Multiset.Twins.related_filterM`,
`Multiset.Twins.related_extendM`, `Multiset.Twins.related_leftJoin`): over twins
they ask the same questions in another order (`Related.mapM_perm`).  Seeds compare
the same way (`SeedTwins`).
-/

namespace SparqlBag

namespace Solution

/-- Two solutions that read the same: the same value for every variable, over
the same variables, each named once on each side. -/
structure Twins (s t : Solution) : Prop where
  get_eq : s.get = t.get
  mem_vars : ∀ v, v ∈ s.vars ↔ v ∈ t.vars
  nodup_left : s.vars.Nodup
  nodup_right : t.vars.Nodup

end Solution

/-- Lists related in any order stay related once each side is known to satisfy
something. -/
theorem PermRel.and_forall_mem {α β : Type} {S : α → β → Prop} {P : α → Prop} {Q : β → Prop}
    {xs : List α} {ys : List β} (hxy : PermRel S xs ys) (hP : ∀ a ∈ xs, P a) (hQ : ∀ b ∈ ys, Q b) :
    PermRel (fun a b => S a b ∧ P a ∧ Q b) xs ys := by
  obtain ⟨zs, hxz, hzy⟩ := hxy
  have hQ' : ∀ z ∈ zs, Q z := fun z hz => hQ z (hzy.subset hz)
  refine ⟨zs, ?_, hzy⟩
  clear hzy hQ
  induction hxz with
  | nil => exact .nil
  | cons hab _ ih =>
    exact .cons ⟨hab, hP _ (List.mem_cons_self ..), hQ' _ (List.mem_cons_self ..)⟩
      (ih (fun a ha => hP a (List.mem_cons_of_mem _ ha)) fun z hz => hQ' z (List.mem_cons_of_mem _ hz))

namespace Bag

variable {b : Bag} {v : Variable}

/-- A variable that is there keeps its position. -/
theorem positionOrInsert_of_mem (h : v ∈ b.vars) : b.positionOrInsert v = (b.vars.idxOf v, b) := by
  unfold positionOrInsert
  rw [idxOf?_eq_some_idxOf h]

/-- A new variable comes last, unbound in every solution. -/
theorem positionOrInsert_of_not_mem (h : v ∉ b.vars) :
    b.positionOrInsert v = (b.vars.length,
      { b with vars := b.vars ++ [v], rows := b.rows.map fun e => (e.1, e.2 ++ [none]) }) := by
  unfold positionOrInsert
  rw [List.idxOf?_eq_none_iff.2 h]

end Bag

namespace Multiset

/-- Two well-formed multisets that hold the same solutions. -/
structure Twins (m n : Multiset) : Prop where
  wf_left : m.WF
  wf_right : n.WF
  equiv : m.Equiv n

variable {m n k m' n' : Multiset}

theorem Twins.refl (h : m.WF) : Twins m m := ⟨h, h, Equiv.refl m⟩

theorem Twins.symm (h : Twins m n) : Twins n m := ⟨h.wf_right, h.wf_left, h.equiv.symm⟩

theorem Twins.trans (h : Twins m n) (h' : Twins n k) : Twins m k :=
  ⟨h.wf_left, h'.wf_right, h.equiv.trans h'.equiv⟩

theorem Twins.size_eq (h : Twins m n) : m.size = n.size := by
  rw [← length_mappings, ← length_mappings]
  exact h.equiv.mappings_perm.length_eq

theorem Twins.join (hm : Twins m m') (hn : Twins n n') : Twins (m.join n) (m'.join n') :=
  ⟨hm.wf_left.join hn.wf_left, hm.wf_right.join hn.wf_right,
    hm.equiv.join hn.equiv hm.wf_left hm.wf_right hn.wf_left hn.wf_right⟩

theorem Twins.union (hm : Twins m m') (hn : Twins n n') : Twins (m.union n) (m'.union n') :=
  ⟨hm.wf_left.union hn.wf_left, hm.wf_right.union hn.wf_right,
    hm.equiv.union hn.equiv hm.wf_left hm.wf_right hn.wf_left hn.wf_right⟩

theorem Twins.minus (hm : Twins m m') (hn : Twins n n') : Twins (m.minus n) (m'.minus n') :=
  ⟨hm.wf_left.minus n, hm.wf_right.minus n',
    hm.equiv.minus hn.equiv hm.wf_left hm.wf_right hn.wf_left hn.wf_right⟩

theorem Twins.distinct (h : Twins m n) : Twins m.distinct n.distinct :=
  ⟨h.wf_left.distinct, h.wf_right.distinct, h.equiv.distinct h.wf_left h.wf_right⟩

theorem Twins.project (h : Twins m n) {vars : List Variable} (hvars : vars.Nodup) :
    Twins (m.project vars) (n.project vars) :=
  ⟨h.wf_left.project hvars, h.wf_right.project hvars, h.equiv.project vars⟩

/-- The mappings of a multiset are those of its rows over its variables. -/
theorem mappings_eq_map_entries (m : Multiset) :
    m.mappings = m.entries.map fun e => Solution.get ⟨m.vars, e.2⟩ := by
  cases m with
  | identity =>
    simp only [mappings, entries, vars, List.map_cons, List.map_nil, List.cons.injEq, and_true]
    funext v
    rfl
  | null => rfl
  | bag b => rfl

/-- **The rows of twins correspond one to one**, in some order, through
solutions that read the same. -/
theorem Twins.permRel_entries (h : Twins m n) :
    PermRel (fun e e' => Solution.Twins ⟨m.vars, e.2⟩ ⟨n.vars, e'.2⟩) m.entries n.entries := by
  have hperm := h.equiv.mappings_perm
  rw [mappings_eq_map_entries, mappings_eq_map_entries] at hperm
  exact (PermRel.of_map_perm hperm).imp fun e e' hget =>
    ⟨hget, h.equiv.mem_vars, h.wf_left.nodup_vars, h.wf_right.nodup_vars⟩

theorem Twins.permRel_rows (h : Twins m n) :
    PermRel (fun e e' => Solution.Twins ⟨m.vars, e.2⟩ ⟨n.vars, e'.2⟩) m.toBag.rows n.toBag.rows := by
  rw [← entries_eq_toBag_rows, ← entries_eq_toBag_rows]
  exact h.permRel_entries

/-- Two bags over the same variables, in any order, with the same mappings, in
any order, are equivalent. -/
theorem equiv_of_perm {b b' : Bag} (hv : ∀ v, v ∈ b.vars ↔ v ∈ b'.vars)
    (hp : (Multiset.bag b).mappings.Perm (Multiset.bag b').mappings) : (Multiset.bag b).Equiv (.bag b') :=
  ⟨hv, hp⟩

/-! ## Filter -/

section Questions

variable {E : QueryError → Prop}

/-- **Twins keep twins** when the verdicts on their rows correspond as the rows do. -/
theorem Twins.keepByVerdicts (h : Twins m n) {vs vs' : List Bool} (hvs : vs.length = m.entries.length)
    (hvs' : vs'.length = n.entries.length)
    (hrel : PermRel (fun p q => Solution.Twins ⟨m.vars, p.1.2⟩ ⟨n.vars, q.1.2⟩ ∧ p.2 = q.2)
      (m.entries.zip vs) (n.entries.zip vs')) :
    Twins (m.keepByVerdicts vs) (n.keepByVerdicts vs') := by
  have hequiv := h.equiv
  cases m <;> cases n <;> simp only [Equiv] at hequiv
  · -- The identity has one row: both verdicts are the same.
    obtain ⟨a, rfl⟩ := List.length_eq_one_iff.1 hvs
    obtain ⟨a', rfl⟩ := List.length_eq_one_iff.1 hvs'
    obtain ⟨zs, hxz, hzy⟩ := hrel
    obtain ⟨z, rfl⟩ : ∃ z, zs = [z] := List.length_eq_one_iff.1 hxz.length_eq.symm
    obtain ⟨-, haz⟩ := List.forall₂_cons.1 hxz |>.1
    cases List.perm_singleton.1 hzy
    subst haz
    refine Twins.refl ?_
    show (if [a] == [true] then Multiset.identity else .null).WF
    split <;> trivial
  · exact Twins.refl trivial
  · rename_i b b'
    -- The kept rows, read as mappings.
    have hmap : ∀ (c : Bag) (ws : List Bool),
        (Multiset.bag { c with rows := ((c.rows.zip ws).filter (·.2)).map (·.1) }).mappings =
          (c.rows.zip ws).filterMap fun p => if p.2 then some (Solution.get ⟨c.vars, p.1.2⟩) else none :=
      fun c ws => by
        rw [mappings_bag, List.map_map]
        exact map_filter_eq_filterMap fun p _ => rfl
    have hwf : ∀ (c : Bag) (ws : List Bool), WF (.bag c) →
        WF (.bag { c with rows := ((c.rows.zip ws).filter (·.2)).map (·.1) }) := fun c ws hc =>
      ⟨hc.1, fun e he => by
        obtain ⟨p, hp, rfl⟩ := List.mem_map.1 he
        exact hc.2 _ (List.of_mem_zip (List.mem_of_mem_filter hp)).1⟩
    refine ⟨hwf b vs h.wf_left, hwf b' vs' h.wf_right, equiv_of_perm hequiv.1 ?_⟩
    rw [hmap b vs, hmap b' vs']
    exact hrel.filterMap_perm fun p q hpq => by
      have hget : Solution.get ⟨b.vars, p.1.2⟩ = Solution.get ⟨b'.vars, q.1.2⟩ := hpq.1.get_eq
      rw [hpq.2, hget]

/-- **The filter takes twins to twins**, for conditions that answer the same on
solutions that read the same. -/
theorem Twins.related_filterM (h : Twins m n) {keep keep' : Solution → EvalM Bool}
    (hkeep : ∀ s t, s.Twins t → Related E (· = ·) (keep s) (keep' t)) :
    Related E Twins (m.filterM keep) (n.filterM keep') := by
  rw [filterM_eq_bind, filterM_eq_bind]
  exact (Related.mapM_perm h.permRel_entries fun e e' he => hkeep _ _ he).bind
    fun vs vs' hvs => related_pure (h.keepByVerdicts hvs.1 hvs.2.1 hvs.2.2)

/-! ## Extend -/

/-- **`extend` binds its variable in each solution** to the value computed for
it, and leaves every other variable as it was. -/
theorem mappings_extendByValues (hm : m.WF) (v : Variable) (computed : List (Option Term)) :
    (m.extendByValues v computed).mappings =
      (m.entries.zip computed).map fun p => Function.update (Solution.get ⟨m.vars, p.1.2⟩) v p.2 := by
  have hB := hm.toBag
  rw [entries_eq_toBag_rows, ← vars_toBag]
  by_cases hv : v ∈ m.toBag.vars
  · -- The variable is there: its value is written at its position.
    simp only [extendByValues, Bag.positionOrInsert_of_mem hv, mappings_bag, List.map_map]
    refine List.map_congr_left fun p hp => ?_
    funext w
    rw [Function.comp_apply, Solution.get_set_idxOf hv (hB.2 _ (List.of_mem_zip hp).1),
      Function.update_apply]
    by_cases hw : w = v
    · subst hw
      simp
    · simp [hw, Ne.symm hw]
  · -- The variable is new: every row grows by one value, written with the computed one.
    simp only [extendByValues, Bag.positionOrInsert_of_not_mem hv, mappings_bag, List.zip_map_left,
      List.map_map]
    refine List.map_congr_left fun p hp => ?_
    have hlen := hB.2 _ (List.of_mem_zip hp).1
    have hidx : (m.toBag.vars ++ [v]).idxOf v = m.toBag.vars.length := by
      rw [List.idxOf_append, if_neg hv]
      simp
    funext w
    simp only [Function.comp_apply, Prod.map, id]
    rw [← hidx,
      Solution.get_set_idxOf (List.mem_append_right _ (List.mem_singleton_self v)) (by simp [hlen]),
      Function.update_apply, ← Solution.get_append_none hlen [v] 1 w]
    by_cases hw : w = v
    · subst hw
      simp
    · simp [hw, Ne.symm hw]

theorem mem_vars_extendByValues (v : Variable) (computed : List (Option Term)) (w : Variable) :
    w ∈ (m.extendByValues v computed).vars ↔ w ∈ m.vars ∨ w = v := by
  rw [← vars_toBag m]
  by_cases hv : v ∈ m.toBag.vars
  · simp only [extendByValues, Bag.positionOrInsert_of_mem hv, vars_bag]
    exact ⟨Or.inl, fun h => h.elim id fun hw => hw ▸ hv⟩
  · simp [extendByValues, Bag.positionOrInsert_of_not_mem hv]

theorem WF.extendByValues (hm : m.WF) (v : Variable) (computed : List (Option Term)) :
    (m.extendByValues v computed).WF := by
  have hB := hm.toBag
  by_cases hv : v ∈ m.toBag.vars
  · simp only [Multiset.extendByValues, Bag.positionOrInsert_of_mem hv]
    refine ⟨hB.1, fun e he => ?_⟩
    obtain ⟨p, hp, rfl⟩ := List.mem_map.1 he
    simpa using hB.2 _ (List.of_mem_zip hp).1
  · simp only [Multiset.extendByValues, Bag.positionOrInsert_of_not_mem hv]
    refine ⟨List.nodup_append.2 ⟨hB.1, List.nodup_singleton v, fun a ha b hb => ?_⟩, fun e he => ?_⟩
    · rw [List.mem_singleton.1 hb]
      exact fun h => hv (h ▸ ha)
    · obtain ⟨p, hp, rfl⟩ := List.mem_map.1 he
      rw [List.zip_map_left] at hp
      obtain ⟨q, hq, rfl⟩ := List.mem_map.1 hp
      simpa using hB.2 _ (List.of_mem_zip hq).1

/-- **Twins extended with corresponding values are twins.** -/
theorem Twins.extendByValues (h : Twins m n) (v : Variable) {cs cs' : List (Option Term)}
    (hrel : PermRel (fun p q => Solution.Twins ⟨m.vars, p.1.2⟩ ⟨n.vars, q.1.2⟩ ∧ p.2 = q.2)
      (m.entries.zip cs) (n.entries.zip cs')) :
    Twins (m.extendByValues v cs) (n.extendByValues v cs') := by
  obtain ⟨b, hb⟩ : ∃ b, m.extendByValues v cs = .bag b := ⟨_, rfl⟩
  obtain ⟨b', hb'⟩ : ∃ b, n.extendByValues v cs' = .bag b := ⟨_, rfl⟩
  have hp := hrel.map_perm (F := fun p => Function.update (Solution.get ⟨m.vars, p.1.2⟩) v p.2)
    (G := fun q => Function.update (Solution.get ⟨n.vars, q.1.2⟩) v q.2) fun p q hpq => by
      rw [hpq.1.get_eq, hpq.2]
  rw [← mappings_extendByValues h.wf_left, ← mappings_extendByValues h.wf_right, hb, hb'] at hp
  refine ⟨h.wf_left.extendByValues v cs, h.wf_right.extendByValues v cs', ?_⟩
  rw [hb, hb']
  refine equiv_of_perm (fun w => ?_) hp
  rw [← vars_bag, ← vars_bag, ← hb, ← hb', mem_vars_extendByValues, mem_vars_extendByValues,
    h.equiv.mem_vars]

/-- **`extend` takes twins to twins**, for values that are computed the same on
solutions that read the same. -/
theorem Twins.related_extendM (h : Twins m n) (v : Variable)
    {value value' : Solution → EvalM (Option Term)}
    (hvalue : ∀ s t, s.Twins t → Related E (· = ·) (value s) (value' t)) :
    Related E Twins (m.extendM v value) (n.extendM v value') := by
  rw [extendM_eq_bind, extendM_eq_bind]
  exact (Related.mapM_perm h.permRel_entries fun e e' he => hvalue _ _ he).bind
    fun cs cs' hcs => related_pure (h.extendByValues v hcs.2.2)

/-! ## Left join -/

/-- The rows the left join tries for a left row: its candidates on the right,
merged into it, in the order it tries them. -/
def joinedRows (m n : Multiset) (left : Row) : List Row :=
  let layout := Layout.ofVariables m.toBag.vars n.toBag.vars
  (layout.candidates (n.toBag.rows.map (·.2)) left).map fun right =>
    (layout.merge left right).fit layout.vars.length

/-- The multiset `leftJoin` returns once the verdicts on the rows it tries are
known, one list of verdicts per left row. -/
def leftJoinByVerdicts (m n : Multiset) (verdicts : List (List Bool)) : Multiset :=
  let layout := Layout.ofVariables m.toBag.vars n.toBag.vars
  let slots := (m.toBag.rows.zip verdicts).flatMap fun p =>
    ((m.joinedRows n p.1.2).zip p.2).map (fun x => if x.2 then some x.1 else none) ++
      (if p.2.any id then [] else [some (p.1.2.fit layout.vars.length)])
  .bag ⟨layout.vars, slots.zipIdx.filterMap (fun x => x.1.map (x.2, ·)), slots.length⟩

theorem leftJoin_eq_bind (keep : Solution → EvalM Bool) :
    m.leftJoin n keep =
      m.toBag.rows.mapM (fun e => (m.joinedRows n e.2).mapM fun row =>
          keep ⟨(Layout.ofVariables m.toBag.vars n.toBag.vars).vars, row⟩) >>= fun verdicts =>
        pure (m.leftJoinByVerdicts n verdicts) := rfl

/-- The rows a left row tries, read as mappings, are its joins with the right
mappings, in another order. -/
theorem map_get_joinedRows_perm (hn : n.WF) {left : Row}
    (hleft : left.length = m.toBag.vars.length) :
    ((m.joinedRows n left).map fun row =>
        Solution.get ⟨(Layout.ofVariables m.toBag.vars n.toBag.vars).vars, row⟩).Perm
      (n.mappings.filterMap (Mapping.join? (Solution.get ⟨m.vars, left⟩))) := by
  have hr := hn.toBag
  set layout := Layout.ofVariables m.toBag.vars n.toBag.vars
  have hrights : ∀ r ∈ n.toBag.rows.map (·.2), r.length = n.toBag.vars.length := by
    intro r hr'
    obtain ⟨e, he, rfl⟩ := List.mem_map.1 hr'
    exact hr.2 e he
  have hblock := Layout.map_get_nestedBlock hr.1 hleft hrights
  rw [List.map_map] at hblock
  rw [joinedRows, ← mappings_toBag n, mappings_bag, layout.map_merge_fit]
  refine ((layout.candidates_merge_perm _ left).map _).trans ?_
  rw [hblock, vars_toBag m]
  exact List.Perm.refl _

theorem mem_vars_leftJoinByVerdicts (hn : n.WF) (vs : List (List Bool)) (v : Variable) :
    v ∈ (m.leftJoinByVerdicts n vs).vars ↔ v ∈ m.vars ∨ v ∈ n.vars := by
  rw [← vars_toBag m, ← vars_toBag n]
  exact Layout.mem_vars_ofVariables hn.toBag.1

/-- **The left join, read as mappings**: for each left row in order, the joins
it tries that are accepted, and the left mapping alone when none is. -/
theorem mappings_leftJoinByVerdicts (hm : m.WF) (hn : n.WF) (vs : List (List Bool)) :
    (m.leftJoinByVerdicts n vs).mappings = (m.toBag.rows.zip vs).flatMap fun p =>
      ((m.joinedRows n p.1.2).zip p.2).filterMap (fun x => if x.2 then
          some (Solution.get ⟨(Layout.ofVariables m.toBag.vars n.toBag.vars).vars, x.1⟩) else none) ++
        (if p.2.any id then [] else [Solution.get ⟨m.vars, p.1.2⟩]) := by
  have hl := hm.toBag
  have hsnd : ∀ (V : List Variable) (R : List (Nat × Row)),
      R.map (fun e => Solution.get ⟨V, e.2⟩) = (R.map (·.2)).map fun row => Solution.get ⟨V, row⟩ :=
    fun V R => by rw [List.map_map]; rfl
  set layout := Layout.ofVariables m.toBag.vars n.toBag.vars
  rw [leftJoinByVerdicts, mappings_bag, hsnd, map_snd_filterMap_zipIdx, List.filterMap_flatMap, List.map_flatMap]
  refine List.flatMap_congr fun p hp => ?_
  rw [List.filterMap_append, List.map_append, List.filterMap_map, List.map_filterMap]
  congr 1
  · congr 1
    funext x
    obtain ⟨row, ok⟩ := x
    cases ok <;> rfl
  · -- The padded left row reads as the left mapping.
    have hpad : Solution.get ⟨layout.vars, p.1.2.fit layout.vars.length⟩ = Solution.get ⟨m.vars, p.1.2⟩ := by
      rw [Solution.get_fit, Layout.vars_ofVariables _ hn.toBag.1,
        Solution.get_append_of_length (hl.2 _ (List.of_mem_zip hp).1), vars_toBag]
    split
    · rfl
    · exact congrArg (fun μ => [μ]) hpad

theorem WF.leftJoinByVerdicts (hm : m.WF) (hn : n.WF) (vs : List (List Bool)) :
    (m.leftJoinByVerdicts n vs).WF := by
  have hl := hm.toBag
  have hr := hn.toBag
  set layout := Layout.ofVariables m.toBag.vars n.toBag.vars
  -- Every slot holds a row of the combined width.
  have hwidth : ∀ (p : (Nat × Row) × List Bool) (r : Row),
      some r ∈ ((m.joinedRows n p.1.2).zip p.2).map (fun x => if x.2 then some x.1 else none) ++
        (if p.2.any id then [] else [some (p.1.2.fit layout.vars.length)]) →
      r.length = layout.vars.length := by
    intro p r hr
    rcases List.mem_append.1 hr with hjoined | hpadded
    · obtain ⟨x, hx, hxr⟩ := List.mem_map.1 hjoined
      obtain ⟨right, -, hright⟩ := List.mem_map.1 (List.of_mem_zip hx).1
      split at hxr
      · rw [← Option.some.inj hxr, ← hright]
        exact Row.length_fit _ _
      · cases hxr
    · split at hpadded
      · cases hpadded
      · rw [Option.some.inj (List.mem_singleton.1 hpadded)]
        exact Row.length_fit _ _
  refine ⟨Layout.nodup_vars_ofVariables hl.1 hr.1, fun e he => ?_⟩
  have hslot := List.mem_map_of_mem (f := (·.2)) he
  rw [map_snd_filterMap_zipIdx] at hslot
  obtain ⟨slot, hslot, hsome⟩ := List.mem_filterMap.1 hslot
  obtain ⟨p, -, hp⟩ := List.mem_flatMap.1 hslot
  rw [id] at hsome
  subst hsome
  exact hwidth p e.2 hp

/-- The rows that twin left rows try, against twin right sides, correspond one
to one through solutions that read the same. -/
theorem Twins.permRel_joinedRows (hm : Twins m m') (hn : Twins n n') (left left' : Row)
    (hleft : left.length = m.toBag.vars.length) (hleft' : left'.length = m'.toBag.vars.length)
    (h : Solution.Twins ⟨m.vars, left⟩ ⟨m'.vars, left'⟩) :
    PermRel (fun row row' => Solution.Twins ⟨(Layout.ofVariables m.toBag.vars n.toBag.vars).vars, row⟩
        ⟨(Layout.ofVariables m'.toBag.vars n'.toBag.vars).vars, row'⟩)
      (m.joinedRows n left) (m'.joinedRows n' left') := by
  have hperm : ((m.joinedRows n left).map fun row =>
      Solution.get ⟨(Layout.ofVariables m.toBag.vars n.toBag.vars).vars, row⟩).Perm
      ((m'.joinedRows n' left').map fun row =>
        Solution.get ⟨(Layout.ofVariables m'.toBag.vars n'.toBag.vars).vars, row⟩) := by
    refine (map_get_joinedRows_perm hn.wf_left hleft).trans ?_
    rw [h.get_eq]
    exact (hn.equiv.mappings_perm.filterMap _).trans (map_get_joinedRows_perm hn.wf_right hleft').symm
  have hmem : ∀ v, v ∈ (Layout.ofVariables m.toBag.vars n.toBag.vars).vars ↔
      v ∈ (Layout.ofVariables m'.toBag.vars n'.toBag.vars).vars := fun v => by
    rw [Layout.mem_vars_ofVariables hn.wf_left.toBag.1, Layout.mem_vars_ofVariables hn.wf_right.toBag.1,
      vars_toBag, vars_toBag, vars_toBag, vars_toBag, hm.equiv.mem_vars, hn.equiv.mem_vars]
  exact (PermRel.of_map_perm hperm).imp fun row row' hget =>
    ⟨hget, hmem, Layout.nodup_vars_ofVariables hm.wf_left.toBag.1 hn.wf_left.toBag.1,
      Layout.nodup_vars_ofVariables hm.wf_right.toBag.1 hn.wf_right.toBag.1⟩

/-- The verdicts on the rows that twin left rows try correspond as the rows do,
for conditions that answer the same on solutions that read the same. -/
theorem Twins.related_verdicts (hm : Twins m m') (hn : Twins n n')
    {keep keep' : Solution → EvalM Bool}
    (hkeep : ∀ s t, s.Twins t → Related E (· = ·) (keep s) (keep' t)) (left left' : Row)
    (hleft : left.length = m.toBag.vars.length) (hleft' : left'.length = m'.toBag.vars.length)
    (h : Solution.Twins ⟨m.vars, left⟩ ⟨m'.vars, left'⟩) :
    Related E (fun cs ds => cs.length = (m.joinedRows n left).length ∧
        ds.length = (m'.joinedRows n' left').length ∧
        PermRel (fun x y => Solution.Twins ⟨(Layout.ofVariables m.toBag.vars n.toBag.vars).vars, x.1⟩
            ⟨(Layout.ofVariables m'.toBag.vars n'.toBag.vars).vars, y.1⟩ ∧ x.2 = y.2)
          ((m.joinedRows n left).zip cs) ((m'.joinedRows n' left').zip ds))
      ((m.joinedRows n left).mapM fun row =>
        keep ⟨(Layout.ofVariables m.toBag.vars n.toBag.vars).vars, row⟩)
      ((m'.joinedRows n' left').mapM fun row =>
        keep' ⟨(Layout.ofVariables m'.toBag.vars n'.toBag.vars).vars, row⟩) :=
  Related.mapM_perm (hm.permRel_joinedRows hn left left' hleft hleft' h) fun _ _ hxy => hkeep _ _ hxy

/-- **Twin left joins are twins** when each pair of corresponding left rows has
one verdict per row it tries, and the rows tried correspond one to one with the
same verdicts. -/
theorem Twins.leftJoinByVerdicts (hm : Twins m m') (hn : Twins n n') {vs vs' : List (List Bool)}
    (hrel : PermRel (fun p q => Solution.Twins ⟨m.vars, p.1.2⟩ ⟨m'.vars, q.1.2⟩ ∧
        (p.2.length = (m.joinedRows n p.1.2).length ∧ q.2.length = (m'.joinedRows n' q.1.2).length ∧
          PermRel (fun x y => Solution.Twins ⟨(Layout.ofVariables m.toBag.vars n.toBag.vars).vars, x.1⟩
              ⟨(Layout.ofVariables m'.toBag.vars n'.toBag.vars).vars, y.1⟩ ∧ x.2 = y.2)
            ((m.joinedRows n p.1.2).zip p.2) ((m'.joinedRows n' q.1.2).zip q.2)))
      (m.toBag.rows.zip vs) (m'.toBag.rows.zip vs')) :
    Twins (m.leftJoinByVerdicts n vs) (m'.leftJoinByVerdicts n' vs') := by
  obtain ⟨b, hb⟩ : ∃ b, m.leftJoinByVerdicts n vs = .bag b := ⟨_, rfl⟩
  obtain ⟨b', hb'⟩ : ∃ b, m'.leftJoinByVerdicts n' vs' = .bag b := ⟨_, rfl⟩
  refine ⟨hm.wf_left.leftJoinByVerdicts hn.wf_left vs, hm.wf_right.leftJoinByVerdicts hn.wf_right vs', ?_⟩
  have hp : (m.leftJoinByVerdicts n vs).mappings.Perm (m'.leftJoinByVerdicts n' vs').mappings := by
    rw [mappings_leftJoinByVerdicts hm.wf_left hn.wf_left, mappings_leftJoinByVerdicts hm.wf_right hn.wf_right]
    refine hrel.flatMap_perm fun p q ⟨htw, hlen, hlen', hrows⟩ => ?_
    -- The accepted joins correspond, and so does the padded left row.
    have hkept := hrows.filterMap_perm
      (F := fun x => if x.2 then
        some (Solution.get ⟨(Layout.ofVariables m.toBag.vars n.toBag.vars).vars, x.1⟩) else none)
      (G := fun y => if y.2 then
        some (Solution.get ⟨(Layout.ofVariables m'.toBag.vars n'.toBag.vars).vars, y.1⟩) else none)
      fun x y hxy => by simp only [hxy.2, hxy.1.get_eq]
    have hany : p.2.any id = q.2.any id := by
      have hv := hrows.map_perm (F := Prod.snd) (G := Prod.snd) fun x y hxy => hxy.2
      rw [List.map_snd_zip hlen.le, List.map_snd_zip hlen'.le] at hv
      exact hv.any_eq
    have hget : Solution.get ⟨m.vars, p.1.2⟩ = Solution.get ⟨m'.vars, q.1.2⟩ := htw.get_eq
    rw [hany, hget]
    exact hkept.append (List.Perm.refl _)
  rw [hb, hb'] at hp ⊢
  refine equiv_of_perm (fun v => ?_) hp
  rw [← vars_bag, ← vars_bag, ← hb, ← hb', mem_vars_leftJoinByVerdicts hn.wf_left,
    mem_vars_leftJoinByVerdicts hn.wf_right, hm.equiv.mem_vars, hn.equiv.mem_vars]

/-- **The left join takes twins to twins**, for conditions that answer the same
on solutions that read the same. -/
theorem Twins.related_leftJoin (hm : Twins m m') (hn : Twins n n') {keep keep' : Solution → EvalM Bool}
    (hkeep : ∀ s t, s.Twins t → Related E (· = ·) (keep s) (keep' t)) :
    Related E Twins (m.leftJoin n keep) (m'.leftJoin n' keep') := by
  rw [leftJoin_eq_bind, leftJoin_eq_bind]
  have hrows := hm.permRel_rows.and_forall_mem (fun e he => hm.wf_left.toBag.2 e he)
    fun e he => hm.wf_right.toBag.2 e he
  -- One list of verdicts per left row, one verdict per row it tries.
  have hverdicts := Related.mapM_perm hrows fun e e' he =>
    hm.related_verdicts hn hkeep e.2 e'.2 he.2.1 he.2.2 he.1
  exact hverdicts.bind fun vs vs' hvs =>
    related_pure (hm.leftJoinByVerdicts hn (hvs.2.2.imp fun p q h => ⟨h.1.1, h.2⟩))

end Questions

end Multiset

end SparqlBag
