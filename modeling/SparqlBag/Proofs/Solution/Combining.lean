import SparqlBag.Proofs.Solution.NestedLoop
import SparqlBag.Proofs.Solution.Numbering
import SparqlBag.Proofs.Engine.Matching

/-!
# Left join, difference and union, row by row

The three other operators that combine multisets read the identity and the empty
multiset as one empty row and no row, and then work row by row.  The left join
lists, for each left row, the compatible right rows merged into it that its
condition accepts, or the left row alone (`Multiset.leftJoin_blocks`).  The
difference keeps, with their numbers, the left rows that no right row is
compatible with while sharing a bound variable (`Multiset.entries_minus`).  The
union lists the left rows, then the right rows realigned (`Multiset.rows_union`).
For bags that name each variable once, `Layout`'s `compatible`, `sharesBound` and
`merge` are compatibility, a shared bound variable and union of mappings.
-/

namespace SparqlBag

namespace Mapping

open Classical in
/-- The left join of one mapping with a list of mappings: its joins with those
it is compatible with that `keep` accepts, or itself alone when `keep` accepts
none. -/
noncomputable def leftBlock (keep : Mapping → Bool) (N : List Mapping) (μ : Mapping) :
    List Mapping :=
  let kept := (N.filterMap (join? μ)).filter keep
  if kept.isEmpty then [μ] else kept

end Mapping

namespace Layout

/-- Over no left variables every right variable is new: it keeps its place,
and nothing is shared. -/
theorem ofVariables_nil_left (right : List Variable) :
    ofVariables [] right = ⟨right, List.range right.length, []⟩ := by
  -- The fold places the `j`-th right variable at position `j`.
  suffices h : ∀ pre : List Variable,
      pre.foldl (addRight []) (⟨[], [], []⟩, 0) = (⟨pre, List.range pre.length, []⟩, pre.length) by
    rw [ofVariables, h]
  intro pre
  induction pre using List.reverseRecOn with
  | nil => rfl
  | append_singleton pre v ih =>
    rw [List.foldl_append, ih]
    simp [addRight, List.range_succ]

/-- Over no right variables the left ones stay, and nothing is shared. -/
@[simp] theorem ofVariables_nil_right (left : List Variable) :
    ofVariables left [] = ⟨left, [], []⟩ := rfl

/-- Without a shared variable no variable is bound on both sides. -/
theorem sharesBound_of_shared_nil {l : Layout} (h : l.shared = []) (left right : Row) :
    l.sharesBound left right = false := by
  simp [sharesBound, h]

/-- What the left join gives one left row: the right rows it is compatible
with, merged into it, that `keep` accepts, or the left row alone, padded to
the combined variables, when `keep` accepts none. -/
def leftBlock (l : Layout) (keep : Row → Bool) (rights : List Row) (left : Row) : List Row :=
  let kept := (l.nestedBlock rights left).filter keep
  if kept.isEmpty then [left.fit l.vars.length] else kept

/-- The block the left join lists for a left row, its candidates in the order
it tries them, is the row's block in another order. -/
theorem leftBlock_perm (l : Layout) (keep : Row → Bool) (rights : List Row) (left : Row) :
    (let kept := ((l.candidates rights left).map (l.merge left)).filter keep
     if kept.isEmpty then [left.fit l.vars.length] else kept).Perm (l.leftBlock keep rights left) := by
  have hkept := (l.candidates_merge_perm rights left).filter keep
  dsimp only [leftBlock]
  rw [hkept.isEmpty_eq]
  split
  · exact List.Perm.refl _
  · exact hkept

/-- Over variables without repetition, a right row realigned to the combined
variables lists the right row's value of each of them. -/
theorem merge_nil_eq_map_get {left right : List Variable} (hl : left.Nodup) (hr : right.Nodup)
    {rrow : Row} (hrrow : rrow.length = right.length) :
    (ofVariables left right).merge [] rrow =
      (ofVariables left right).vars.map (Solution.get ⟨right, rrow⟩) := by
  have hnd := nodup_vars_ofVariables hl hr
  refine Solution.eq_of_get_eq hnd (length_merge _ _ _) (List.length_map _) ?_
  rw [get_merge_nil left hr hrrow]
  funext v
  rw [Solution.get_map_self]
  split
  · rfl
  · -- A variable the right row binds is one of the combined variables.
    rename_i hv
    cases hget : Solution.get ⟨right, rrow⟩ v with
    | none => rfl
    | some a =>
      exact absurd ((mem_vars_ofVariables hr).2
        (Or.inr (Solution.mem_of_get_isSome (by rw [hget]; rfl)))) hv

/-- Merged into a left row of full width, the compatible right rows read as
the joins of the left mapping with the right ones. -/
theorem map_get_nestedBlock {left right : List Variable} (hr : right.Nodup) {lrow : Row}
    (hlrow : lrow.length = left.length) {rights : List Row}
    (hrights : ∀ r ∈ rights, r.length = right.length) :
    ((ofVariables left right).nestedBlock rights lrow).map
        (fun row => Solution.get ⟨(ofVariables left right).vars, row⟩) =
      (rights.map fun r => Solution.get ⟨right, r⟩).filterMap
        (Mapping.join? (Solution.get ⟨left, lrow⟩)) := by
  rw [nestedBlock, List.map_map, List.filterMap_map]
  refine map_filter_eq_filterMap fun r hr' => ?_
  simp only [Function.comp_apply]
  rw [get_merge left hr hlrow (hrights r hr'), Mapping.join?]
  congr 1
  exact propext (compatible_iff left hr lrow r).symm

/-- **The left block of a row reads as the left block of its mapping**, for a
condition that reads the solution as a mapping: the rows of full width over
variables named once stand for mappings, merging joins them, and the padded
left row stands for the left mapping. -/
theorem map_get_leftBlock {left right : List Variable} (hr : right.Nodup) {lrow : Row}
    (hlrow : lrow.length = left.length) {rights : List Row}
    (hrights : ∀ r ∈ rights, r.length = right.length) (keep : Mapping → Bool) :
    ((ofVariables left right).leftBlock
        (fun row => keep (Solution.get ⟨(ofVariables left right).vars, row⟩)) rights lrow).map
        (fun row => Solution.get ⟨(ofVariables left right).vars, row⟩) =
      Mapping.leftBlock keep (rights.map fun r => Solution.get ⟨right, r⟩)
        (Solution.get ⟨left, lrow⟩) := by
  -- The padded left row reads as the left mapping.
  have hpad : Solution.get ⟨(ofVariables left right).vars, lrow.fit (ofVariables left right).vars.length⟩ =
      Solution.get ⟨left, lrow⟩ := by
    rw [Solution.get_fit, vars_ofVariables left hr, Solution.get_append_of_length hlrow]
  set V := (ofVariables left right).vars
  -- The accepted rows, read as mappings, are the accepted joins.
  have hkept : (((ofVariables left right).nestedBlock rights lrow).filter
      fun row => keep (Solution.get ⟨V, row⟩)).map (fun row => Solution.get ⟨V, row⟩) =
      ((rights.map fun r => Solution.get ⟨right, r⟩).filterMap
        (Mapping.join? (Solution.get ⟨left, lrow⟩))).filter keep := by
    rw [← map_get_nestedBlock hr hlrow hrights, List.filter_map]
    rfl
  unfold leftBlock Mapping.leftBlock
  dsimp only
  rw [← hkept, List.isEmpty_map]
  split
  · rw [List.map_singleton, hpad]
  · rfl

end Layout

namespace Multiset

/-- Adding rows to a bag appends them, each fitted to the bag's variables. -/
theorem rows_addAll (b : Bag) (rows : List Row) :
    (b.addAll rows).rows.map (·.2) = b.rows.map (·.2) ++ rows.map (Row.fit · b.vars.length) := by
  simp only [Bag.addAll, List.map_append, List.map_map]
  congr 1
  conv_rhs => rw [← List.zipIdx_map_fst 0 rows, List.map_map]
  rfl

/-! ## Left join -/

/-- The left join reads both sides as bags. -/
theorem leftJoin_toBag {μ : Type → Type} [Monad μ] (m n : Multiset) (keep : Solution → μ Bool) :
    m.leftJoin n keep = (Multiset.bag m.toBag).leftJoin (.bag n.toBag) keep := by
  cases m <;> cases n <;> rfl

/-- With a condition that always answers, the left join answers what it
answers in the identity monad. -/
theorem leftJoin_pure {μ : Type → Type} [Monad μ] [LawfulMonad μ] (m n : Multiset)
    (keep : Solution → Bool) :
    m.leftJoin n (fun s => (pure (keep s) : μ Bool)) =
      pure (Id.run (m.leftJoin n fun s => pure (keep s))) := by
  unfold leftJoin
  simp only [List.mapM_pure, pure_bind, Id.run_pure]

/-- The left join is a bag over the combined variables. -/
theorem leftJoin_eq_bag (m n : Multiset) (keep : Solution → Bool) :
    ∃ b : Bag, Id.run (m.leftJoin n fun s => pure (keep s)) = .bag b ∧
      b.vars = (Layout.ofVariables m.vars n.vars).vars := by
  rw [leftJoin_toBag]
  exact ⟨_, rfl, by simp only [vars_bag, vars_toBag]⟩

/-- **The left join, one block per left row**: for each left row, in order,
the right rows it is compatible with, merged into it, that the condition
accepts, or the left row alone, padded, when it accepts none; each block is
listed in the order the join tries its candidates. -/
theorem leftJoin_blocks {μ : Type → Type} [Monad μ] [LawfulMonad μ] (L R : Multiset)
    (keep : Solution → Bool) :
    ∃ (b : Bag) (blocks : List (List Row)),
      L.leftJoin R (fun s => (pure (keep s) : μ Bool)) = pure (.bag b) ∧
      b.vars = (Layout.ofVariables L.vars R.vars).vars ∧ b.rows.map (·.2) = blocks.flatten ∧
      List.Forall₂ (fun left block => block.Perm
          ((Layout.ofVariables L.vars R.vars).leftBlock
            (fun row => keep ⟨(Layout.ofVariables L.vars R.vars).vars, row⟩)
            (R.entries.map (·.2)) left))
        (L.entries.map (·.2)) blocks := by
  set layout := Layout.ofVariables L.vars R.vars
  obtain ⟨b, hb, hvars⟩ := leftJoin_eq_bag L R keep
  -- The rows of the left join, computed on the bags of both sides.
  have hrows := leftJoin_rows L.toBag R.toBag keep
  rw [← leftJoin_toBag, hb, vars_toBag, vars_toBag, ← entries_eq_toBag_rows,
    ← entries_eq_toBag_rows] at hrows
  refine ⟨b, L.entries.map fun e =>
      let kept := ((layout.candidates (R.entries.map (·.2)) e.2).map (layout.merge e.2)).filter
        fun row => keep ⟨layout.vars, row⟩
      if kept.isEmpty then [e.2.fit layout.vars.length] else kept,
    by rw [leftJoin_pure, hb], hvars, ?_, ?_⟩
  · change (Multiset.bag b).entries.map (·.2) = _
    rw [hrows, List.flatMap_def]
  · rw [List.forall₂_map_left_iff, List.forall₂_map_right_iff]
    exact List.forall₂_same.2 fun e _ => layout.leftBlock_perm _ _ e.2

/-! ## Difference -/

/-- **The difference keeps numbered left rows**: those, with their numbers and
in their order, that no right row is compatible with while sharing a bound
variable with it; the identity and the empty multiset included. -/
theorem entries_minus (L R : Multiset) :
    (L.minus R).entries = L.entries.filter fun e =>
      !(R.entries.map (·.2)).any fun r => (Layout.ofVariables L.vars R.vars).compatible e.2 r &&
        (Layout.ofVariables L.vars R.vars).sharesBound e.2 r := by
  -- Without a shared variable no right row removes a left one.
  have hkeep : ∀ (rows : List (Nat × Row)) (rights : List Row) (l : Layout), l.shared = [] →
      rows.filter (fun e => !rights.any fun r => l.compatible e.2 r && l.sharesBound e.2 r) =
        rows := by
    intro rows rights l hl
    refine List.filter_eq_self.2 fun e _ => ?_
    simp [Layout.sharesBound_of_shared_nil hl]
  cases L with
  | identity =>
    rw [minus_identity, hkeep]
    simp [Layout.ofVariables_nil_left, vars]
  | null => rfl
  | bag l =>
    cases R with
    | identity => exact (hkeep _ _ _ rfl).symm
    | null => simp [minus, entries]
    | bag r =>
      rw [minus_bag_bag]
      split_ifs with hshared
      · exact (hkeep _ _ _ (List.isEmpty_iff.1 hshared)).symm
      · simp only [entries, List.any_map]
        rfl

/-! ## Union -/

@[simp] theorem vars_union (L R : Multiset) :
    (L.union R).vars = (Layout.ofVariables L.vars R.vars).vars := by
  rw [union, vars_bag, Bag.addAll, Bag.addAll, vars_toBag, vars_toBag]
  rfl

/-- **The rows of a union**: the left rows padded to the combined variables,
then the right rows realigned to them. -/
theorem rows_union (L R : Multiset) :
    (L.union R).entries.map (·.2) =
      L.entries.map (fun e => e.2.fit (Layout.ofVariables L.vars R.vars).vars.length) ++
        (R.entries.map (·.2)).map ((Layout.ofVariables L.vars R.vars).merge []) := by
  set layout := Layout.ofVariables L.vars R.vars
  have hunion : L.union R = .bag (((Bag.empty layout.vars).addAll (L.entries.map (·.2))).addAll
      ((R.entries.map (·.2)).map (layout.merge []))) := by
    rw [union, entries_eq_toBag_rows, entries_eq_toBag_rows, List.map_map, vars_toBag, vars_toBag]
    rfl
  rw [hunion, entries, rows_addAll, rows_addAll,
    show ((Bag.empty layout.vars).addAll (L.entries.map (·.2))).vars = layout.vars from rfl,
    Layout.map_fit_map_merge]
  simp [Bag.empty, List.map_map, Function.comp_def]

/-- **Left join, difference and union, row by row**, for all multisets, the
identity and the empty one included.  The left join with a condition that
always answers lists, for each left row in order, the right rows compatible
with it, merged into it, that the condition accepts, or the left row alone,
padded, when it accepts none; the difference keeps, with their numbers and in
their order, the left rows that no right row is compatible with while sharing
a bound variable; the union lists the left rows, padded, then the right rows
realigned to the combined variables. -/
theorem leftJoin_minus_union_rows (L R : Multiset) :
    let layout := Layout.ofVariables L.vars R.vars
    let rights := R.entries.map (·.2)
    (∀ {μ : Type → Type} [Monad μ] [LawfulMonad μ] (keep : Solution → Bool),
      ∃ (b : Bag) (blocks : List (List Row)),
        L.leftJoin R (fun s => (pure (keep s) : μ Bool)) = pure (.bag b) ∧
        b.vars = layout.vars ∧ b.rows.map (·.2) = blocks.flatten ∧
        List.Forall₂ (fun left block =>
            block.Perm (layout.leftBlock (fun row => keep ⟨layout.vars, row⟩) rights left))
          (L.entries.map (·.2)) blocks) ∧
    (L.minus R).vars = L.vars ∧
    (L.minus R).entries = L.entries.filter (fun e =>
      !rights.any fun r => layout.compatible e.2 r && layout.sharesBound e.2 r) ∧
    (L.union R).vars = layout.vars ∧
    (L.union R).entries.map (·.2) =
      L.entries.map (fun e => e.2.fit layout.vars.length) ++ rights.map (layout.merge []) := by
  intro layout rights
  exact ⟨fun keep => leftJoin_blocks L R keep, vars_minus L R, entries_minus L R, vars_union L R,
    rows_union L R⟩

/-- **The left join of multisets of mappings**: over bags that name each
variable once, with a condition that reads the solution as a mapping, the
left join lists, for each left mapping in order, its joins with the right
mappings it is compatible with that the condition accepts, or itself alone
when the condition accepts none. -/
theorem leftJoin_mapping_blocks {μ : Type → Type} [Monad μ] [LawfulMonad μ] {L R : Multiset}
    (hL : L.WF) (hR : R.WF) (keep : Mapping → Bool) :
    ∃ (m : Multiset) (blocks : List (List Mapping)),
      L.leftJoin R (fun s => (pure (keep s.get) : μ Bool)) = pure m ∧
      m.mappings = blocks.flatten ∧
      List.Forall₂ (fun ν block => block.Perm (Mapping.leftBlock keep R.mappings ν))
        L.mappings blocks := by
  set layout := Layout.ofVariables L.vars R.vars
  obtain ⟨b, rowBlocks, hb, hvars, hrows, hforall⟩ :=
    @leftJoin_blocks μ _ _ L R fun s => keep s.get
  have hrights : ∀ r ∈ R.entries.map (·.2), r.length = R.vars.length := by
    intro r hr
    obtain ⟨e, he, rfl⟩ := List.mem_map.1 hr
    exact hR.length_of_mem_entries he
  refine ⟨.bag b, rowBlocks.map fun block => block.map fun row => Solution.get ⟨layout.vars, row⟩,
    hb, ?_, ?_⟩
  · have hmap : (Multiset.bag b).mappings =
        (b.rows.map (·.2)).map fun row => Solution.get ⟨layout.vars, row⟩ := by
      rw [mappings_bag, hvars, List.map_map]
      rfl
    rw [hmap, hrows, List.map_flatten]
  · rw [List.forall₂_map_left_iff] at hforall
    rw [mappings_eq_entries L, List.forall₂_map_left_iff, List.forall₂_map_right_iff]
    -- Each left row holds one value per left variable.
    refine ((List.forall₂_and_left _ _).2 ⟨fun e he => hL.length_of_mem_entries he, hforall⟩).imp
      fun e block ⟨hlen, hperm⟩ => ?_
    have hmR : R.mappings = (R.entries.map (·.2)).map fun r => Solution.get ⟨R.vars, r⟩ := by
      rw [mappings_eq_entries, List.map_map]
      rfl
    rw [hmR]
    exact (hperm.map _).trans (List.Perm.of_eq (Layout.map_get_leftBlock hR.nodup_vars hlen hrights keep))

open Classical in
/-- **Left join, difference and union implement the algebra of multisets of
mappings.**  Row by row, for all multisets, the identity and the empty one
included: the left join with a condition that always answers lists, for each
left row in order, the right rows compatible with it, merged into it, that the
condition accepts, or the left row alone, padded, when it accepts none; the
difference keeps, with their numbers and in their order, the left rows that no
right row is compatible with while sharing a bound variable; the union lists
the left rows, padded, then the right rows realigned to the combined
variables.  Read as mappings, over bags that name each variable once: the left
join lists, for each left mapping in order, its joins with the compatible
right mappings that a condition on mappings accepts, or itself; the
difference keeps the left mappings that no right mapping is compatible with
while binding a variable they share; the union lists the left mappings, then
the right ones. -/
theorem leftJoin_minus_union_spec (L R : Multiset) :
    (let layout := Layout.ofVariables L.vars R.vars
     let rights := R.entries.map (·.2)
     (∀ {μ : Type → Type} [Monad μ] [LawfulMonad μ] (keep : Solution → Bool),
       ∃ (b : Bag) (blocks : List (List Row)),
         L.leftJoin R (fun s => (pure (keep s) : μ Bool)) = pure (.bag b) ∧
         b.vars = layout.vars ∧ b.rows.map (·.2) = blocks.flatten ∧
         List.Forall₂ (fun left block =>
             block.Perm (layout.leftBlock (fun row => keep ⟨layout.vars, row⟩) rights left))
           (L.entries.map (·.2)) blocks) ∧
     (L.minus R).vars = L.vars ∧
     (L.minus R).entries = L.entries.filter (fun e =>
       !rights.any fun r => layout.compatible e.2 r && layout.sharesBound e.2 r) ∧
     (L.union R).vars = layout.vars ∧
     (L.union R).entries.map (·.2) =
       L.entries.map (fun e => e.2.fit layout.vars.length) ++ rights.map (layout.merge [])) ∧
    (L.WF → R.WF →
      (∀ {μ : Type → Type} [Monad μ] [LawfulMonad μ] (keep : Mapping → Bool),
        ∃ (m : Multiset) (blocks : List (List Mapping)),
          L.leftJoin R (fun s => (pure (keep s.get) : μ Bool)) = pure m ∧
          m.mappings = blocks.flatten ∧
          List.Forall₂ (fun ν block => block.Perm (Mapping.leftBlock keep R.mappings ν))
            L.mappings blocks) ∧
      (L.minus R).mappings = L.mappings.filter (fun ν =>
        ¬ ∃ ρ ∈ R.mappings, Mapping.Compatible ν ρ ∧ Mapping.SharesBound ν ρ) ∧
      (L.union R).mappings = L.mappings ++ R.mappings) :=
  ⟨leftJoin_minus_union_rows L R, fun hL hR =>
    ⟨fun keep => leftJoin_mapping_blocks hL hR keep, mappings_minus hL hR, mappings_union hL hR⟩⟩

open Classical in
/-- A difference removes the left solutions that a right one binds compatibly
on a shared variable, and keeps those that share no bound variable with any. -/
theorem leftJoin_minus_union_spec_of_shared_variable :
    (ofRows [⟨"x"⟩, ⟨"y"⟩] [[some (.iri "http://example.com/a"), none],
      [none, some (.iri "http://example.com/b")]]).WF ∧
    (ofRows [⟨"x"⟩] [[some (.iri "http://example.com/a")]]).WF ∧
    ((ofRows [⟨"x"⟩, ⟨"y"⟩] [[some (.iri "http://example.com/a"), none],
      [none, some (.iri "http://example.com/b")]]).minus
        (ofRows [⟨"x"⟩] [[some (.iri "http://example.com/a")]])).mappings =
      (ofRows [⟨"x"⟩, ⟨"y"⟩] [[some (.iri "http://example.com/a"), none],
        [none, some (.iri "http://example.com/b")]]).mappings.filter (fun ν =>
          ¬ ∃ ρ ∈ (ofRows [⟨"x"⟩] [[some (.iri "http://example.com/a")]]).mappings,
            Mapping.Compatible ν ρ ∧ Mapping.SharesBound ν ρ) := by
  have hL : (ofRows [⟨"x"⟩, ⟨"y"⟩] [[some (.iri "http://example.com/a"), none],
      [none, some (.iri "http://example.com/b")]]).WF := wf_ofRows (by decide) _
  have hR : (ofRows [⟨"x"⟩] [[some (.iri "http://example.com/a")]]).WF := wf_ofRows (by decide) _
  exact ⟨hL, hR, ((leftJoin_minus_union_spec _ _).2 hL hR).2.1⟩

end Multiset

end SparqlBag
