import SparqlBag.Proofs.Solution.Operations

/-!
# The indexed join is a nested-loop join

`Multiset.join` looks up, for a left row binding every shared variable, the
right rows with the same values, then checks those leaving a shared variable
unbound; for other left rows it checks every right row (`Layout.candidates`).
For each left row the join lists one block, the nested-loop block in another
order (`Multiset.join_eq_ofRows_blocks`), so the join and the left join have the
rows of the nested loop up to order (`Multiset.join_agrees_with_nestedLoop`).
None of this needs distinct variables or full rows: it is about rows, not the
mappings they stand for.
-/

namespace SparqlBag

namespace Layout

/-- The nested-loop block of a left row: the right rows it is compatible with,
in their order, each merged into it. -/
def nestedBlock (l : Layout) (rights : List Row) (left : Row) : List Row :=
  (rights.filter (l.compatible left)).map (l.merge left)

/-- The nested-loop join: the block of each left row, the left rows in order. -/
def nestedLoop (l : Layout) (lefts rights : List Row) : List Row :=
  lefts.flatMap (l.nestedBlock rights)

/-- The nested-loop left join: of the block of each left row, the rows that
`keep` accepts, or the left row alone when it accepts none. -/
def nestedLoopLeft (l : Layout) (keep : Row → Bool) (lefts rights : List Row) : List Row :=
  lefts.flatMap fun left =>
    let kept := (l.nestedBlock rights left).filter keep
    if kept.isEmpty then [left.fit l.vars.length] else kept

theorem length_foldl_fill (acc : Row) (vts : List (Option Term × Nat)) :
    (vts.foldl fill acc).length = acc.length := by
  induction vts generalizing acc with
  | nil => rfl
  | cons vt vts ih => rw [List.foldl_cons, ih, length_fill]

/-- A merged row holds one value per combined variable. -/
@[simp] theorem length_merge (l : Layout) (left right : Row) :
    (l.merge left right).length = l.vars.length := by
  rw [merge, length_foldl_fill, Row.length_fit]

/-- Merged rows are full already: filling them to the width changes nothing. -/
theorem map_merge_fit (l : Layout) (left : Row) (rights : List Row) :
    (rights.map fun right => (l.merge left right).fit l.vars.length) = rights.map (l.merge left) :=
  List.map_congr_left fun right _ => Row.fit_of_length (l.length_merge left right)

theorem map_fit_map_merge (l : Layout) (left : Row) (rights : List Row) :
    (rights.map (l.merge left)).map (Row.fit · l.vars.length) = rights.map (l.merge left) := by
  rw [List.map_map]
  exact l.map_merge_fit left rights

/-- The block the join gives a left row is its nested-loop block in another order. -/
theorem candidates_merge_perm (l : Layout) (rights : List Row) (left : Row) :
    ((l.candidates rights left).map (l.merge left)).Perm (l.nestedBlock rights left) :=
  (l.candidates_perm rights left).map _

end Layout

/-- Numbering the slots, keeping the filled ones with their numbers, and
forgetting the numbers again keeps the filled slots. -/
theorem map_snd_filterMap_zipIdx {α : Type} :
    ∀ (slots : List (Option α)) (n : Nat),
      ((slots.zipIdx n).filterMap fun x => x.1.map (x.2, ·)).map (·.2) = slots.filterMap id
  | [], _ => rfl
  | none :: slots, n => by
    simpa [List.zipIdx_cons] using map_snd_filterMap_zipIdx slots (n + 1)
  | some a :: slots, n => by
    simpa [List.zipIdx_cons] using map_snd_filterMap_zipIdx slots (n + 1)

/-- Rows paired with their verdicts, the rejected ones emptied, are the
accepted rows once the empty slots are dropped. -/
theorem filterMap_verdicts {α : Type} (k : α → Bool) :
    ∀ xs : List α,
      ((xs.zip (xs.map k)).map fun x => if x.2 = true then some x.1 else none).filterMap id =
        xs.filter k
  | [] => rfl
  | x :: xs => by
    have ih := filterMap_verdicts k xs
    cases hk : k x
    · simpa [List.filter_cons, hk] using ih
    · simpa [List.filter_cons, hk] using ih

/-- Some element passes a test exactly when the elements that pass are not none. -/
theorem any_eq_not_isEmpty_filter {α : Type} (k : α → Bool) (xs : List α) :
    xs.any k = !(xs.filter k).isEmpty := by
  induction xs with
  | nil => rfl
  | cons x xs ih => cases hk : k x <;> simp [hk, ih]

namespace Multiset

/-- **The join lists one block per left row**, in the order of the left rows:
the left row's candidates merged into it, a permutation of its nested-loop
block. -/
theorem join_eq_ofRows_blocks (L R : Bag) :
    ∃ blocks : List (List Row),
      List.Forall₂ (fun (e : Nat × Row) block =>
          block.Perm ((Layout.ofVariables L.vars R.vars).nestedBlock (R.rows.map (·.2)) e.2))
        L.rows blocks ∧
      join (.bag L) (.bag R) = ofRows (Layout.ofVariables L.vars R.vars).vars blocks.flatten := by
  set layout := Layout.ofVariables L.vars R.vars
  refine ⟨L.rows.map fun e => (layout.candidates (R.rows.map (·.2)) e.2).map (layout.merge e.2),
    ?_, ?_⟩
  · rw [List.forall₂_map_right_iff]
    exact List.forall₂_same.2 fun e _ => layout.candidates_merge_perm _ e.2
  · rw [join_bag_bag, ← List.flatMap_def]
    rfl

/-- The rows of the join, read block by block, are those of the nested loop up
to order: each merged row has the width of the combined variables already. -/
theorem join_rows_perm_nestedLoop (L R : Bag) :
    ((join (.bag L) (.bag R)).entries.map (·.2)).Perm
      ((Layout.ofVariables L.vars R.vars).nestedLoop (L.rows.map (·.2)) (R.rows.map (·.2))) := by
  set layout := Layout.ofVariables L.vars R.vars
  have hjoin : join (.bag L) (.bag R) = ofRows layout.vars (L.rows.flatMap fun e =>
      (layout.candidates (R.rows.map (·.2)) e.2).map (layout.merge e.2)) := rfl
  rw [hjoin, entries_ofRows, List.map_flatMap, Layout.nestedLoop, List.flatMap_map]
  refine List.Perm.flatMap_left _ fun e _ => ?_
  rw [layout.map_fit_map_merge]
  exact layout.candidates_merge_perm _ e.2

/-- A left row that leaves the shared variable unbound meets every right row. -/
example :
    (join (ofRows [⟨"x"⟩, ⟨"y"⟩]
        [[some (.iri "http://example.com/a"), some (.literal (.typed "1" Xsd.integer))],
         [some (.iri "http://example.com/b"), some (.literal (.typed "2" Xsd.integer))],
         [none, some (.literal (.typed "3" Xsd.integer))]])
      (ofRows [⟨"x"⟩, ⟨"z"⟩]
        [[some (.iri "http://example.com/a"), some (.literal (.typed "10" Xsd.integer))],
         [some (.iri "http://example.com/c"), some (.literal (.typed "30" Xsd.integer))]])).entries.map
      (·.2) =
    [[some (.iri "http://example.com/a"), some (.literal (.typed "1" Xsd.integer)),
      some (.literal (.typed "10" Xsd.integer))],
     [some (.iri "http://example.com/a"), some (.literal (.typed "3" Xsd.integer)),
      some (.literal (.typed "10" Xsd.integer))],
     [some (.iri "http://example.com/c"), some (.literal (.typed "3" Xsd.integer)),
      some (.literal (.typed "30" Xsd.integer))]] := by
  decide

/-- **The rows of a left join**, with a condition that has no effect: for each
left row, its candidates merged into it that the condition accepts, and the
left row alone when it accepts none. -/
theorem leftJoin_rows (L R : Bag) (keep : Solution → Bool) :
    (Id.run ((Multiset.bag L).leftJoin (.bag R) fun s => pure (keep s))).entries.map (·.2) =
      L.rows.flatMap fun e =>
        let joined := ((Layout.ofVariables L.vars R.vars).candidates (R.rows.map (·.2)) e.2).map
          ((Layout.ofVariables L.vars R.vars).merge e.2)
        let kept := joined.filter fun row => keep ⟨(Layout.ofVariables L.vars R.vars).vars, row⟩
        if kept.isEmpty then [e.2.fit (Layout.ofVariables L.vars R.vars).vars.length] else kept := by
  simp only [leftJoin, toBag, List.mapM_pure, bind_pure_comp, map_pure, Id.run_pure, entries]
  rw [map_snd_filterMap_zipIdx, ← List.map_prod_left_eq_zip, List.flatMap_map,
    List.filterMap_flatMap]
  refine List.flatMap_congr fun e _ => ?_
  dsimp only
  set layout := Layout.ofVariables L.vars R.vars
  rw [layout.map_merge_fit, List.filterMap_append, filterMap_verdicts, List.any_map,
    Function.id_comp, any_eq_not_isEmpty_filter]
  -- the left row comes alone exactly when none of its joined rows is kept
  by_cases hk : (((layout.candidates (R.rows.map (·.2)) e.2).map (layout.merge e.2)).filter
      fun row => keep ⟨layout.vars, row⟩).isEmpty
  · rw [if_pos hk, if_neg (by simp [hk]), List.isEmpty_iff.1 hk]
    rfl
  · rw [if_neg hk, if_pos (by simpa using hk), List.filterMap_nil, List.append_nil]

/-- The rows of a left join are those of the nested-loop left join up to order. -/
theorem leftJoin_rows_perm_nestedLoopLeft (L R : Bag) (keep : Solution → Bool) :
    ((Id.run ((Multiset.bag L).leftJoin (.bag R) fun s => pure (keep s))).entries.map (·.2)).Perm
      ((Layout.ofVariables L.vars R.vars).nestedLoopLeft
        (fun row => keep ⟨(Layout.ofVariables L.vars R.vars).vars, row⟩)
        (L.rows.map (·.2)) (R.rows.map (·.2))) := by
  set layout := Layout.ofVariables L.vars R.vars
  rw [leftJoin_rows, Layout.nestedLoopLeft, List.flatMap_map]
  refine List.Perm.flatMap_left _ fun e _ => ?_
  -- the accepted candidates are the accepted nested-loop rows in another order
  have hkept := (layout.candidates_merge_perm (R.rows.map (·.2)) e.2).filter
    fun row => keep ⟨layout.vars, row⟩
  dsimp only
  rw [hkept.isEmpty_eq]
  split
  · exact List.Perm.refl _
  · exact hkept

/-- **The indexed join agrees with the nested-loop join.**  The candidates of a
left row are exactly its compatible right rows, each once; the join lists, for
each left row in order, one block that is its nested-loop block in another
order; so its rows are those of the nested loop up to order; and the left join,
which tries the same candidates, has the rows of the nested-loop left join up
to order. -/
theorem join_agrees_with_nestedLoop (L R : Bag) :
    let layout := Layout.ofVariables L.vars R.vars
    let lefts := L.rows.map (·.2)
    let rights := R.rows.map (·.2)
    (∀ left : Row, (layout.candidates rights left).Perm (rights.filter (layout.compatible left))) ∧
    (∃ blocks : List (List Row),
      List.Forall₂ (fun (e : Nat × Row) block => block.Perm (layout.nestedBlock rights e.2))
        L.rows blocks ∧
      join (.bag L) (.bag R) = ofRows layout.vars blocks.flatten) ∧
    ((join (.bag L) (.bag R)).entries.map (·.2)).Perm (layout.nestedLoop lefts rights) ∧
    ∀ keep : Solution → Bool,
      ((Id.run ((Multiset.bag L).leftJoin (.bag R) fun s => pure (keep s))).entries.map (·.2)).Perm
        (layout.nestedLoopLeft (fun row => keep ⟨layout.vars, row⟩) lefts rights) := by
  intro layout lefts rights
  exact ⟨layout.candidates_perm rights, join_eq_ofRows_blocks L R, join_rows_perm_nestedLoop L R,
    leftJoin_rows_perm_nestedLoopLeft L R⟩

end Multiset

end SparqlBag
