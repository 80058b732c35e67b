import SparqlBag.Proofs.Store.Index

/-!
# The invariant of the indexed content

Every state the content reaches keeps its seven structures in agreement: `slotOf`
finds exactly the stored quads, each of the four indexes is exact for its
position (`IndexExact`), the list of named graphs has no repetition and matches the
set, and every stored quad's graph is declared.  `Indexed` is the part about slots
and indexes; `Invariant` adds the named graphs.  A lookup finds exactly the
matching quads in insertion order (`Indexed.matching_eq`), and every state reached
by a sequence of operations passes the store's own check (`replay_consistent`).
-/

namespace SparqlBag

/-- A fold that threads a state through steps and combines their answers keeps
a property of the state that every step keeps. -/
theorem foldl_keep {σ α ρ ω : Type} (step : σ → α → ρ × σ) (P : σ → Prop) (comb : ω → ρ → ω)
    (hkeep : ∀ s x, P s → P (step s x).2) :
    ∀ (xs : List α) (acc : ω × σ), P acc.2 →
      P (xs.foldl (fun acc x => (comb acc.1 (step acc.2 x).1, (step acc.2 x).2)) acc).2 := by
  intro xs
  induction xs with
  | nil => exact fun _ h => h
  | cons x xs ih => exact fun acc h => ih _ (hkeep acc.2 x h)

namespace Content

variable {c : Content} {q : Quad}

/-! ## The stored quads -/

theorem mem_quads : q ∈ c.quads ↔ ∃ i : Nat, c.slots[i]? = some (some q) := by
  rw [quads, List.mem_filterMap]
  simp only [id_eq, exists_eq_right]
  exact List.mem_iff_getElem?

/-- A quad stored in one slot only leaves the stored quads when its slot is
emptied, and the others keep their order. -/
theorem filterMap_set_none {slots : List (Option Quad)} {i : Nat}
    (hi : slots[i]? = some (some q)) (honly : ∀ j : Nat, slots[j]? = some (some q) → j = i) :
    (slots.set i none).filterMap id = (slots.filterMap id).erase q := by
  obtain ⟨hlt, hget⟩ := List.getElem?_eq_some_iff.1 hi
  have hsplit : slots = slots.take i ++ some q :: slots.drop (i + 1) := by
    conv_lhs => rw [← List.take_append_drop i slots, List.drop_eq_getElem_cons hlt, hget]
  have hnot : q ∉ (slots.take i).filterMap id := by
    intro hmem
    obtain ⟨j, hj⟩ := List.mem_iff_getElem?.1 (by simpa using hmem)
    have hj' : j < i := by
      have := (List.getElem?_eq_some_iff.1 hj).1
      simp at this
      omega
    rw [List.getElem?_take, if_pos hj'] at hj
    exact absurd (honly j hj) (Nat.ne_of_lt hj')
  rw [List.set_eq_take_append_cons_drop, if_pos hlt]
  conv_rhs => rw [hsplit]
  simp only [List.filterMap_append, List.filterMap_cons, id_eq]
  rw [List.erase_append_right _ (show q ∉ (slots.take i).filterMap (fun x => x) from hnot),
    List.erase_cons_head]

/-- Quads that each sit in one slot are stored once. -/
theorem nodup_filterMap_id {slots : List (Option Quad)}
    (honly : ∀ (q : Quad) (i j : Nat), slots[i]? = some (some q) → slots[j]? = some (some q) → i = j) :
    (slots.filterMap id).Nodup := by
  induction slots using List.reverseRecOn with
  | nil => exact List.nodup_nil
  | append_singleton init x ih =>
    have hinit : ∀ (q : Quad) (i j : Nat), init[i]? = some (some q) → init[j]? = some (some q) →
        i = j := by
      intro q i j hi hj
      refine honly q i j ?_ ?_
      · rw [List.getElem?_append_left (List.getElem?_eq_some_iff.1 hi).1, hi]
      · rw [List.getElem?_append_left (List.getElem?_eq_some_iff.1 hj).1, hj]
    rw [List.filterMap_append, List.nodup_append]
    refine ⟨ih hinit, by cases x <;> simp, ?_⟩
    -- The last quad is not stored in an earlier slot as well.
    intro a ha b hb hab
    subst hab
    cases x with
    | none => simp at hb
    | some q =>
      simp only [List.filterMap_cons, id_eq, List.filterMap_nil, List.mem_singleton] at hb
      subst hb
      obtain ⟨j, hj⟩ := List.mem_iff_getElem?.1 (by simpa using ha)
      have hjlt : j < init.length := (List.getElem?_eq_some_iff.1 hj).1
      have := honly a j init.length (by rw [List.getElem?_append_left hjlt, hj]) (by simp)
      omega

/-! ## Slots and indexes -/

/-- The slots and their indexes agree: `slotOf` finds the slot of exactly the
stored quads and has one entry for each, and each index is exact for its
position. -/
structure Indexed (c : Content) : Prop where
  slotOf_iff : ∀ (q : Quad) (i : Nat), c.slotOf[q]? = some i ↔ c.slots[i]? = some (some q)
  size_slotOf : c.slotOf.size = c.quads.length
  bySubject : IndexExact c.bySubject c.slots Quad.subject
  byPredicate : IndexExact c.byPredicate c.slots Quad.predicate
  byObject : IndexExact c.byObject c.slots Quad.object
  byGraphName : IndexExact c.byGraphName c.slots Quad.graph

theorem Indexed.empty : (default : Content).Indexed where
  slotOf_iff q i := by simp [default]
  size_slotOf := by simp [default, quads]
  bySubject := IndexExact.empty
  byPredicate := IndexExact.empty
  byObject := IndexExact.empty
  byGraphName := IndexExact.empty

theorem Indexed.contains_iff (h : c.Indexed) : c.slotOf.contains q ↔ q ∈ c.quads := by
  rw [Std.HashMap.contains_eq_isSome_getElem?, mem_quads, Option.isSome_iff_exists]
  simp only [h.slotOf_iff]

/-- A stored quad sits in one slot only. -/
theorem Indexed.slot_unique (h : c.Indexed) {i j : Nat} (hi : c.slots[i]? = some (some q))
    (hj : c.slots[j]? = some (some q)) : j = i := by
  have hi' := (h.slotOf_iff q i).2 hi
  rw [(h.slotOf_iff q j).2 hj] at hi'
  exact Option.some.inj hi'

theorem Indexed.quads_nodup (h : c.Indexed) : c.quads.Nodup :=
  nodup_filterMap_id fun _ _ _ hi hj => (h.slot_unique hi hj).symm

/-! ## Declaring a graph

Declaring a graph touches the named graphs only. -/

theorem addNamedGraph_eq (c : Content) (g : Term) :
    c.addNamedGraph g = if g ∈ c.namedGraphSet then (false, c)
      else (true, { c with namedGraphSet := c.namedGraphSet.insert g,
                           namedGraphs := c.namedGraphs ++ [g] }) := by
  simp only [addNamedGraph, Std.HashSet.containsThenInsert_fst, Std.HashSet.containsThenInsert_snd,
    Std.HashSet.contains_iff_mem]

/-- The content with the graph of `q` declared, if it is a named graph. -/
def declareGraphOf (c : Content) (q : Quad) : Content :=
  match q.graph with
  | .named g => (c.addNamedGraph g).2
  | .default => c

/-! ## Storing a quad -/

theorem insert_of_contains (hq : c.slotOf.contains q = true) : c.insert q = (false, c) := by
  simp [insert, hq]

/-- A new quad goes to a new last slot, is indexed under its four keys, and
declares its graph. -/
theorem insert_of_not_contains (hq : c.slotOf.contains q = false) :
    c.insert q = (true, { c.declareGraphOf q with
      slots := c.slots ++ [some q]
      slotOf := c.slotOf.insert q c.slots.length
      bySubject := c.bySubject.pushSlot q.subject c.slots.length
      byPredicate := c.byPredicate.pushSlot q.predicate c.slots.length
      byObject := c.byObject.pushSlot q.object c.slots.length
      byGraphName := c.byGraphName.pushSlot q.graph c.slots.length }) := by
  rcases q with ⟨s, p, o, _ | g⟩
  · simp [insert, hq, declareGraphOf]
  · simp only [insert, hq, declareGraphOf, Bool.false_eq_true, if_false]
    rw [addNamedGraph_eq, addNamedGraph_eq]
    split <;> rfl

/-- **Storing a new quad keeps the slots and indexes in agreement.** -/
theorem Indexed.insert (h : c.Indexed) (q : Quad) : (c.insert q).2.Indexed := by
  cases hq : c.slotOf.contains q
  · have hfresh : ∀ i : Nat, c.slots[i]? ≠ some (some q) := fun i hi =>
      absurd (h.contains_iff.2 (mem_quads.2 ⟨i, hi⟩)) (by simp [hq])
    rw [insert_of_not_contains hq]
    refine ⟨fun q' i => ?_, ?_, h.bySubject.pushSlot q, h.byPredicate.pushSlot q,
      h.byObject.pushSlot q, h.byGraphName.pushSlot q⟩
    · -- The new quad is found in the new slot, every other one where it was.
      simp only [Std.HashMap.getElem?_insert]
      by_cases hq' : q = q'
      · subst hq'
        simp only [beq_self_eq_true, if_true, Option.some.injEq]
        constructor
        · rintro rfl
          simp
        · intro hi
          rcases Nat.lt_or_ge i c.slots.length with hlt | hge
          · rw [List.getElem?_append_left hlt] at hi
            exact absurd hi (hfresh i)
          · have hi' := (List.getElem?_eq_some_iff.1 hi).1
            simp at hi'
            omega
      · rw [if_neg (by simpa using hq'), h.slotOf_iff]
        constructor
        · intro hi
          rw [List.getElem?_append_left (List.getElem?_eq_some_iff.1 hi).1, hi]
        · intro hi
          rcases Nat.lt_or_ge i c.slots.length with hlt | hge
          · rwa [List.getElem?_append_left hlt] at hi
          · rw [List.getElem?_append_right hge] at hi
            have : i - c.slots.length = 0 := by
              have := (List.getElem?_eq_some_iff.1 hi).1
              simp at this
              omega
            simp [this] at hi
            exact absurd hi hq'
    · simp only [quads, List.filterMap_append, List.length_append]
      rw [Std.HashMap.size_insert, if_neg (by simpa [Std.HashMap.contains_iff_mem] using hq),
        h.size_slotOf]
      simp [quads]
  · rw [insert_of_contains hq]
    exact h

/-! ## Removing a quad -/

theorem remove_of_getElem?_none (hq : c.slotOf[q]? = none) : c.remove q = (false, c) := by
  simp [remove, hq]

/-- A stored quad leaves its slot empty and is dropped from its four keys. -/
theorem remove_of_getElem?_some {i : Nat} (hq : c.slotOf[q]? = some i) :
    c.remove q = (true, { c with
      slotOf := c.slotOf.erase q
      slots := c.slots.set i none
      bySubject := c.bySubject.removeSlot q.subject i
      byPredicate := c.byPredicate.removeSlot q.predicate i
      byObject := c.byObject.removeSlot q.object i
      byGraphName := c.byGraphName.removeSlot q.graph i }) := by
  simp [remove, hq]

/-- Removing a quad erases it from the stored quads and keeps the others in order. -/
theorem Indexed.remove_quads (h : c.Indexed) (q : Quad) : (c.remove q).2.quads = c.quads.erase q := by
  cases hq : c.slotOf[q]? with
  | none =>
    have hnot : q ∉ c.quads := fun hm => by
      simpa [Std.HashMap.contains_eq_isSome_getElem?, hq] using h.contains_iff.2 hm
    rw [remove_of_getElem?_none hq, List.erase_of_not_mem hnot]
  | some i =>
    rw [remove_of_getElem?_some hq]
    exact filterMap_set_none ((h.slotOf_iff q i).1 hq) fun j hj => h.slot_unique ((h.slotOf_iff q i).1 hq) hj

/-- **Removing a quad keeps the slots and indexes in agreement.** -/
theorem Indexed.remove (h : c.Indexed) (q : Quad) : (c.remove q).2.Indexed := by
  cases hq : c.slotOf[q]? with
  | none => rw [remove_of_getElem?_none hq]; exact h
  | some i =>
    have hi : c.slots[i]? = some (some q) := (h.slotOf_iff q i).1 hq
    have hquads := h.remove_quads q
    rw [remove_of_getElem?_some hq] at hquads ⊢
    refine ⟨fun q' j => ?_, ?_, h.bySubject.removeSlot hi, h.byPredicate.removeSlot hi,
      h.byObject.removeSlot hi, h.byGraphName.removeSlot hi⟩
    · -- The removed quad is found nowhere, every other one where it was.
      simp only [Std.HashMap.getElem?_erase, List.getElem?_set]
      by_cases hq' : q = q'
      · subst hq'
        simp only [beq_self_eq_true, if_true, reduceCtorEq, false_iff]
        intro hj
        split at hj
        · split at hj <;> simp at hj
        · exact ‹¬i = j› (h.slot_unique hi hj).symm
      · rw [if_neg (by simpa using hq'), h.slotOf_iff]
        by_cases hij : i = j
        · subst hij
          have hlt : i < c.slots.length := (List.getElem?_eq_some_iff.1 hi).1
          simp only [hi, if_true, hlt, Option.some.injEq, reduceCtorEq, iff_false]
          exact hq'
        · simp [hij]
    · rw [hquads, Std.HashMap.size_erase, if_pos (Std.HashMap.mem_iff_isSome_getElem?.2 (by simp [hq])),
        h.size_slotOf, List.length_erase_of_mem (mem_quads.2 ⟨i, hi⟩)]

/-! ## Lookups and the self-check -/

/-- The first of the shortest lists is one of the lists. -/
theorem shortestList_mem {xs : List (List Nat)} {l : List Nat} (h : shortestList xs = some l) :
    l ∈ xs := by
  cases xs with
  | nil => cases h
  | cons first rest =>
    -- The running choice is always the first list or one of the rest.
    have key : ∀ (best : List Nat) (ys : List (List Nat)),
        ys.foldl (fun best xs => if xs.length < best.length then xs else best) best ∈ best :: ys := by
      intro best ys
      induction ys generalizing best with
      | nil => simp
      | cons y ys ih =>
        rw [List.foldl_cons]
        split
        · exact List.mem_cons_of_mem _ (ih y)
        · rcases List.mem_cons.1 (ih best) with heq | hmem
          · rw [heq]
            exact List.mem_cons_self
          · exact List.mem_cons_of_mem _ (List.mem_cons_of_mem _ hmem)
    simp only [shortestList, Option.some.injEq] at h
    exact h ▸ key first rest

/-- Keeping the quads with one key and then the matching ones keeps the
matching ones, when matching implies that key. -/
theorem filter_key_matches {κ : Type} [DecidableEq κ] {key : Quad → κ} {k : κ}
    {m : Quad → Bool} (hm : ∀ q, m q = true → key q = k) :
    (c.quads.filter (key · == k)).filter m = c.quads.filter m := by
  rw [List.filter_filter]
  refine List.filter_congr fun q _ => ?_
  by_cases hq : m q = true
  · simp [hq, hm q hq]
  · simp [hq]

/-- Scanning the slots an exact index holds for `k` and keeping the matching
quads finds every matching quad, when matching implies the key `k`. -/
theorem scan_exact_index {κ : Type} [DecidableEq κ] [Hashable κ] {index : QuadIndex κ}
    {key : Quad → κ} (hx : IndexExact index c.slots key) {k : κ} {m : Quad → Bool}
    (hm : ∀ q, m q = true → key q = k) :
    ((index.lookup k).filterMap fun slot => (c.slots[slot]?).join).filter m = c.quads.filter m := by
  rw [hx.lookup_eq, filterMap_slotsWith]
  exact filter_key_matches hm

/-- **A lookup finds exactly the stored quads that match, in insertion order**,
whichever index it scans. -/
theorem Indexed.matching_eq (h : c.Indexed) (s : Option Term) (p : Option String)
    (o : Option Term) (g : Option GraphName) :
    c.matching s p o g = c.quads.filter (·.matches s p o g) := by
  simp only [matching]
  split
  · rename_i slots hs
    have hmem := shortestList_mem hs
    simp only [List.mem_filterMap, id_eq, exists_eq_right, List.mem_cons, List.not_mem_nil,
      or_false] at hmem
    -- The scanned list is the one of a bound position.
    rcases hmem with hk | hk | hk | hk
    · cases s <;> simp at hk
      subst hk
      exact scan_exact_index h.bySubject fun q hq => by simp_all [Quad.matches]
    · cases p <;> simp at hk
      subst hk
      exact scan_exact_index h.byPredicate fun q hq => by simp_all [Quad.matches]
    · cases o <;> simp at hk
      subst hk
      exact scan_exact_index h.byObject fun q hq => by simp_all [Quad.matches]
    · cases g <;> simp at hk
      subst hk
      exact scan_exact_index h.byGraphName fun q hq => by simp_all [Quad.matches]
  · rfl

/-- A loop whose every step goes on ends without an error. -/
theorem forIn_yield_ok {α ε : Type} (l : List α) (f : α → PUnit → Except ε (ForInStep PUnit))
    (hf : ∀ x ∈ l, f x ⟨⟩ = .ok (.yield ⟨⟩)) : forIn l ⟨⟩ f = .ok ⟨⟩ := by
  induction l with
  | nil => rfl
  | cons x xs ih =>
    rw [List.forIn_cons, hf x List.mem_cons_self]
    exact ih fun y hy => hf y (List.mem_cons_of_mem _ hy)

/-- **The self-check passes on indexed content**: every entry of `slotOf` names
the slot of its quad, binary search finds that slot under each of its keys, and
there are as many entries as stored quads. -/
theorem Indexed.validate (h : c.Indexed) : c.validate = .ok () := by
  unfold Content.validate
  rw [forIn_yield_ok]
  · simp [h.size_slotOf]
  · rintro ⟨q, i⟩ hmem
    have hi : c.slots[i]? = some (some q) :=
      (h.slotOf_iff q i).1 (Std.HashMap.mem_toList_iff_getElem?_eq_some.1 hmem)
    simp [hi, h.bySubject.containsSlot hi, h.byPredicate.containsSlot hi,
      h.byObject.containsSlot hi, h.byGraphName.containsSlot hi]
    rfl

/-! ## Removing many quads -/

theorem remove_namedGraphs (c : Content) (q : Quad) :
    (c.remove q).2.namedGraphs = c.namedGraphs := by
  unfold Content.remove; split <;> rfl

theorem remove_namedGraphSet (c : Content) (q : Quad) :
    (c.remove q).2.namedGraphSet = c.namedGraphSet := by
  unfold Content.remove; split <;> rfl

/-- Removing distinct stored quads one after another keeps the content indexed
and removes exactly them, keeping the order of the others. -/
theorem Indexed.foldl_remove (h : c.Indexed) (qs : List Quad) (hqs : qs.Nodup)
    (hsub : ∀ q ∈ qs, q ∈ c.quads) :
    (qs.foldl (fun c q => (c.remove q).2) c).Indexed ∧
      (qs.foldl (fun c q => (c.remove q).2) c).quads = c.quads.filter (· ∉ qs) := by
  induction qs generalizing c with
  | nil => simp [h]
  | cons q qs ih =>
    obtain ⟨hq, hqs'⟩ := List.nodup_cons.1 hqs
    have hquads := h.remove_quads q
    have hsub' : ∀ q' ∈ qs, q' ∈ (c.remove q).2.quads := fun q' hq' => by
      rw [hquads]
      have hne : q' ≠ q := fun he => hq (by rw [← he]; exact hq')
      exact (List.mem_erase_of_ne hne).2 (hsub q' (List.mem_cons_of_mem _ hq'))
    obtain ⟨hidx, hrest⟩ := ih (h.remove q) hqs' hsub'
    refine ⟨hidx, ?_⟩
    rw [List.foldl_cons, hrest, hquads, h.quads_nodup.erase_eq_filter, List.filter_filter]
    refine List.filter_congr fun x _ => ?_
    by_cases hx : x = q <;> simp [hx]

/-- Removing quads one after another keeps the named graphs. -/
theorem foldl_remove_namedGraphs (qs : List Quad) (c : Content) :
    (qs.foldl (fun c q => (c.remove q).2) c).namedGraphs = c.namedGraphs ∧
      (qs.foldl (fun c q => (c.remove q).2) c).namedGraphSet = c.namedGraphSet := by
  induction qs generalizing c with
  | nil => exact ⟨rfl, rfl⟩
  | cons q qs ih =>
    rw [List.foldl_cons, (ih _).1, (ih _).2, remove_namedGraphs, remove_namedGraphSet]
    exact ⟨rfl, rfl⟩

/-! ## The named graphs -/

/-- Indexed content whose named graphs are listed once each, agree with their
set, and include the graph of every stored quad. -/
structure Invariant (c : Content) : Prop extends c.Indexed where
  namedGraphs_nodup : c.namedGraphs.Nodup
  mem_namedGraphs : ∀ g, g ∈ c.namedGraphs ↔ g ∈ c.namedGraphSet
  graph_declared : ∀ q ∈ c.quads, ∀ g, q.graph = .named g → g ∈ c.namedGraphs

theorem Invariant.empty : (default : Content).Invariant where
  toIndexed := Indexed.empty
  namedGraphs_nodup := List.nodup_nil
  mem_namedGraphs g := by simp [default]
  graph_declared q hq := by simp [default, quads] at hq

/-- **Declaring a graph keeps the invariant**, and the graph is declared after. -/
theorem Invariant.addNamedGraph (h : c.Invariant) (g : Term) :
    (c.addNamedGraph g).2.Invariant ∧ g ∈ (c.addNamedGraph g).2.namedGraphs ∧
      c.namedGraphs ⊆ (c.addNamedGraph g).2.namedGraphs := by
  rw [addNamedGraph_eq]
  split
  · exact ⟨h, (h.mem_namedGraphs g).2 ‹_›, List.Subset.refl _⟩
  · rename_i hg
    have hnot : g ∉ c.namedGraphs := fun hm => hg ((h.mem_namedGraphs g).1 hm)
    refine ⟨⟨⟨h.slotOf_iff, h.size_slotOf, h.bySubject, h.byPredicate, h.byObject, h.byGraphName⟩,
      ?_, ?_, ?_⟩, by simp, List.subset_append_left _ _⟩
    · refine List.nodup_append.2 ⟨h.namedGraphs_nodup, List.nodup_singleton g, ?_⟩
      intro a ha b hb hab
      simp only [List.mem_singleton] at hb
      subst hb hab
      exact hnot ha
    · intro g'
      simp only [List.mem_append, List.mem_singleton, Std.HashSet.mem_insert, beq_iff_eq,
        h.mem_namedGraphs]
      tauto
    · intro q hq g' hg'
      exact List.mem_append_left _ (h.graph_declared q hq g' hg')

/-- **Storing a quad keeps the invariant.** -/
theorem Invariant.insert (h : c.Invariant) (q : Quad) : (c.insert q).2.Invariant := by
  cases hq : c.slotOf.contains q
  · -- The declared part: unchanged for the default graph, one more graph otherwise.
    have hdecl : (c.declareGraphOf q).Invariant ∧
        (∀ g, q.graph = .named g → g ∈ (c.declareGraphOf q).namedGraphs) ∧
        c.namedGraphs ⊆ (c.declareGraphOf q).namedGraphs := by
      unfold declareGraphOf
      split
      · rename_i g hg
        obtain ⟨hi, hmem, hsub⟩ := h.addNamedGraph g
        refine ⟨hi, ?_, hsub⟩
        intro g' hg'
        rw [hg] at hg'
        cases hg'
        exact hmem
      · rename_i hg
        refine ⟨h, ?_, List.Subset.refl _⟩
        intro g' hg'
        rw [hg] at hg'
        cases hg'
    obtain ⟨hd, hgq, hsub⟩ := hdecl
    have hidx := h.toIndexed.insert q
    rw [insert_of_not_contains hq] at hidx ⊢
    refine ⟨hidx, hd.namedGraphs_nodup, hd.mem_namedGraphs, ?_⟩
    intro q' hq' g hg
    simp only [quads, List.filterMap_append, List.mem_append] at hq'
    rcases hq' with hq' | hq'
    · exact hsub (h.graph_declared q' hq' g hg)
    · simp only [List.filterMap_cons, id_eq, List.filterMap_nil, List.mem_singleton] at hq'
      subst hq'
      exact hgq g hg
  · rw [insert_of_contains hq]
    exact h

/-- **Removing a quad keeps the invariant.** -/
theorem Invariant.remove (h : c.Invariant) (q : Quad) : (c.remove q).2.Invariant where
  toIndexed := h.toIndexed.remove q
  namedGraphs_nodup := by rw [remove_namedGraphs]; exact h.namedGraphs_nodup
  mem_namedGraphs := by rw [remove_namedGraphs, remove_namedGraphSet]; exact h.mem_namedGraphs
  graph_declared q' hq' g hg := by
    rw [h.toIndexed.remove_quads] at hq'
    rw [remove_namedGraphs]
    exact h.graph_declared q' (List.mem_of_mem_erase hq') g hg

/-- The quads a named graph removal takes away: the stored quads of that graph. -/
theorem Indexed.quads_in_graph (h : c.Indexed) (g : Term) :
    c.matching none none none (some (.named g)) = c.quads.filter (·.graph == .named g) := by
  rw [h.matching_eq]
  refine List.filter_congr fun q _ => ?_
  simp [Quad.matches, eq_comm]

/-- **Removing a named graph keeps the invariant**: its quads go with it, so no
stored quad is left in an undeclared graph. -/
theorem Invariant.removeNamedGraph (h : c.Invariant) (g : Term) :
    (c.removeNamedGraph g).2.Invariant ∧
      (c.removeNamedGraph g).2.quads = c.quads.filter (·.graph != .named g) ∧
      (c.removeNamedGraph g).2.namedGraphs = c.namedGraphs.filter (· != g) := by
  by_cases hg : g ∈ c.namedGraphSet
  · have hg' : g ∈ c.namedGraphs := (h.mem_namedGraphs g).2 hg
    have hc : c.namedGraphSet.contains g = true := Std.HashSet.contains_iff_mem.2 hg
    obtain ⟨c₁, hc₁⟩ : ∃ c₁ : Content,
        c₁ = { c with
          namedGraphSet := c.namedGraphSet.erase g
          namedGraphs := c.namedGraphs.filter (· != g) } := ⟨_, rfl⟩
    have hrm : c.removeNamedGraph g =
        (true, (c₁.matching none none none (some (.named g))).foldl (fun c q => (c.remove q).2) c₁) := by
      simp [Content.removeNamedGraph, hc, hc₁]
    rw [hrm]
    have hi₁ : c₁.Indexed := by
      subst hc₁
      exact ⟨h.slotOf_iff, h.size_slotOf, h.bySubject, h.byPredicate, h.byObject, h.byGraphName⟩
    have hq₁ : c₁.quads = c.quads := by subst hc₁; rfl
    have hng₁ : c₁.namedGraphs = c.namedGraphs.filter (· != g) := by subst hc₁; rfl
    have hset₁ : c₁.namedGraphSet = c.namedGraphSet.erase g := by subst hc₁; rfl
    -- The quads of the graph, removed one by one.
    obtain ⟨hidx, hquads⟩ := hi₁.foldl_remove (c₁.quads.filter (·.graph == .named g))
      (hi₁.quads_nodup.filter _) (fun q hq => (List.mem_filter.1 hq).1)
    obtain ⟨hng, hset⟩ := foldl_remove_namedGraphs (c₁.quads.filter (·.graph == .named g)) c₁
    have hfinal : c₁.quads.filter (· ∉ c₁.quads.filter (·.graph == .named g)) =
        c.quads.filter (·.graph != .named g) := by
      rw [hq₁]
      refine List.filter_congr fun q hq => ?_
      by_cases hgq : q.graph = .named g <;> simp [hgq, hq]
    rw [hi₁.quads_in_graph g]
    rw [hfinal] at hquads
    refine ⟨⟨hidx, ?_, ?_, ?_⟩, hquads, by rw [hng, hng₁]⟩
    · rw [hng, hng₁]
      exact h.namedGraphs_nodup.filter _
    · intro g'
      rw [hng, hset, hng₁, hset₁]
      simp only [List.mem_filter, bne_iff_ne, ne_eq, Std.HashSet.mem_erase, beq_eq_false_iff_ne,
        h.mem_namedGraphs]
      constructor
      · rintro ⟨hm, hne⟩
        exact ⟨fun he => hne he.symm, hm⟩
      · rintro ⟨hne, hm⟩
        exact ⟨hm, fun he => hne he.symm⟩
    · intro q hq g' hg'
      rw [hquads, List.mem_filter] at hq
      rw [hng, hng₁]
      refine List.mem_filter.2 ⟨h.graph_declared q hq.1 g' hg', ?_⟩
      simp only [bne_iff_ne, ne_eq] at hq ⊢
      intro he
      exact hq.2 (he ▸ hg')
  · have hg' : g ∉ c.namedGraphs := fun hm => hg ((h.mem_namedGraphs g).1 hm)
    have hc : c.namedGraphSet.contains g = false := by
      simpa [Std.HashSet.contains_iff_mem] using hg
    simp only [Content.removeNamedGraph, hc, Bool.not_false, if_true]
    -- An undeclared graph holds no stored quad, so both filters keep everything.
    refine ⟨h, (List.filter_eq_self.2 fun q hq => ?_).symm,
      (List.filter_eq_self.2 fun g' hg'' => ?_).symm⟩
    · simp only [bne_iff_ne, ne_eq]
      exact fun hq' => hg' (h.graph_declared q hq g hq')
    · simp only [bne_iff_ne, ne_eq]
      exact fun he => hg' (he ▸ hg'')

/-- **Storing quads one after another keeps the invariant.** -/
theorem Invariant.insertQuads (h : c.Invariant) (qs : List Quad) : (c.insertQuads qs).2.Invariant :=
  foldl_keep Content.insert Invariant (fun n b => if b then n + 1 else n)
    (fun _ q hs => hs.insert q) qs (0, c) h

end Content

/-! ## Sequences of operations -/

/-- An operation on the quads and named graphs of a dataset. -/
inductive StoreOp where
  | insert (q : Quad)
  | insertQuads (qs : List Quad)
  /-- Inserts triples into the default graph. -/
  | extend (ts : List Triple)
  | remove (q : Quad)
  | insertNamedGraph (g : Term)
  | removeNamedGraph (g : Term)
  | clear
  /-- Takes a copy, which starts from the same content. -/
  | snapshot

/-- What an operation answers: whether it changed something, how many quads
were new, or nothing. -/
inductive StoreAnswer where
  | flag (b : Bool)
  | count (n : Nat)
  | done
  deriving DecidableEq

namespace Content

variable {c : Content}

/-- Applies one operation. -/
def apply (c : Content) : StoreOp → StoreAnswer × Content
  | .insert q => let (b, c) := c.insert q; (.flag b, c)
  | .insertQuads qs => let (n, c) := c.insertQuads qs; (.count n, c)
  | .extend ts => let (n, c) := c.extendGraph ts; (.count n, c)
  | .remove q => let (b, c) := c.remove q; (.flag b, c)
  | .insertNamedGraph g => let (b, c) := c.addNamedGraph g; (.flag b, c)
  | .removeNamedGraph g => let (b, c) := c.removeNamedGraph g; (.flag b, c)
  | .clear => (.done, default)
  | .snapshot => (.done, c)

/-- Applies operations one after another, collecting the answers. -/
def replayFrom (c : Content) (ops : List StoreOp) : List StoreAnswer × Content :=
  ops.foldl (fun (acc : List StoreAnswer × Content) op =>
    let (a, c) := acc.2.apply op
    (acc.1 ++ [a], c)) ([], c)

/-- Applies operations to the empty content. -/
def replay (ops : List StoreOp) : List StoreAnswer × Content := replayFrom default ops

/-- **Every operation keeps the invariant.** -/
theorem Invariant.apply (h : c.Invariant) : ∀ op, (c.apply op).2.Invariant
  | .insert q => h.insert q
  | .insertQuads qs => h.insertQuads qs
  | .extend _ => h.insertQuads _
  | .remove q => h.remove q
  | .insertNamedGraph g => (h.addNamedGraph g).1
  | .removeNamedGraph g => (h.removeNamedGraph g).1
  | .clear => Invariant.empty
  | .snapshot => h

/-- The invariant holds after every sequence of operations. -/
theorem Invariant.replayFrom (h : c.Invariant) (ops : List StoreOp) :
    (c.replayFrom ops).2.Invariant :=
  foldl_keep Content.apply Invariant (fun as a => as ++ [a]) (fun _ op hs => hs.apply op) ops ([], c) h

/-- **Every reachable content passes its self-check, and its indexes are sound**:
after any sequence of operations from the empty content, `validate` succeeds;
each of the four indexes holds strictly increasing, non-empty lists, the list of
a key being exactly the slots of the stored quads with that key; the named
graphs are listed once each and agree with their set; and every stored quad in
a named graph has that graph declared. -/
theorem replay_consistent (ops : List StoreOp) :
    let c := (Content.replay ops).2
    c.validate = .ok () ∧
      IndexSound c.bySubject c.slots Quad.subject ∧
      IndexSound c.byPredicate c.slots Quad.predicate ∧
      IndexSound c.byObject c.slots Quad.object ∧
      IndexSound c.byGraphName c.slots Quad.graph ∧
      c.namedGraphs.Nodup ∧ (∀ g, g ∈ c.namedGraphs ↔ g ∈ c.namedGraphSet) ∧
      ∀ q ∈ c.quads, ∀ g, q.graph = .named g → g ∈ c.namedGraphs := by
  have h := Invariant.empty.replayFrom ops
  exact ⟨h.validate, IndexExact.sound h.bySubject, IndexExact.sound h.byPredicate,
    IndexExact.sound h.byObject, IndexExact.sound h.byGraphName, h.namedGraphs_nodup,
    h.mem_namedGraphs, h.graph_declared⟩

end Content

end SparqlBag
